import WheelInstaller.Utility.TextPattern
import WheelInstaller.Utility.Options

/-! `expr`: the value of an expression whose operators and operands are arguments of their own. -/

namespace WheelInstaller.Utility.Expression

def integer? (text : Raw) : Option Int :=
  let (negative, digits) := match text with
    | '-' :: digits => (true, digits)
    | digits => (false, digits)
  if digits.isEmpty || !digits.all Char.isDigit then none
  else
    let value : Int := Raw.digitsValue digits
    some (if negative then -value else value)

/-- A value that counts as nothing. -/
def isNull (text : Raw) : Bool :=
  text.isEmpty || integer? text = some 0

/-- What was read: the value, the last argument that was used, and the arguments that are left. -/
structure Progress where
  value : Raw := []
  before : Raw
  rest : List Raw

/-- Readers of expressions, which fail with a complaint. -/
abbrev Verdict := Except Raw

/-- What matching a text comes to: the first part, or the number of characters. -/
def matchText (text pattern : Raw) : Verdict Raw := do
  match TextPattern.read { isStrict := false } pattern with
  | .error complaint => throw complaint.toList
  | .ok pattern =>
    let hasParts := pattern.partCount ≠ 0
    match pattern.match? text with
    | some found =>
      if hasParts then return ((found.parts.find? (·.1 = 1)).map (·.2)).getD []
      else return Raw.ofNat found.length
    | none => return if hasParts then [] else ['0']

def compareValues? (operator : String) (left right : Raw) : Option Bool :=
  let order := match integer? left, integer? right with
    | some left, some right => compare left right
    | _, _ => Raw.order left right
  match operator with
  | "<" => some order.isLT
  | "<=" => some order.isLE
  | "=" | "==" => some order.isEq
  | "!=" => some order.isNe
  | ">=" => some order.isGE
  | ">" => some order.isGT
  | _ => none

/-- What an operator between two numbers comes to. -/
def calculate (operator : String) (left right : Raw) : Verdict Raw := do
  match integer? left, integer? right with
  | some left, some right =>
    match operator with
    | "+" => return Raw.ofInt (left + right)
    | "-" => return Raw.ofInt (left - right)
    | "*" => return Raw.ofInt (left * right)
    | operator =>
      if right = 0 then throw "division by zero".toList
      else if operator = "/" then return Raw.ofInt (left.tdiv right)
      else return Raw.ofInt (left.tmod right)
  | _, _ => throw "non-integer argument".toList

/-- The operators of a level: alternatives, conjunctions, comparisons, sums, products, matches. -/
def operators : Nat → List String
  | 0 => ["|"]
  | 1 => ["&"]
  | 2 => ["<", "<=", "=", "==", "!=", ">=", ">"]
  | 3 => ["+", "-"]
  | 4 => ["*", "/", "%"]
  | 5 => [":"]
  | _ => []

def combine (level : Nat) (operator : String) (left right : Raw) : Verdict Raw :=
  match level with
  | 0 => .ok (if !isNull left then left else if isNull right then ['0'] else right)
  | 1 => .ok (if isNull left || isNull right then ['0'] else left)
  | 2 => .ok (if (compareValues? operator left right).getD false then ['1'] else ['0'])
  | 5 => matchText left right
  | _ => calculate operator left right

/-- The second operand counts, given the operator and the first. -/
def needsSecond (level : Nat) (left : Raw) : Bool :=
  match level with
  | 0 => isNull left
  | 1 => !isNull left
  | _ => true

/-- The size that a number asks for. -/
def sizeOf? (text : Raw) : Option Nat :=
  (integer? text).map Int.toNat

mutual

/-- Reads operands with operators of a level or above between them. Unless it counts, nothing is
calculated. -/
def readLevel : (fuel level : Nat) → (counts : Bool) → Progress → Verdict Progress
  | 0, _, _, progress => .ok progress
  | fuel + 1, level, counts, progress => do
    let left ← if 6 ≤ level then readOperand fuel counts progress
      else readLevel fuel (level + 1) counts progress
    readMore fuel level counts left

/-- Reads what follows a first operand. -/
def readMore : (fuel level : Nat) → (counts : Bool) → Progress → Verdict Progress
  | 0, _, _, left => .ok left
  | fuel + 1, level, counts, left => do
    match left.rest with
    | [] => return left
    | operator :: rest =>
      let name := String.ofList operator
      if !(operators level).contains name then return left
      else
        let isNeeded := needsSecond level left.value
        let right ← readLevel fuel (level + 1) (counts && isNeeded) { before := operator, rest }
        let value ←
          if counts || level < 2 then combine level name left.value right.value
          else pure left.value
        readMore fuel level counts { right with value }

/-- Reads one operand, which may be a word with operands of its own. -/
def readOperand : (fuel : Nat) → (counts : Bool) → Progress → Verdict Progress
  | 0, _, progress => .ok progress
  | fuel + 1, counts, progress => do
    let operand (progress : Progress) : Verdict Progress := readOperand fuel counts progress
    match progress.rest with
    | [] => throw ("syntax error: missing argument after ".toList ++ quoteWord progress.before)
    | word :: rest =>
      let next : Progress := { before := word, rest }
      match String.ofList word with
      | "+" =>
        match rest with
        | [] => throw ("syntax error: missing argument after ".toList ++ quoteWord word)
        | value :: rest => return { value, before := value, rest }
      | "length" =>
        let text ← operand next
        return { text with value := Raw.ofNat text.value.length }
      | "match" =>
        let text ← operand next
        let pattern ← operand text
        let value ← if counts then matchText text.value pattern.value else pure text.value
        return { pattern with value }
      | "index" =>
        let text ← operand next
        let wanted ← operand text
        let place := (text.value.findIdx? wanted.value.contains).map (· + 1)
        return { wanted with value := Raw.ofNat (place.getD 0) }
      | "substr" =>
        let text ← operand next
        let start ← operand text
        let count ← operand start
        let value := match sizeOf? start.value, sizeOf? count.value with
          | some (start + 1), some count => (text.value.drop start).take count
          | _, _ => []
        return { count with value }
      | "(" =>
        let inner ← readLevel fuel 0 counts next
        match inner.rest with
        | [] => throw ("syntax error: expecting ')' after ".toList ++ quoteWord inner.before)
        | [')'] :: rest => return { inner with before := [')'], rest }
        | other :: _ =>
          throw ("syntax error: expecting ')' instead of ".toList ++ quoteWord other)
      | ")" => throw "syntax error: unexpected ')'".toList
      | _ => return { value := word, before := word, rest }

end

/-- `expr`. A value that counts as nothing is a failure. -/
def run (arguments : List Raw) : Utility Unit := do
  breakWith 3
  if arguments.isEmpty then misuse 2 "missing operand".toList
  let name := (← state).name
  let (before, rest) := match arguments with
    | ['-', '-'] :: rest => (['-', '-'], rest)
    | arguments => (name, arguments)
  let fuel := 16 * arguments.length + 32
  match readLevel fuel 0 true { before, rest } with
  | .error complaint => die 2 complaint
  | .ok progress =>
    match progress.rest with
    | [] =>
      printLine progress.value
      mark (if isNull progress.value then 1 else 0)
    | extra :: _ => die 2 ("syntax error: unexpected argument ".toList ++ quoteWord extra)

end WheelInstaller.Utility.Expression
