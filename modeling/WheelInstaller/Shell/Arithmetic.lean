import WheelInstaller.Text.Encoding

/-! Expressions over whole numbers of 64 bits. -/

namespace WheelInstaller.Shell.Arithmetic

/-- Operators between two numbers. -/
inductive Operator where
  | or | and | bitOr | bitXor | bitAnd | equal | unequal
  | less | lessEqual | greater | greaterEqual | shiftLeft | shiftRight
  | add | subtract | multiply | divide | remainder
deriving DecidableEq, Repr

def Operator.strength : Operator → Nat
  | .or => 1
  | .and => 2
  | .bitOr => 3
  | .bitXor => 4
  | .bitAnd => 5
  | .equal | .unequal => 6
  | .less | .lessEqual | .greater | .greaterEqual => 7
  | .shiftLeft | .shiftRight => 8
  | .add | .subtract => 9
  | .multiply | .divide | .remainder => 10

/-- The operators as they are written, longer ones first. -/
def operators : List (Raw × Operator) :=
  [(['|', '|'], .or), (['&', '&'], .and), (['=', '='], .equal), (['!', '='], .unequal),
   (['<', '<'], .shiftLeft), (['>', '>'], .shiftRight), (['<', '='], .lessEqual),
   (['>', '='], .greaterEqual), (['|'], .bitOr), (['^'], .bitXor), (['&'], .bitAnd),
   (['<'], .less), (['>'], .greater), (['+'], .add), (['-'], .subtract), (['*'], .multiply),
   (['/'], .divide), (['%'], .remainder)]

/-- Assignments that combine the old value with the new one, as they are written. -/
def assignments : List (Raw × Operator) :=
  [(['<', '<', '='], .shiftLeft), (['>', '>', '='], .shiftRight), (['|', '='], .bitOr),
   (['^', '='], .bitXor), (['&', '='], .bitAnd), (['+', '='], .add), (['-', '='], .subtract),
   (['*', '='], .multiply), (['/', '='], .divide), (['%', '='], .remainder)]

inductive Sign where
  | not | complement | minus | plus
deriving DecidableEq, Repr

inductive Expression where
  | number (value : Int)
  | named (text : Raw)
  | signed (sign : Sign) (operand : Expression)
  | combined (operator : Operator) (left right : Expression)
  | conditional (condition yes no : Expression)
  /-- An assignment, which may combine the old value with the new one. -/
  | assigned (name : Raw) (operator : Option Operator) (value : Expression)
  /-- What was read before something else had to follow. -/
  | broken (before : Expression) (expected : String)

/-- Why an expression has no value. -/
inductive Fault where
  | expected (what : String)
  | divisionByZero
  | notNumber (text : Raw)
  | readOnly (name : Raw)
  /-- The quotient is too large, which nothing survives. -/
  | overflow

/-- The value as it fits in 64 bits. -/
def wrap (value : Int) : Int :=
  value.bmod 0x10000000000000000

def trimStart (text : Raw) : Raw :=
  text.dropWhile fun c => c = ' ' || c = '\t' || c = '\n'

def digit? (base : Nat) (c : Char) : Option Nat :=
  let value :=
    if c.isDigit then c.toNat - 48
    else if 'a' ≤ c && c ≤ 'z' then c.toNat - 87
    else if 'A' ≤ c && c ≤ 'Z' then c.toNat - 55
    else 99
  if value < base then some value else none

/-- The number that the digits at the start of a text make, and the text after them. -/
def takeDigits (base : Nat) : Nat → Raw → Nat × Raw
  | value, [] => (value, [])
  | value, c :: rest =>
    match digit? base c with
    | some digit => takeDigits base (value * base + digit) rest
    | none => (value, c :: rest)

/-- The base that the letter after a leading zero stands for. -/
def baseOf? (c : Char) : Option Nat :=
  if c = 'x' || c = 'X' then some 16
  else if c = 'b' || c = 'B' then some 2
  else none

/-- The number at the start of a text, and the text after it. A leading zero means octal, unless a
letter and a digit follow it. -/
def takeNumber? (text : Raw) : Option (Nat × Raw) :=
  match text with
  | '0' :: rest =>
    match rest with
    | letter :: c :: _ =>
      match baseOf? letter with
      | some base =>
        if (digit? base c).isSome then some (takeDigits base 0 (rest.drop 1)) else some (0, rest)
      | none => some (takeDigits 8 0 rest)
    | rest => some (takeDigits 8 0 rest)
  | c :: _ => if c.isDigit then some (takeDigits 10 0 text) else none
  | [] => none

/-- The value of a text that is a number, with white space around it, and fits. A blank text counts
as zero. -/
def numberOf? (text : Raw) : Option Int := do
  let text := text.dropWhile Raw.isSpace
  if text.isEmpty then return 0
  let (negative, text) := match text with
    | '-' :: rest => (true, rest)
    | '+' :: rest => (false, rest)
    | text => (false, text)
  let (value, rest) ← takeNumber? text
  let value : Int := if negative then -value else value
  if (rest.dropWhile Raw.isSpace).isEmpty && wrap value = value then some value else none

/-- The assignment at the start of a text: with an operator, or plain. -/
def assignment? (text : Raw) : Option (Option Operator × Raw) :=
  match text with
  | '=' :: rest => if rest.head? = some '=' then none else some (none, rest)
  | text =>
    (assignments.find? fun (written, _) => written.isPrefixOf text).map
      fun (written, operator) => (some operator, text.drop written.length)

def operator? (text : Raw) : Option (Operator × Raw) :=
  if (assignment? text).isSome then none
  else
    (operators.find? fun (written, _) => written.isPrefixOf text).map
      fun (written, operator) => (operator, text.drop written.length)

mutual

/-- Reads an expression. Where something else has to follow, nothing is left to read. -/
def readExpression : (fuel : Nat) → Raw → Expression × Raw
  | 0, text => (.number 0, text)
  | fuel + 1, text =>
    let text := trimStart text
    let name := text.takeWhile fun c => c.isAlphanum || c = '_'
    let isName := name.head?.any fun c => !c.isDigit
    match isName, assignment? (trimStart (text.drop name.length)) with
    | true, some (operator, rest) =>
      let (value, rest) := readExpression fuel rest
      (.assigned name operator value, rest)
    | _, _ => readChoice fuel text

def readChoice : (fuel : Nat) → Raw → Expression × Raw
  | 0, text => (.number 0, text)
  | fuel + 1, text =>
    let (condition, rest) := readCombined fuel 1 text
    match trimStart rest with
    | '?' :: rest =>
      let (yes, rest) := readExpression fuel rest
      match trimStart rest with
      | ':' :: rest =>
        let (no, rest) := readChoice fuel rest
        (.conditional condition yes no, rest)
      | _ => (.conditional condition (.broken yes "expecting ':'") (.number 0), [])
    | rest => (condition, rest)

/-- Reads operands with operators between them that bind at least as tightly as told. -/
def readCombined : (fuel : Nat) → (strength : Nat) → Raw → Expression × Raw
  | 0, _, text => (.number 0, text)
  | fuel + 1, strength, text =>
    let (left, rest) := readOperand fuel text
    readMore fuel strength left rest

/-- Reads what follows a first operand. -/
def readMore : (fuel : Nat) → (strength : Nat) → Expression → Raw → Expression × Raw
  | 0, _, left, text => (left, text)
  | fuel + 1, strength, left, text =>
    match operator? (trimStart text) with
    | some (operator, rest) =>
      if operator.strength < strength then (left, trimStart text)
      else
        let (right, rest) := readCombined fuel (operator.strength + 1) rest
        readMore fuel strength (.combined operator left right) rest
    | none => (left, trimStart text)

def readOperand : (fuel : Nat) → Raw → Expression × Raw
  | 0, text => (.number 0, text)
  | fuel + 1, text =>
    let text := trimStart text
    let signed (sign : Sign) (rest : Raw) :=
      let (operand, rest) := readOperand fuel rest
      (Expression.signed sign operand, rest)
    match text with
    | '(' :: rest =>
      let (inner, rest) := readExpression fuel rest
      match trimStart rest with
      | ')' :: rest => (inner, rest)
      | _ => (.broken inner "expecting ')'", [])
    | '!' :: rest => signed .not rest
    | '~' :: rest => signed .complement rest
    | '-' :: rest => signed .minus rest
    | '+' :: rest => signed .plus rest
    | text =>
      match takeNumber? text with
      | some (value, rest) => (.number (min value 0x7fffffffffffffff), rest)
      | none =>
        let name := text.takeWhile fun c => c.isAlphanum || c = '_'
        if name.isEmpty then (.broken (.number 0) "expecting primary", [])
        else (.named name, text.drop name.length)

end

def Expression.ofText (text : Raw) : Expression :=
  let (expression, rest) := readExpression (12 * text.length + 12) text
  if (trimStart rest).isEmpty then expression else .broken expression "expecting EOF"

/-- What had to follow somewhere in an expression. -/
def Expression.expected? : Expression → Option String
  | .number _ | .named _ => none
  | .signed _ operand => operand.expected?
  | .combined _ left right => left.expected? <|> right.expected?
  | .conditional condition yes no => condition.expected? <|> yes.expected? <|> no.expected?
  | .assigned _ _ value => value.expected?
  | .broken before expected => before.expected? <|> some expected

/-- The values of names: those that were assigned, the latest first, and all others. -/
structure Values where
  known : Raw → Option Raw
  isFixed : Raw → Bool
  assigned : List (Raw × Raw) := []

def Values.find? (values : Values) (name : Raw) : Option Raw :=
  match values.assigned.find? (·.1 = name) with
  | some (_, value) => some value
  | none => values.known name

def truth (condition : Bool) : Int :=
  if condition then 1 else 0

/-- What an operator makes of two numbers. -/
def Operator.apply (operator : Operator) (left right : Int) : Except Fault Int :=
  let bits (value : Int) : BitVec 64 := BitVec.ofInt 64 value
  match operator with
  | .or => .ok (truth (left ≠ 0 || right ≠ 0))
  | .and => .ok (truth (left ≠ 0 && right ≠ 0))
  | .bitOr => .ok (bits left ||| bits right).toInt
  | .bitXor => .ok (bits left ^^^ bits right).toInt
  | .bitAnd => .ok (bits left &&& bits right).toInt
  | .equal => .ok (truth (left = right))
  | .unequal => .ok (truth (left ≠ right))
  | .less => .ok (truth (left < right))
  | .lessEqual => .ok (truth (left ≤ right))
  | .greater => .ok (truth (left > right))
  | .greaterEqual => .ok (truth (left ≥ right))
  | .shiftLeft => .ok (bits left <<< (right % 64).toNat).toInt
  | .shiftRight => .ok ((bits left).sshiftRight (right % 64).toNat).toInt
  | .add => .ok (wrap (left + right))
  | .subtract => .ok (wrap (left - right))
  | .multiply => .ok (wrap (left * right))
  | .divide => do
    checkQuotient
    return left.tdiv right
  | .remainder => do
    checkQuotient
    return left.tmod right
where
  /-- There is a quotient. -/
  checkQuotient : Except Fault Unit :=
    if right = 0 then .error .divisionByZero
    else if left = -0x8000000000000000 && right = -1 then .error .overflow
    else .ok ()

/-- Adding up an expression: it may fail, and what was assigned before stays. -/
abbrev Adding := ExceptT Fault (StateM Values)

/-- The value of a name as a number; one that has none counts as zero. -/
def valueOf (name : Raw) : Adding Int := do
  match (← get).find? name with
  | none | some [] => return 0
  | some text =>
    match numberOf? text with
    | some value => return value
    | none => throw (.notNumber text)

/-- Gives a name a number as its value. -/
def setValue (name : Raw) (value : Int) : Adding Unit := do
  if (← get).isFixed name then throw (.readOnly name)
  modify fun values =>
    { values with assigned := (name, Raw.ofInt value) :: values.assigned }

/-- Passes over an expression without adding it up. -/
def Expression.skip (expression : Expression) : Adding Unit :=
  match expression.expected? with
  | some expected => throw (.expected expected)
  | none => return ()

def Expression.value : Expression → Adding Int
  | .number value => return value
  | .named name => valueOf name
  | .signed sign operand => do
    let value ← operand.value
    match sign with
    | .not => return truth (value = 0)
    | .complement => return -value - 1
    | .minus => return wrap (-value)
    | .plus => return value
  | .combined .or left right => do
    if (← left.value) = 0 then return truth ((← right.value) ≠ 0)
    else
      right.skip
      return 1
  | .combined .and left right => do
    if (← left.value) ≠ 0 then return truth ((← right.value) ≠ 0)
    else
      right.skip
      return 0
  | .combined operator left right => do
    let first ← left.value
    let second ← right.value
    operator.apply first second
  | .conditional condition yes no => do
    if (← condition.value) ≠ 0 then
      let value ← yes.value
      no.skip
      return value
    else
      yes.skip
      no.value
  | .assigned name operator value => do
    let new ← value.value
    let result ← match operator with
      | none => pure new
      | some operator => do operator.apply (← valueOf name) new
    setValue name result
    return result
  | .broken before expected => do
    let _ ← before.value
    throw (.expected expected)

/-- The value of a text that is an expression, and what was assigned, the latest first. -/
def evaluate (text : Raw) (known : Raw → Option Raw) (isFixed : Raw → Bool) :
    Except Fault Int × List (Raw × Raw) :=
  let (result, values) := (Expression.ofText text).value.run.run { known, isFixed }
  (result, values.assigned)

def Fault.message (expression : Raw) : Fault → Raw
  | .expected what =>
    s!"arithmetic expression: {what}: \"".toList ++ expression ++ ['"']
  | .divisionByZero =>
    "arithmetic expression: division by zero: \"".toList ++ expression ++ ['"']
  | .notNumber text => "Illegal number: ".toList ++ text
  | .readOnly name => name ++ ": is read only".toList
  | .overflow => []

end WheelInstaller.Shell.Arithmetic
