import WheelInstaller.Text.Encoding

/-! Patterns with signs for any character and any text. A backslash takes away the meaning of the
character after it. -/

namespace WheelInstaller

namespace Wildcard

/-- The number of a byte as it is compared: the upper half lies below zero. -/
def rank (c : Char) : Int :=
  if c.toNat < 128 then c.toNat else (c.toNat : Int) - 256

inductive Choice where
  | range (first last : Char)
  | named (name : String)
deriving DecidableEq, Repr

/-- The member holds a character. -/
def Choice.holds (choice : Choice) (c : Char) : Bool :=
  match choice with
  | .range first last => rank first ≤ rank c && rank c ≤ rank last
  | .named name => ((Raw.classTest? name.toList).map fun holds => holds c).getD false

inductive Sign where
  | exactly (c : Char)
  | anyChar
  | anyText
  | oneOf (negated : Bool) (choices : List Choice)
deriving DecidableEq, Repr

def Sign.fits (sign : Sign) (c : Char) : Bool :=
  match sign with
  | .exactly known => c = known
  | .anyChar | .anyText => true
  | .oneOf negated choices => choices.any (·.holds c) != negated

end Wildcard

abbrev Wildcard := List Wildcard.Sign

namespace Wildcard

/-- The class that is named at the start of a text inside a set, and the text after it. -/
def takeClass? (text : Raw) : Option (String × Raw) :=
  match text with
  | ':' :: rest =>
    let name := rest.takeWhile Char.isLower
    match (Raw.classTest? name).isSome, rest.drop name.length with
    | true, ':' :: ']' :: after => some (String.ofList name, after)
    | _, _ => none
  | _ => none

/-- The members of a set up to its closing bracket, which may be the first member, and what comes
after it. -/
def readSet (isFirst : Bool) : (fuel : Nat) → Raw → Option (List Choice × Raw)
  | 0, _ | _ + 1, [] => none
  | fuel + 1, c :: rest =>
    if c = ']' && !isFirst then some ([], rest)
    else
      match if c = '[' then takeClass? rest else none with
      | some (name, after) => do
        let (choices, rest) ← readSet false fuel after
        return (.named name :: choices, rest)
      | none =>
        let (member, rest) := match c, rest with
          | '\\', next :: rest => (next, rest)
          | c, rest => (c, rest)
        match rest with
        | '-' :: '\\' :: last :: after => do
          let (choices, rest) ← readSet false fuel after
          return (.range member last :: choices, rest)
        | '-' :: last :: after =>
          if last = ']' then do
            let (choices, rest) ← readSet false fuel rest
            return (.range member member :: choices, rest)
          else do
            let (choices, rest) ← readSet false fuel after
            return (.range member last :: choices, rest)
        | rest => do
          let (choices, rest) ← readSet false fuel rest
          return (.range member member :: choices, rest)

/-- Reads a pattern, after the signs found already, the latest of which comes first. In a set, a caret may
negate as well as an exclamation mark. -/
def readFrom (caretNegates : Bool) : (fuel : Nat) → (found : Wildcard) → Raw → Wildcard
  | 0, found, _ | _ + 1, found, [] => found.reverse
  | fuel + 1, found, '*' :: rest => readFrom caretNegates fuel (.anyText :: found) rest
  | fuel + 1, found, '?' :: rest => readFrom caretNegates fuel (.anyChar :: found) rest
  | fuel + 1, found, '[' :: rest =>
    let (negated, members) := match rest with
      | '!' :: members => (true, members)
      | '^' :: members => if caretNegates then (true, members) else (false, rest)
      | members => (false, members)
    match readSet true (members.length + 1) members with
    | some (choices, rest) => readFrom caretNegates fuel (.oneOf negated choices :: found) rest
    | none => readFrom caretNegates fuel (.exactly '[' :: found) rest
  | fuel + 1, found, '\\' :: c :: rest => readFrom caretNegates fuel (.exactly c :: found) rest
  | fuel + 1, found, c :: rest => readFrom caretNegates fuel (.exactly c :: found) rest

/-- The pattern that a text is to the shell. -/
def read (text : Raw) : Wildcard :=
  readFrom false text.length [] text

/-- The pattern that a text is to programs. -/
def ofArgument (text : Raw) : Wildcard :=
  readFrom true text.length [] text

/-- How a pattern can go on, where a text of any length may be empty. -/
def openings : Wildcard → List Wildcard
  | .anyText :: rest => (.anyText :: rest) :: openings rest
  | pattern => [pattern]

/-- How one of several patterns can go on after a character. -/
def advance (c : Char) (ways : List Wildcard) : List Wildcard :=
  let further := ways.flatMap fun
    | [] => []
    | .anyText :: rest => openings (.anyText :: rest)
    | sign :: rest => if sign.fits c then openings rest else []
  further.foldr (fun way kept =>
    if kept.any (·.length = way.length) then kept else way :: kept) []

def anyFits : List Wildcard → Raw → Bool
  | ways, [] => ways.any List.isEmpty
  | [], _ => false
  | ways, c :: rest => anyFits (advance c ways) rest

def fits (pattern : Wildcard) (text : Raw) : Bool :=
  anyFits (openings pattern) text

/-- The length of the shortest or longest text at the start that one of the patterns fits, after
`length` characters; `best` is the one known until now. -/
def startFrom (longest : Bool) : (ways : List Wildcard) → (length : Nat) → (best : Option Nat) →
    Raw → Option Nat
  | ways, length, best, text =>
    let best := if ways.any List.isEmpty then some length else best
    match text with
    | [] => best
    | c :: rest =>
      if ways.isEmpty || (best.isSome && !longest) then best
      else startFrom longest (advance c ways) (length + 1) best rest

/-- The text without what the pattern fits at its start, if there is anything that it fits. -/
def cutStart? (pattern : Wildcard) (longest : Bool) (text : Raw) : Option Raw :=
  (startFrom longest (openings pattern) 0 none text).map text.drop

/-- The text without what the pattern fits at its end, if there is anything that it fits. -/
def cutEnd? (pattern : Wildcard) (longest : Bool) (text : Raw) : Option Raw :=
  (cutStart? pattern.reverse longest text.reverse).map List.reverse

end Wildcard
end WheelInstaller
