import WheelInstaller.Shell.Source

/-! How the characters of a word are taken. That depends on the quotes, braces and parentheses around
them; the level tells. Where a level of another kind starts inside, it lies on top. -/

namespace WheelInstaller.Shell

/-- Which characters are special. -/
inductive Style where
  | bare
  | double
  | single
  /-- In an expression. -/
  | sum
deriving DecidableEq, Repr

inductive Role where
  | newLine
  | word
  /-- It is special in patterns, or where a tilde may stand. -/
  | control
  | backslash
  | singleQuote
  | doubleQuote
  | endQuote
  | backquote
  | dollar
  | endBrace
  | opening
  | closing
  | ended
  | separator
deriving DecidableEq, Repr

/-- Characters that patterns or tildes give a meaning. -/
def isControl (c : Char) : Bool :=
  match c with
  | '!' | '*' | '?' | '[' | '=' | '~' | ':' | '/' | '-' | ']' => true
  | _ => false

def Style.role (style : Style) (c : Option Char) : Role :=
  match c with
  | none => .ended
  | some c =>
    match style with
    | .bare =>
      match c with
      | '\n' => .newLine
      | '\\' => .backslash
      | '\x27' => .singleQuote
      | '"' => .doubleQuote
      | '\x60' => .backquote
      | '$' => .dollar
      | '\x7d' => .endBrace
      | '<' | '>' | '(' | ')' | ';' | '&' | '|' | ' ' | '\t' => .separator
      | _ => .word
    | .double =>
      match c with
      | '\n' => .newLine
      | '\\' => .backslash
      | '"' => .endQuote
      | '\x60' => .backquote
      | '$' => .dollar
      | '\x7d' => .endBrace
      | c => if isControl c then .control else .word
    | .single =>
      match c with
      | '\n' => .newLine
      | '\x27' => .endQuote
      | c => if c = '\\' || isControl c then .control else .word
    | .sum =>
      match c with
      | '\n' => .newLine
      | '\\' => .backslash
      | '\x60' => .backquote
      | '$' => .dollar
      | '\x7d' => .endBrace
      | '(' => .opening
      | ')' => .closing
      | _ => .word

/-- Where in a word a reader is. -/
structure Level where
  style : Style
  /-- Everything is between double quotes. -/
  isDouble : Bool := false
  /-- How many braces are open. -/
  braces : Nat := 0
  /-- How many of these were opened between double quotes. -/
  doubleBraces : Nat := 0
  /-- Double quotes are open inside braces. -/
  innerQuotes : Bool := false
  /-- The level ends with its last brace. -/
  endsWithBrace : Bool := false
  /-- How many parentheses of the expression are open. -/
  parentheses : Nat := 0

def Level.base (style : Style) : Level :=
  { style, isDouble := style = .double }

abbrev Levels := Level × List Level

/-- The levels without the uppermost. -/
def Levels.leave (levels : Levels) : Levels :=
  match levels with
  | (_, below :: rest) => (below, rest)
  | levels => levels

def Levels.enter (levels : Levels) (level : Level) : Levels :=
  (level, levels.1 :: levels.2)

/-- Takes characters of a name as long as there are any; `c` is the first of them. The name comes
first, and the character after it. -/
def takeNameFrom (kind : Char → Bool) : (rounds : Nat) → (c : Option Char) → (found : Raw) →
    Reading (Raw × Option Char)
  | 0, c, found => return (found.reverse, c)
  | rounds + 1, c, found => do
    match c with
    | some letter =>
      if kind letter then takeNameFrom kind rounds (← takeJoined) (letter :: found)
      else return (found.reverse, c)
    | none => return (found.reverse, c)

/-- A parameter as it is written, after the dollar sign. -/
structure Written where
  name : Raw := []
  adjustment : Adjustment := .malformed
  strict : Bool := false
  /-- What is for the adjustment is not quoted, even if the parameter is. -/
  isBare : Bool := false

def adjustmentOf? (c : Option Char) : Option Adjustment :=
  match c with
  | some '\x7d' => some .value
  | some '-' => some .orElse
  | some '+' => some .ifGiven
  | some '?' => some .orComplain
  | some '=' => some .orAssign
  | _ => none

/-- Reads what stands between the name of a parameter in braces and the word for its adjustment; `c`
is the first character of that. Nothing useful there makes a malformed parameter. -/
def readAdjustment (name : Raw) (c : Option Char) : Reading Written := do
  match c with
  | some ':' =>
    let c ← takeJoined
    return { name, adjustment := (adjustmentOf? c).getD .malformed, strict := true }
  | some '%' => return { name, adjustment := .cutEnd (← doubled '%'), isBare := true }
  | some '#' => return { name, adjustment := .cutStart (← doubled '#'), isBare := true }
  | c => return { name, adjustment := (adjustmentOf? c).getD .malformed }
where
  /-- The character stands here once more. -/
  doubled (known : Char) : Reading Bool := do
    let c ← takeJoined
    if c = some known then return true
    else
      putBack c
      return false

/-- Reads the length of a parameter, up to the brace; `c` is the first character of the name, of
which some more may have been read. -/
def finishLength (name : Raw) (c : Option Char) : Reading Written := do
  putBack c
  return { name, adjustment := if c = some '\x7d' then .length else .malformed }

def readBraced : Reading Written := do
  match ← takeJoined with
  | none => return {}
  | some c =>
    if startsName c then
      let (name, after) ← takeNameFrom isNameChar Process.forever (some c) []
      readAdjustment name after
    else if c.isDigit then
      let (name, after) ← takeNameFrom Char.isDigit Process.forever (some c) []
      readAdjustment name after
    else if c = '\x7d' then
      putBack (some c)
      return {}
    else
      let after ← takeJoined
      if c = '#' then readLength after
      else if isSpecialName c then readAdjustment [c] after
      else
        putBack after
        return {}
where
  /-- Reads what comes after a number sign that stands first; `c` is the first character of that. -/
  readLength (c : Option Char) : Reading Written := do
    match c with
    | some letter =>
      if startsName letter then
        let (name, after) ← takeNameFrom isNameChar Process.forever c []
        finishLength name after
      else if letter.isDigit then
        let (name, after) ← takeNameFrom Char.isDigit Process.forever c []
        finishLength name after
      else
        let after ← takeJoined
        if letter = '\x7d' || after ≠ some '\x7d' then
          putBack after
          readAdjustment ['#'] c
        else
          putBack after
          return if isSpecialName letter then { name := [letter], adjustment := .length } else {}
    | none => readAdjustment ['#'] none

def Levels.enterBraces (levels : Levels) (written : Written) : Levels :=
  let outer := if levels.1.style = .sum then .double else levels.1.style
  let style := if written.isBare then .bare else outer
  let (level, below) :=
    if style ≠ levels.1.style || levels.1.innerQuotes then
      levels.enter { style, endsWithBrace := true, isDouble := style ≠ .bare }
    else levels
  ({ level with
    braces := level.braces + 1
    doubleBraces := if level.isDouble then level.doubleBraces + 1 else level.doubleBraces }, below)

def Levels.leaveBraces (levels : Levels) : Levels :=
  let (level, below) := levels
  let left := { level with braces := level.braces - 1 }
  if left.braces = 0 && level.endsWithBrace then Levels.leave levels
  else ({ left with doubleBraces := left.doubleBraces - 1 }, below)

/-- A backslash before the character takes away its meaning; before others, it stands for itself. -/
def Level.protects (level : Level) (inDocument : Bool) (c : Char) : Bool :=
  !level.isDouble || c = '\\' || c = '\x60' || c = '$' ||
    (c = '"' && !(inDocument && level.braces = 0)) || (c = '\x7d' && level.braces ≠ 0)

end WheelInstaller.Shell
