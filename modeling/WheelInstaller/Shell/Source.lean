import WheelInstaller.Process.Activity
import WheelInstaller.Shell.Syntax

/-! The text that a script is read from. The value of an alias is read in its place, layer on layer;
while it is read, and until the next character after it, the alias stands for nothing. -/

namespace WheelInstaller.Shell

/-- A name that stands for a text where a command may start. -/
structure Alias where
  name : Raw
  value : Raw
deriving DecidableEq, Repr

structure Layer where
  name : Raw
  rest : Raw
  /-- The value ends in a blank, so that the next word may be an alias as well. -/
  endsBlank : Bool
  /-- Aliases whose values were read to their ends just before. -/
  spent : List Raw

/-- The marks between words. -/
inductive Mark where
  | semicolon
  | caseEnd
  | ampersand
  | andThen
  | pipe
  | orElse
  | opening
  | closing
deriving DecidableEq, Repr

def Mark.text : Mark → String
  | .semicolon => ";"
  | .caseEnd => ";;"
  | .ampersand => "&"
  | .andThen => "&&"
  | .pipe => "|"
  | .orElse => "||"
  | .opening => "("
  | .closing => ")"

inductive Arrow where
  | file (direction : Direction)
  | copy
  /-- From the lines that follow, without tabs at their starts or with them. -/
  | document (dropTabs : Bool)
deriving DecidableEq, Repr

/-- What a script is read as. The symbols of a word are kept by the reader. -/
inductive Token where
  | word
  | keyword (name : String)
  | mark (value : Mark)
  | redirect (descriptor : Nat) (arrow : Arrow)
  | newLine
  | ended
deriving DecidableEq, Repr

def Token.shown : Token → String
  | .word => "word"
  | .keyword name => s!"\"{name}\""
  | .mark value => s!"\"{value.text}\""
  | .redirect _ _ => "redirection"
  | .newLine => "newline"
  | .ended => "end of file"

def Token.endsList : Token → Bool
  | .keyword name =>
    ["do", "done", "elif", "else", "esac", "fi", "then", "\x7d"].contains name
  | .mark .closing | .mark .caseEnd | .ended => true
  | _ => false

/-- The words that have a meaning of their own where a command may start. -/
def keywords : List String :=
  ["!", "case", "do", "done", "elif", "else", "esac", "fi", "for", "if", "in", "then", "until",
   "while", "\x7b", "\x7d"]

/-- What the next word is taken for, if it can be. -/
structure Checks where
  /-- Ends of lines mean nothing. -/
  newLines : Bool := false
  keywords : Bool := false
  aliases : Bool := false
  /-- The word is the ending of a document. -/
  ending : Bool := false

/-- A document that was announced on the line being read. -/
structure Announced where
  number : Nat
  ending : Raw
  /-- Nothing in the document is replaced. -/
  verbatim : Bool
  dropTabs : Bool

/-- A text that is being read, and what has been read of it that is still needed. -/
structure Reader where
  text : Raw
  /-- Nothing comes after the text. -/
  isWhole : Bool := true
  layers : List Layer := []
  spent : List Raw := []
  aliases : List Alias := []
  /-- The aliases whose values are being read. -/
  used : List Raw := []
  line : Nat := 1
  checks : Checks := {}
  /-- The last token is to be taken again. -/
  isPutBack : Bool := false
  token : Token := .newLine
  /-- The last word. -/
  word : Word := []
  /-- Something in the last word was quoted. -/
  isQuoted : Bool := false
  announced : List Announced := []
  documents : List (Nat × Word) := []
  /-- The number of the next document. -/
  nextDocument : Nat := 0

/-- Why reading stops. -/
inductive Halt where
  /-- More of the text is needed. -/
  | starved
  | fault (line : Nat) (message : Raw)

abbrev Reading := StateT Reader (Except Halt)

def fault {α : Type} (message : String) : Reading α := do
  throw (.fault (← get).line ("Syntax error: ".toList ++ message.toList))

def unexpected {α : Type} : Reading α := do
  fault s!"{(← get).token.shown} unexpected"

/-- Gives up at the last token, which stands where another was expected. -/
def expecting {α : Type} (wanted : Token) : Reading α := do
  fault s!"{(← get).token.shown} unexpected (expecting {wanted.shown})"

/-- The next character, taken from the first of the layers with something left. -/
def Reader.draw (reader : Reader) : List Layer → Except Halt (Option Char × Reader)
  | [] =>
    match reader.text with
    | c :: text => .ok (some c, { reader with text, layers := [] })
    | [] => if reader.isWhole then .ok (none, { reader with layers := [] }) else .error .starved
  | layer :: below =>
    match layer.rest with
    | c :: rest => .ok (some c, { reader with layers := { layer with rest } :: below })
    | [] =>
      draw { reader with
        spent := layer.name :: layer.spent ++ reader.spent
        checks := if layer.endsBlank then { reader.checks with aliases := true }
          else reader.checks } below

/-- Takes the next character, unless the text is over. -/
def takeChar : Reading (Option Char) := fun reader =>
  if reader.spent.isEmpty then reader.draw reader.layers
  else
    let used := reader.used.filter fun name => !reader.spent.contains name
    { reader with used, spent := [] }.draw reader.layers

def putBack (c : Option Char) : Reading Unit :=
  match c with
  | none => return ()
  | some c =>
    modify fun reader =>
      match reader.layers with
      | [] => { reader with text := c :: reader.text }
      | layer :: below =>
        { reader with layers := { layer with rest := c :: layer.rest } :: below }

def countLine : Reading Unit :=
  modify fun reader => { reader with line := reader.line + 1 }

/-- Takes the next character of a text in which backslashes join lines, in at most `rounds`
attempts. -/
def takeJoinedFrom : (rounds : Nat) → Reading (Option Char)
  | 0 => return none
  | rounds + 1 => do
    let c ← takeChar
    if c = some '\\' then
      let after ← takeChar
      if after = some '\n' then
        countLine
        takeJoinedFrom rounds
      else
        putBack after
        return c
    else return c

/-- Takes the next character of a text in which backslashes join lines. -/
def takeJoined : Reading (Option Char) :=
  takeJoinedFrom Process.forever

/-- Lets the last token be taken again. -/
def putTokenBack : Reading Unit :=
  modify fun reader => { reader with isPutBack := true }

/-- Says what the next word is taken for. -/
def check (checks : Checks) : Reading Unit :=
  modify fun reader => { reader with checks }

def Reader.enter (reader : Reader) (entry : Alias) : Reader :=
  if entry.value.isEmpty then reader
  else
    let layer : Layer := {
      name := entry.name, rest := entry.value, spent := reader.spent
      endsBlank := entry.value.getLast?.any fun c => c = ' ' || c = '\t' }
    { reader with
      layers := layer :: reader.layers, spent := [], used := entry.name :: reader.used }

end WheelInstaller.Shell
