import WheelInstaller.Text.Encoding

/-! Values in quotes, as the shell reads them back. -/

namespace WheelInstaller.Shell

/-- A text in quotes: single quotes in general, and double quotes around single ones. -/
def quoteFrom : (fuel : Nat) → Raw → Raw
  | 0, _ => []
  | fuel + 1, text =>
    let plain := text.takeWhile (· ≠ '\x27')
    let rest := text.drop plain.length
    let quotes := rest.takeWhile (· = '\x27')
    let start := '\x27' :: plain ++ ['\x27']
    if quotes.isEmpty then start
    else
      let further := rest.drop quotes.length
      start ++ '"' :: quotes ++ '"' :: (if further.isEmpty then [] else quoteFrom fuel further)

def quoteValue (text : Raw) : Raw :=
  quoteFrom (text.length + 1) text

end WheelInstaller.Shell

/-! What scripts are made of. Words hold scripts, so words and commands are defined together. -/

namespace WheelInstaller.Shell

inductive Adjustment where
  /-- Nothing that can be made sense of. -/
  | malformed
  | value
  /-- Another word, unless there is a value. -/
  | orElse
  /-- Another word, if there is a value. -/
  | ifGiven
  /-- A complaint, unless there is a value. -/
  | orComplain
  /-- Another word that becomes the value, unless there is one. -/
  | orAssign
  /-- The value without what a pattern fits at its end. -/
  | cutEnd (longest : Bool)
  /-- The value without what a pattern fits at its start. -/
  | cutStart (longest : Bool)
  | length
deriving DecidableEq, Repr

inductive Direction where
  | input
  | output
  /-- For output, even where files are protected. -/
  | overwrite
  | append
  /-- For input and output. -/
  | both
deriving DecidableEq, Repr

mutual

inductive Symbol where
  | plain (c : Char)
  /-- A character without a special meaning. -/
  | escaped (c : Char)
  /-- Quotes start or end here. -/
  | quote
  /-- A parameter. If it is strict, an empty value is none. Unless its value is all that is wanted,
  the symbols up to the matching `close` are for the adjustment. -/
  | parameter (name : Raw) (adjustment : Adjustment) (strict : Bool)
  | close
  /-- What a script prints. -/
  | output (script : Option Command)
  /-- The symbols up to the matching `sumEnd` are an expression. -/
  | sum
  | sumEnd

inductive Redirection where
  | file (descriptor : Nat) (direction : Direction) (name : List Symbol)
  /-- To where another descriptor leads, or nowhere. -/
  | copy (descriptor : Nat) (source : List Symbol)
  /-- To a text that has a number. -/
  | document (descriptor number : Nat)

/-- A command. Those that complain know the line they stand on. -/
inductive Command where
  | simple (line : Nat) (assignments words : List (List Symbol)) (redirections : List Redirection)
  | redirected (line : Nat) (body : Command) (redirections : List Redirection)
  | subshell (line : Nat) (body : Command) (redirections : List Redirection)
  | background (line : Nat) (body : Command) (redirections : List Redirection)
  | pipeline (stages : List Command) (inBackground : Bool)
  | sequence (first second : Command)
  | andThen (first second : Command)
  | orElse (first second : Command)
  | negated (body : Command)
  | branch (condition yes : Command) (no : Option Command)
  | loop (isUntil : Bool) (condition body : Command)
  | each (line : Nat) (name : Raw) (words : List (List Symbol)) (body : Command)
  | choice (line : Nat) (subject : List Symbol)
      (clauses : List (List (List Symbol) × Option Command))
  | define (line : Nat) (name : Raw) (body : Command)

end

abbrev Word := List Symbol

/-- All positional parameters, each as one argument. -/
def allArguments : Word :=
  [.quote, .parameter ['@'] .value false, .quote]

/-- The text of a word in which nothing is special. -/
def bareText? : Word → Option Raw
  | [] => some []
  | .plain c :: rest => (bareText? rest).map (c :: ·)
  | _ => none

/-- The first character of names. -/
def startsName (c : Char) : Bool :=
  c.isAlpha || c = '_'

def isNameChar (c : Char) : Bool :=
  c.isAlphanum || c = '_'

def leadingName (text : Raw) : Raw :=
  if text.head?.any startsName then text.takeWhile isNameChar else []

def isName (text : Raw) : Bool :=
  (leadingName text).length = text.length

/-- Parameters whose name is one special character or digit. -/
def isSpecialName (c : Char) : Bool :=
  c = '$' || c = '?' || c = '#' || c = '@' || c = '*' || c = '!' || c = '-' || c.isDigit

def isAssignment : Word → Bool
  | .plain c :: rest => startsName c && continues rest
  | _ => false
where
  /-- Characters of a name and an equals sign come first. -/
  continues : Word → Bool
    | .plain c :: rest => c = '=' || (isNameChar c && continues rest)
    | _ => false

end WheelInstaller.Shell
