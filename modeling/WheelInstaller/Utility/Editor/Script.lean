import WheelInstaller.Utility.TextPattern

/-! Scripts for editing lines: steps with addresses, which tell the lines that a step is for. -/

namespace WheelInstaller.Utility.Editor

/-- A pattern in a script; an empty one stands for the last pattern that was used. -/
abbrev ScriptPattern := Option TextPattern

inductive Address where
  | number (line : Nat)
  /-- The line `first`, and every line `step` lines further. -/
  | every (first step : Nat)
  | last
  | fits (pattern : ScriptPattern)

inductive RangeEnd where
  | reaching (address : Address)
  /-- So many lines after the first one. -/
  | after (count : Nat)
  /-- The next line whose number is a multiple. -/
  | multiple (factor : Nat)

structure Selection where
  first : Option Address := none
  last : Option RangeEnd := none
  /-- It is for all other lines. -/
  negated : Bool := false

inductive LetterCase where
  | lower
  | upper
deriving DecidableEq, Repr

inductive Piece where
  | text (text : Raw)
  /-- A part of the match, or with zero all of it. -/
  | part (number : Nat)
  /-- From here on, letters are changed or not. -/
  | letters (wanted : Option LetterCase)
  /-- The next letter is changed. -/
  | letter (wanted : LetterCase)
deriving DecidableEq, Repr

inductive Target where
  | output
  | complaints
  | file (name : Raw)
deriving DecidableEq, Repr

structure Substitution where
  pattern : ScriptPattern
  pieces : List Piece
  /-- All matches are replaced, from the first one that is. -/
  everywhere : Bool := false
  /-- The number of the first match that is replaced. -/
  first : Nat := 1
  prints : Bool := false
  target : Option Target := none

def largestPart (pieces : List Piece) : Nat :=
  pieces.foldl (fun largest piece => match piece with
    | .part number => max largest number
    | _ => largest) 0

def partComplaint (number : Nat) : Raw :=
  "invalid reference \\".toList ++ Raw.ofNat number ++ " on \x60s' command's RHS".toList

inductive JumpWhen where
  | always
  /-- Something was replaced, or nothing, since the line was read or such a jump was made. -/
  | replaced (wanted : Bool)
deriving DecidableEq, Repr

inductive Action where
  /-- The steps up to the one with that number are for the same lines. -/
  | block (finish : Nat)
  | blockEnd
  | label (name : Raw)
  /-- To the step with that number, or with that label. -/
  | jump (kind : JumpWhen) (label : Raw) (target : Option Nat)
  | append (text : Raw)
  | insert (text : Raw)
  | change (text : Raw)
  | printNumber
  | printName
  | delete
  | deleteFirst
  | take
  | takeMore
  | keep
  | keepMore
  | exchange
  | clear
  | list (width : Option Nat)
  | next
  | nextMore
  | print
  | printFirst
  | quit (prints : Bool) (status : Nat)
  | readFile (name : Raw)
  | readLine (name : Raw)
  | write (target : Target)
  | writeFirst (target : Target)
  | substitute (substitution : Substitution)
  | translate (table : List (Char × Char))

structure Step where
  lines : Selection
  action : Action

abbrev Script := Array Step

def Action.targets : Action → List Target
  | .write target | .writeFirst target => [target]
  | .substitute substitution => substitution.target.toList
  | _ => []

end WheelInstaller.Utility.Editor

/-! What replacing the matches of a pattern makes of a text. -/

namespace WheelInstaller.Utility.Editor

/-- How letters are changed from here on, and how the next one is. -/
structure Lettering where
  all : Option LetterCase := none
  next : Option LetterCase := none

def LetterCase.apply (wanted : LetterCase) (c : Char) : Char :=
  match wanted with
  | .lower => c.toLower
  | .upper => c.toUpper

/-- A text with its letters changed, and how the letters after it are. -/
def Lettering.apply (lettering : Lettering) (text : Raw) : Raw × Lettering :=
  let usual (c : Char) : Char := (lettering.all.map (·.apply c)).getD c
  match text with
  | [] => ([], lettering)
  | c :: rest =>
    let first := (lettering.next.map (·.apply c)).getD (usual c)
    (first :: rest.map usual, { lettering with next := none })

/-- What the pieces come to for a match whose whole text is told. -/
def expandPieces (found : TextMatch) (whole : Raw) : Lettering → List Piece → Raw
  | _, [] => []
  | lettering, piece :: rest =>
    let put (text : Raw) : Raw :=
      let (text, lettering) := lettering.apply text
      text ++ expandPieces found whole lettering rest
    match piece with
    | .text text => put text
    | .part 0 => put whole
    | .part number => put (((found.parts.find? (·.1 = number)).map (·.2)).getD [])
    | .letters wanted => expandPieces found whole { all := wanted } rest
    | .letter wanted => expandPieces found whole { lettering with next := some wanted } rest

/-- How far replacing is: the text before, the latest character first, and the text to come. -/
structure Replacing where
  place : Nat := 0
  past : Raw := []
  rest : Raw
  /-- What was made until now, the latest part first. -/
  made : List Raw := []
  /-- How many matches there were. -/
  count : Nat := 0
  /-- Where the last match ended. -/
  ended : Option Nat := none
  isReplaced : Bool := false

/-- Passes over so many characters. -/
def Replacing.skip (replacing : Replacing) (count : Nat) : Replacing :=
  { replacing with
    place := replacing.place + count
    past := (replacing.rest.take count).reverse ++ replacing.past
    rest := replacing.rest.drop count }

/-- Keeps so many characters. -/
def Replacing.keep (replacing : Replacing) (count : Nat) : Replacing :=
  { replacing.skip count with made := replacing.rest.take count :: replacing.made }

/-- Replaces matches from here on, in at most `fuel` steps. An empty match right after another one does
not count. -/
def Substitution.replaceFrom (substitution : Substitution) (pattern : TextPattern) :
    (fuel : Nat) → Replacing → Replacing
  | 0, replacing => replacing
  | fuel + 1, replacing =>
    let isWanted (found : TextMatch) : Bool :=
      found.length ≠ 0 || replacing.ended ≠ some found.start
    match pattern.findFrom? isWanted replacing.place replacing.past replacing.rest with
    | none => replacing
    | some found =>
      let replacing := replacing.keep (found.start - replacing.place)
      let whole := replacing.rest.take found.length
      let count := replacing.count + 1
      let isChosen := substitution.first ≤ count
      let text := if isChosen then expandPieces found whole {} substitution.pieces else whole
      let replacing := { replacing.skip found.length with
        made := text :: replacing.made
        count, ended := some (found.start + found.length)
        isReplaced := replacing.isReplaced || isChosen }
      if isChosen && !substitution.everywhere then replacing
      else if found.length = 0 then
        if replacing.rest.isEmpty then replacing
        else replaceFrom substitution pattern fuel (replacing.keep 1)
      else replaceFrom substitution pattern fuel replacing

/-- The text with its matches replaced, if there are such matches. -/
def Substitution.replace? (substitution : Substitution) (pattern : TextPattern) (text : Raw) :
    Option Raw :=
  let replacing := substitution.replaceFrom pattern (text.length + 2) { rest := text }
  if replacing.isReplaced then some (replacing.made.reverse.flatten ++ replacing.rest) else none

end WheelInstaller.Utility.Editor
