import WheelInstaller.Shell.Level

/-! Fields: what words come to. A word comes to segments; those that stem from values are cut at
separators. Each such segment is looked at by itself, so that separators at the end of one and at the
start of the next do not make up one. -/

namespace WheelInstaller.Shell

inductive Glyph where
  | plain (c : Char)
  /-- A character that means nothing but itself. -/
  | escaped (c : Char)
  /-- Quotes started or ended here. -/
  | quote
deriving DecidableEq, Repr

inductive Cut where
  | never
  | atSeparators
  /-- Only between arguments. -/
  | atArguments
deriving DecidableEq, Repr

structure Segment where
  glyphs : List Glyph
  cut : Cut := .never

/-- The character that marks the end of an argument. -/
def argumentEnd : Char := '\x00'

def textOf (glyphs : List Glyph) : Raw :=
  glyphs.filterMap fun
    | .plain c | .escaped c => some c
    | .quote => none

/-- The characters of segments, of which the latest comes first. -/
def textOfSegments (segments : List Segment) : Raw :=
  segments.foldl (fun text segment => textOf segment.glyphs ++ text) []

/-- The glyphs as a pattern: what means nothing but itself gets a backslash, unless one is there. -/
def patternText (glyphs : List Glyph) : Raw :=
  let (written, _) := glyphs.foldl (fun (written, bare) glyph =>
    match glyph with
    | .quote => (written, true)
    | .plain '\\' => ('\\' :: written, false)
    | .plain c => (c :: written, true)
    | .escaped c => (c :: (if bare then '\\' :: written else written), true)) (([] : Raw), true)
  written.reverse

structure Cutting where
  /-- The latest field comes first. -/
  done : List (List Glyph) := []
  /-- The field that is being made, with its latest glyph first. -/
  current : List Glyph := []
  /-- A separator that is white space has just ended a field. -/
  isBlank : Bool := false
  /-- The segment is cut only between arguments. -/
  isWhole : Bool := false
  /-- The segment before was cut only between arguments. -/
  followsWhole : Bool := false
  /-- How many more fields are made, of which the last takes everything that is left. -/
  left : Option Nat := none
  /-- How much of the last field stays, because only separators follow. -/
  stays : Option Nat := none

namespace Cutting

/-- White space between fields. -/
def isBlankChar (c : Char) : Bool :=
  c = ' ' || c = '\t' || c = '\n' || c = argumentEnd

/-- Goes on with a glyph of a segment that is cut. -/
def step (separators : Raw) (cutting : Cutting) (glyph : Glyph) : Cutting :=
  let c := match glyph with
    | .plain c | .escaped c => c
    | .quote => 'q'
  let separates :=
    c = argumentEnd || (!cutting.isWhole && separators.contains c)
  let isSpace := separates && isBlankChar c
  let taken := { cutting with current := glyph :: cutting.current }
  if cutting.left = some 0 then
    if isSpace then
      { taken with stays := some (cutting.stays.getD cutting.current.length) }
    else
      { taken with
        stays := if separates && cutting.isBlank then cutting.stays else none, isBlank := false }
  else if cutting.isBlank then
    if isSpace then cutting
    else if separates then { cutting with isBlank := false }
    else { taken with isBlank := false }
  else if separates then
    let isBlank := isSpace && !cutting.followsWhole && !cutting.isWhole
    if cutting.current.isEmpty && isBlank then cutting
    else
      match cutting.left with
      | some 1 =>
        { taken with left := some 0, isBlank, stays := some cutting.current.length }
      | left =>
        { cutting with
          done := cutting.current.reverse :: cutting.done, current := [], isBlank
          left := left.map (· - 1) }
  else taken

def add (separators : Raw) (cutting : Cutting) (segment : Segment) : Cutting :=
  match segment.cut with
  | .never => { cutting with current := segment.glyphs.foldl (fun all g => g :: all) cutting.current }
  | cut =>
    segment.glyphs.foldl (step separators) { cutting with
      isBlank := false, isWhole := cut = .atArguments, followsWhole := cutting.isWhole }

/-- The fields, when everything was looked at. An empty rest is a field only where arguments end. -/
def finish (cutting : Cutting) : List (List Glyph) :=
  let rest := cutting.current.reverse
  let rest := match cutting.stays with
    | some count => rest.take count
    | none => rest
  if rest.isEmpty && !cutting.isWhole then cutting.done.reverse
  else (rest :: cutting.done).reverse

end Cutting

/-- The separators unless others are wanted. -/
def usualSeparators : Raw := [' ', '\t', '\n']

/-- The fields of segments, at most so many. -/
def cutFields (separators : Raw) (limit : Option Nat) (segments : List Segment) :
    List (List Glyph) :=
  (segments.foldl (Cutting.add separators) { left := limit }).finish

end WheelInstaller.Shell
