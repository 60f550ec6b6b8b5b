import WheelInstaller.Text.Difference
import WheelInstaller.Utility.Calendar
import WheelInstaller.Utility.Fingerprint
import WheelInstaller.Utility.Particulars

/-! `diff`: the lines in which files differ, and the files in which directories do. -/

namespace WheelInstaller.Utility.Contrast

open Process
open Text.Difference (Change Pair)

/-- How differences are written. -/
inductive Style where
  | plain
  | unified
  | context
  | brief
deriving DecidableEq, Repr

/-- What does not count as a difference. -/
structure Tolerance where
  letterCase : Bool := false
  blankLines : Bool := false
  blankAmount : Bool := false
  blankEnds : Bool := false
  allBlanks : Bool := false

structure Settings where
  style : Option Style := none
  isBrief : Bool := false
  margin : Option Nat := none
  labels : List Raw := []
  tolerance : Tolerance := {}
  tellsSame : Bool := false
  isRecursive : Bool := false
  takesMissing : Bool := false
  isText : Bool := false
  followsLinks : Bool := true
  startsWithTab : Bool := false
  /-- The options, as they were given. -/
  told : List Raw := []

def trouble : Nat := 2

/-- Says where to read more about the program, after what is wrong. -/
def suggestHelp {α : Type} (message : Raw) : Utility α := do
  complain message
  complain "Try 'diff --help' for more information.".toList
  exit trouble

def options : Options where
  letters := Options.plainLetters "qsruciwbBZEaNtTd0123456789" ++ Options.valuedLetters "UCL"
  words := [
    ("brief", .plain, "q"), ("context", .optional, "C"), ("expand-tabs", .plain, "t"),
    ("ignore-all-space", .plain, "w"), ("ignore-blank-lines", .plain, "B"),
    ("ignore-case", .plain, "i"), ("ignore-space-change", .plain, "b"),
    ("ignore-tab-expansion", .plain, "E"), ("ignore-trailing-space", .plain, "Z"),
    ("initial-tab", .plain, "T"), ("label", .valued, "L"), ("minimal", .plain, "d"),
    ("new-file", .plain, "N"), ("no-dereference", .plain, "links"), ("normal", .plain, "normal"),
    ("recursive", .plain, "r"), ("report-identical-files", .plain, "s"), ("text", .plain, "a"),
    ("unified", .optional, "U")]

def Settings.withStyle (settings : Settings) (style : Style) : Utility Settings := do
  if settings.style.any (· ≠ style) then suggestHelp "conflicting output style options".toList
  return { settings with style := some style }

def Settings.take (settings : Settings) (key : String) (value : Raw) : Utility Settings := do
  let tolerance := settings.tolerance
  let withMargin (style : Style) : Utility Settings := do
    if !value.all Char.isDigit then
      suggestHelp ("invalid context length '".toList ++ value ++ ['\x27'])
    let settings ← settings.withStyle style
    let margin := if value.isEmpty then 3 else Raw.digitsValue value
    return { settings with margin := some (max margin (settings.margin.getD 0)) }
  match key with
  | "q" => return { settings with isBrief := true }
  | "s" => return { settings with tellsSame := true }
  | "r" => return { settings with isRecursive := true }
  | "u" | "U" => withMargin .unified
  | "c" | "C" => withMargin .context
  | "normal" => settings.withStyle .plain
  | "L" =>
    if 1 < settings.labels.length then die trouble "too many file label options".toList
    return { settings with labels := settings.labels ++ [value] }
  | "i" => return { settings with tolerance := { tolerance with letterCase := true } }
  | "w" => return { settings with tolerance := { tolerance with allBlanks := true } }
  | "b" => return { settings with tolerance := { tolerance with blankAmount := true } }
  | "Z" => return { settings with tolerance := { tolerance with blankEnds := true } }
  | "B" => return { settings with tolerance := { tolerance with blankLines := true } }
  | "a" => return { settings with isText := true }
  | "N" => return { settings with takesMissing := true }
  | "T" => return { settings with startsWithTab := true }
  | "links" => return { settings with followsLinks := false }
  | _ => return settings

/-- A text with one blank for every run of blanks, and none at the end. -/
def squeeze (text : Raw) : Raw :=
  let (found, _) := text.foldl (fun (found, isAfterBlank) c =>
    if Raw.isSpace c then (found, true)
    else (c :: (if isAfterBlank then ' ' :: found else found), false)) (([] : Raw), false)
  found.reverse

/-- A line as far as it counts. -/
def Tolerance.core (tolerance : Tolerance) (line : Raw) : Raw :=
  let line := if tolerance.letterCase then line.map Char.toLower else line
  if tolerance.allBlanks then line.filter fun c => !Raw.isSpace c
  else if tolerance.blankAmount then squeeze line
  else if tolerance.blankEnds then Raw.dropEndWhile Raw.isSpace line
  else line

/-- The lines of a text with their ends, which the last one may lack. -/
def linesOf (text : Raw) : Array Raw :=
  let parts := Raw.split '\n' text
  let whole := parts.dropLast.map (· ++ ['\n'])
  let last := parts.getLast?.getD []
  (if last.isEmpty then whole else whole ++ [last]).toArray

/-- How many lines are the same at the start of two lists. -/
def countSame : List Raw → List Raw → Nat
  | first :: rest, second :: others => if first = second then countSame rest others + 1 else 0
  | _, _ => 0

/-- The changes between the lines of two texts. Equal lines at both ends are left out, but for as many
of them as are shown. -/
def changes (tolerance : Tolerance) (margin : Nat) (first second : Array Raw) : List Change :=
  let start := countSame first.toList second.toList - margin
  let first := first.toList.drop start
  let second := second.toList.drop start
  let finish := countSame first.reverse second.reverse - margin
  let first := (first.take (first.length - finish)).map tolerance.core
  let second := (second.take (second.length - finish)).map tolerance.core
  let known := (first ++ second).eraseDups
  let number (lines : List Raw) : Array Nat := (lines.map fun line => known.idxOf line).toArray
  ({ first := number first, second := number second : Pair }.changes).map fun change =>
    { change with start := change.start + start, otherStart := change.otherStart + start }

structure Texts where
  first : Array Raw
  second : Array Raw

def part (lines : Array Raw) (start count : Nat) : List Raw :=
  (lines.extract start (start + count)).toList

/-- A line after a mark, and what is said if it does not end. -/
def marked (mark line : Raw) : Raw :=
  if line.getLast? = some '\n' then mark ++ line
  else mark ++ line ++ "\n\\ No newline at end of file\n".toList

/-- A range of lines in the plain style: the first and the last one, or the one before no lines. -/
def plainRange (start count : Nat) : Raw :=
  if count = 0 then Raw.ofNat start
  else if count = 1 then Raw.ofNat (start + 1)
  else Raw.ofNat (start + 1) ++ ',' :: Raw.ofNat (start + count)

def Texts.plain (texts : Texts) (tab : Bool) (change : Change) : Raw :=
  let letter :=
    if change.removed = 0 then 'a' else if change.added = 0 then 'd' else 'c'
  let gap := if tab then '\t' else ' '
  let removed := part texts.first change.start change.removed
  let added := part texts.second change.otherStart change.added
  plainRange change.start change.removed ++ letter ::
    plainRange change.otherStart change.added ++ '\n' ::
    removed.flatMap (marked ['<', gap]) ++
    (if change.removed ≠ 0 && change.added ≠ 0 then "---\n".toList else []) ++
    added.flatMap (marked ['>', gap])

/-- Changes that are shown together, with the lines around them. -/
structure Hunk where
  changes : List Change
  start : Nat
  count : Nat
  otherStart : Nat
  otherCount : Nat

/-- Changes in groups, where neighbours are not farther from each other than the lines around both. -/
def groups (margin : Nat) : List Change → List (List Change)
  | [] => []
  | change :: rest =>
    match groups margin rest with
    | (next :: group) :: others =>
      if next.start ≤ change.start + change.removed + 2 * margin then
        (change :: next :: group) :: others
      else [change] :: (next :: group) :: others
    | others => [change] :: others

def Texts.hunk (texts : Texts) (margin : Nat) (group : List Change) : Hunk :=
  let first := group.head?.getD ⟨0, 0, 0, 0⟩
  let last := group.getLast?.getD ⟨0, 0, 0, 0⟩
  let start := first.start - margin
  let stop := min texts.first.size (last.start + last.removed + margin)
  let otherStart := first.otherStart - min margin first.start
  let otherStop := min texts.second.size (last.otherStart + last.added + margin)
  { changes := group, start, count := stop - start, otherStart
    otherCount := otherStop - otherStart }

/-- A range of lines in the unified style. -/
def unifiedRange (start count : Nat) : Raw :=
  if count = 1 then Raw.ofNat (start + 1)
  else Raw.ofNat (if count = 0 then start else start + 1) ++ ',' :: Raw.ofNat count

/-- The lines of a hunk from a place on, with a mark for every line. -/
def Texts.unifiedLines (texts : Texts) (mark : Char → Raw) (stop : Nat) :
    (place : Nat) → List Change → Raw
  | place, [] => (part texts.first place (stop - place)).flatMap (marked (mark ' '))
  | place, change :: rest =>
    (part texts.first place (change.start - place)).flatMap (marked (mark ' ')) ++
    (part texts.first change.start change.removed).flatMap (marked (mark '-')) ++
    (part texts.second change.otherStart change.added).flatMap (marked (mark '+')) ++
    texts.unifiedLines mark stop (change.start + change.removed) rest

def Texts.unified (texts : Texts) (tab : Bool) (hunk : Hunk) : Raw :=
  let mark (c : Char) : Raw := if tab then (if c = ' ' then ['\t'] else [c, '\t']) else [c]
  "@@ -".toList ++ unifiedRange hunk.start hunk.count ++ " +".toList ++
    unifiedRange hunk.otherStart hunk.otherCount ++ " @@\n".toList ++
    texts.unifiedLines mark (hunk.start + hunk.count) hunk.start hunk.changes

/-- A range of lines in the context style. -/
def contextRange (start count : Nat) : Raw :=
  if count ≤ 1 then Raw.ofNat (start + count)
  else Raw.ofNat (start + 1) ++ ',' :: Raw.ofNat (start + count)

/-- One side of a hunk in the context style: the lines from a place on, where each change is told by its
start, its size, and whether the other side has lines for it. -/
def contextSide (lines : Array Raw) (mark gap : Char) (stop : Nat) :
    (place : Nat) → List (Nat × Nat × Bool) → Raw
  | place, [] => (part lines place (stop - place)).flatMap (marked [' ', gap])
  | place, (start, count, isBoth) :: rest =>
    (part lines place (start - place)).flatMap (marked [' ', gap]) ++
    (part lines start count).flatMap (marked [if isBoth then '!' else mark, gap]) ++
    contextSide lines mark gap stop (start + count) rest

def Texts.context (texts : Texts) (tab : Bool) (hunk : Hunk) : Raw :=
  let gap := if tab then '\t' else ' '
  let removed : List (Nat × Nat × Bool) := hunk.changes.map fun change =>
    (change.start, change.removed, change.added ≠ 0)
  let added : List (Nat × Nat × Bool) := hunk.changes.map fun change =>
    (change.otherStart, change.added, change.removed ≠ 0)
  let side (lines : Array Raw) (mark : Char) (start count : Nat)
      (changes : List (Nat × Nat × Bool)) : Raw :=
    if changes.any fun (_, count, _) => count ≠ 0 then
      contextSide lines mark gap (start + count) start changes
    else []
  "***************\n*** ".toList ++ contextRange hunk.start hunk.count ++ " ****\n".toList ++
    side texts.first '-' hunk.start hunk.count removed ++ "--- ".toList ++
    contextRange hunk.otherStart hunk.otherCount ++ " ----\n".toList ++
    side texts.second '+' hunk.otherStart hunk.otherCount added

/-- A file that is compared. -/
structure Subject where
  name : Raw
  modified : Nat := 0
  text : Raw := []

def contextMoment (time : Nat) : Raw :=
  Calendar.render { time := (time * 1000 : Nat) } "%a %b %e %T %Y".toList

def Settings.render (settings : Settings) (style : Style) (first second : Subject)
    (texts : Texts) (changes : List Change) : Raw :=
  let label (place : Nat) (subject : Subject) (moment : Nat → Raw) : Raw :=
    (settings.labels[place]?).getD (subject.name ++ '\t' :: moment subject.modified) ++ ['\n']
  let full (time : Nat) : Raw := Calendar.full (time * 1000 : Nat)
  let margin := settings.margin.getD 3
  let hunks := (groups margin changes).map (texts.hunk margin)
  match style with
  | .plain => changes.flatMap (texts.plain settings.startsWithTab)
  | .unified =>
    "--- ".toList ++ label 0 first full ++ "+++ ".toList ++ label 1 second full ++
      hunks.flatMap (texts.unified settings.startsWithTab)
  | .context =>
    "*** ".toList ++ label 0 first contextMoment ++ "--- ".toList ++
      label 1 second contextMoment ++ hunks.flatMap (texts.context settings.startsWithTab)
  | .brief => []

def isBinary (text : Raw) : Bool :=
  (text.take 32768).contains '\x00'

/-- Compares two texts, and tells what they differ in after a header. -/
def Settings.compareTexts (settings : Settings) (header : Raw) (first second : Subject) :
    Utility Unit := do
  let same : Utility Unit :=
    if settings.tellsSame then
      printLine ("Files ".toList ++ first.name ++ " and ".toList ++ second.name ++
        " are identical".toList)
    else pure ()
  let differ (what : String) : Utility Unit := do
    printLine (what.toList ++ first.name ++ " and ".toList ++ second.name ++ " differ".toList)
    mark 1
  if first.text = second.text then same
  else if !settings.isText && (isBinary first.text || isBinary second.text) then
    differ (if settings.isBrief then "Files " else "Binary files ")
  else
    let style := settings.style.getD .plain
    let texts : Texts := { first := linesOf first.text, second := linesOf second.text }
    let margin := if style = .plain || settings.isBrief then 0 else settings.margin.getD 3
    let isBlank (line : Raw) : Bool :=
      if settings.tolerance.allBlanks || settings.tolerance.blankAmount ||
          settings.tolerance.blankEnds then line.all Raw.isSpace
      else line = ['\n']
    let counts (change : Change) : Bool :=
      !settings.tolerance.blankLines ||
        !((part texts.first change.start change.removed ++
          part texts.second change.otherStart change.added).all isBlank)
    let found := changes settings.tolerance margin texts.first texts.second
    let shown := if style = .plain then found.filter counts else found
    if !found.any counts then same
    else if settings.isBrief then differ "Files "
    else
      mark 1
      print (header ++ settings.render style first second texts shown)

def kindWords (name : Raw) (status : Status) : Raw :=
  ({ name, status } : Particulars.Subject).kindWords

def inside (directory name : Raw) : Raw :=
  if directory.getLast? = some '/' then directory ++ name else directory ++ '/' :: name

def lastPart (path : Raw) : Raw :=
  (Raw.split '/' (Raw.dropEndWhile (· = '/') path)).getLast?.getD []

/-- What is at a path, if anything is. -/
def Settings.examine (settings : Settings) (name : Raw) : Utility (Except OsError Status) :=
  if name = ['-'] then do return (← ask (.describe input)).map (·.1)
  else statusOf name settings.followsLinks

/-- Compares files by their paths. What is in directories is compared by name. -/
def Settings.compare (settings : Settings) : (fuel : Nat) → (isInner : Bool) → Raw → Raw →
    Utility Unit
  | 0, _, _, _ => return ()
  | fuel + 1, isInner, first, second => do
    let refuse (name : Raw) (error : OsError) : Utility Unit := do
      complain (because name error)
      mark trouble
    let mine ← settings.examine first
    let other ← settings.examine second
    let isAbsent (status : Except OsError Status) : Bool := match status with
      | .error .notFound => settings.takesMissing
      | _ => false
    let subject (name : Raw) (status : Except OsError Status) :
        Utility (Except OsError Subject) := do
      match status with
      | .error error => return if isAbsent status then .ok { name } else .error error
      | .ok status =>
        match ← Fingerprint.readFile name with
        | .ok bytes => return .ok { name, modified := status.modified, text := Raw.ofBytes bytes }
        | .error error => return .error error
    let compareFiles : Utility Unit := do
      match ← subject first mine, ← subject second other with
      | .ok mine, .ok other =>
        let header :=
          if isInner then
            Raw.join [' '] ("diff".toList :: settings.told.map showName ++
              [showName first, showName second]) ++ ['\n']
          else []
        settings.compareTexts header mine other
      | .error error, .ok _ => refuse first error
      | .ok _, .error error => refuse second error
      | .error error, .error otherError =>
        refuse first error
        refuse second otherError
    let isDirectory (status : Except OsError Status) : Bool := match status with
      | .ok status => status.kind = .directory
      | .error _ => false
    let namesOf (name : Raw) (status : Except OsError Status) : Utility (List Raw) := do
      match status with
      | .error _ => return []
      | .ok _ =>
        match ← ask (.list ⟨Raw.toString name⟩) with
        | .ok names => return names
        | .error error =>
          refuse name error
          return []
    let compareDirectories : Utility Unit := do
      let mineNames ← namesOf first mine
      let otherNames ← namesOf second other
      let names := (mineNames ++ otherNames).eraseDups.mergeSort Raw.isAtMost
      names.forM fun name => do
        let isMine := mineNames.contains name
        let isOther := otherNames.contains name
        if (isMine && isOther) || settings.takesMissing then
          settings.compare fuel true (inside first name) (inside second name)
        else
          let place := if isMine then first else second
          printLine ("Only in ".toList ++ place ++ ": ".toList ++ name)
          mark 1
    match isDirectory mine, isDirectory other with
    | true, true =>
      if isInner && !settings.isRecursive then
        printLine ("Common subdirectories: ".toList ++ first ++ " and ".toList ++ second)
      else compareDirectories
    | false, false =>
      match mine, other with
      | .error error, .error otherError =>
        refuse first error
        refuse second otherError
      | .ok status, .ok otherStatus =>
        if (isInner || !settings.followsLinks) && status.kind ≠ otherStatus.kind then
          tellKinds first second status otherStatus
        else compareFiles
      | _, _ => compareFiles
    | _, _ =>
      match mine, other with
      | .ok status, .ok otherStatus =>
        if isInner then tellKinds first second status otherStatus
        else if first = ['-'] || second = ['-'] then
          die trouble "cannot compare '-' to a directory".toList
        else if isDirectory mine then
          settings.compare fuel false (inside first (lastPart second)) second
        else settings.compare fuel false first (inside second (lastPart first))
      | .error error, .ok _ =>
        if !settings.takesMissing then refuse first error
        else if settings.isRecursive then compareDirectories
        else if isInner then
          printLine ("Common subdirectories: ".toList ++ first ++ " and ".toList ++ second)
        else compareDirectories
      | .ok _, .error error =>
        if !settings.takesMissing then refuse second error
        else if settings.isRecursive then compareDirectories
        else if isInner then
          printLine ("Common subdirectories: ".toList ++ first ++ " and ".toList ++ second)
        else compareDirectories
      | .error _, .error _ => pure ()
where
  /-- Tells that files are not of one kind. -/
  tellKinds (first second : Raw) (mine other : Status) : Utility Unit := do
    printLine ("File ".toList ++ first ++ " is a ".toList ++ kindWords first mine ++
      " while file ".toList ++ second ++ " is a ".toList ++ kindWords second other)
    mark 1

/-- Arguments without the last ones that are among others. -/
def without : List Raw → List Raw → List Raw
  | arguments, [] => arguments
  | [], _ => []
  | argument :: rest, operand :: operands =>
    if argument = operand then without rest operands else argument :: without rest (operand :: operands)

/-- `diff`. -/
def run (arguments : List Raw) : Utility Unit := do
  breakWith trouble
  let (items, operands) := options.read arguments.length arguments
  let settings ← takeOptions suggestHelp Settings.take {} items
  let told := (without arguments.reverse operands.reverse).reverse
  let settings := { settings with told := told.filter (· ≠ ['-', '-']) }
  match operands with
  | [] => suggestHelp "missing operand after 'diff'".toList
  | [first] => suggestHelp ("missing operand after '".toList ++ first ++ ['\x27'])
  | [first, second] =>
    if first = second && first = ['-'] then
      if settings.tellsSame then printLine "Files - and - are identical".toList
    else settings.compare 1000 false first second
  | _ :: _ :: extra :: _ => suggestHelp ("extra operand '".toList ++ extra ++ ['\x27'])

end WheelInstaller.Utility.Contrast
