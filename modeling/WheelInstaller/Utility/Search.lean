import WheelInstaller.Text.Wildcard
import WheelInstaller.Utility.Lines
import WheelInstaller.Utility.Naming
import WheelInstaller.Utility.Options
import WheelInstaller.Utility.TextPattern

/-! `grep`: the lines of files in which a pattern fits. -/

namespace WheelInstaller.Utility.Search

open Process

inductive Kind where
  | basic
  | extended
  /-- As the extended way, where digits have a letter too. -/
  | rich
  /-- Every character means itself. -/
  | fixed
deriving DecidableEq, Repr

inductive Showing where
  | lines
  | count
  /-- Its name, if a line was found or if none was. -/
  | name (found : Bool)
  | nothing
deriving DecidableEq, Repr

inductive Directories where
  | read
  | skip
  /-- Everything in them is searched; links are followed or not. -/
  | enter (follow : Bool)
deriving DecidableEq, Repr

inductive Binary where
  /-- It is only told that there is a line. -/
  | told
  | text
  | skipped
deriving DecidableEq, Repr

structure Settings where
  kind : Option Kind := none
  patterns : Option (List Raw) := none
  anyCase : Bool := false
  words : Bool := false
  wholeLines : Bool := false
  inverted : Bool := false
  onlyMatches : Bool := false
  counts : Bool := false
  listing : Option Bool := none
  quiet : Bool := false
  numbers : Bool := false
  offsets : Bool := false
  named : Option Bool := none
  label : Raw := "(standard input)".toList
  before : Option Nat := none
  after : Option Nat := none
  /-- Lines before and after that are shown unless others are wanted. -/
  around : Nat := 0
  /-- The last option was a digit of that number. -/
  limit : Option Nat := none
  silent : Bool := false
  directories : Directories := .read
  binary : Binary := .told
  lineEnd : Char := '\n'
  /-- The names of files that are searched or not, in the order in which they were told. -/
  filters : List (Bool × Wildcard) := []
  /-- The names of directories that are not entered. -/
  avoided : List Wildcard := []
  /-- What follows a name. -/
  nameEnd : Option Char := none
  separator : Option Raw := some ['-', '-']

def usage : String := "grep [OPTION]... PATTERNS [FILE]..."

def options : Options where
  letters := Options.valuedLetters "efmABCdDX" ++
    Options.plainLetters "EFGPiyvwxcLloqsbHhnazrRTUuZI0123456789"
  words := [
    ("basic-regexp", .plain, "G"), ("extended-regexp", .plain, "E"), ("fixed-regexp", .plain, "F"),
    ("fixed-strings", .plain, "F"), ("perl-regexp", .plain, "P"), ("after-context", .valued, "A"),
    ("before-context", .valued, "B"), ("binary-files", .valued, "binary"),
    ("byte-offset", .plain, "b"), ("context", .valued, "C"), ("color", .optional, "color"),
    ("colour", .optional, "color"), ("count", .plain, "c"), ("devices", .valued, "D"),
    ("directories", .valued, "d"), ("exclude", .valued, "exclude"),
    ("exclude-from", .valued, "excludes"), ("exclude-dir", .valued, "avoid"),
    ("file", .valued, "f"), ("files-with-matches", .plain, "l"),
    ("files-without-match", .plain, "L"), ("group-separator", .valued, "separator"),
    ("include", .valued, "include"), ("ignore-case", .plain, "i"),
    ("no-ignore-case", .plain, "case"), ("initial-tab", .plain, "T"), ("label", .valued, "label"),
    ("line-buffered", .plain, "line"), ("line-number", .plain, "n"), ("line-regexp", .plain, "x"),
    ("max-count", .valued, "m"), ("no-filename", .plain, "h"),
    ("no-group-separator", .plain, "unseparated"), ("no-messages", .plain, "s"),
    ("null", .plain, "Z"), ("null-data", .plain, "z"), ("only-matching", .plain, "o"),
    ("quiet", .plain, "q"), ("recursive", .plain, "r"), ("dereference-recursive", .plain, "R"),
    ("regexp", .valued, "e"), ("invert-match", .plain, "v"), ("silent", .plain, "q"),
    ("text", .plain, "a"), ("binary", .plain, "U"), ("with-filename", .plain, "H"),
    ("word-regexp", .plain, "w")]
  usage := some usage

def contextLength (text : Raw) : Utility Nat := do
  let run := text.takeWhile Char.isDigit
  if text.isEmpty || run ≠ text then die 2 (text ++ ": invalid context length argument".toList)
  else return Raw.digitsValue run

/-- The settings with another way of writing patterns. -/
def Settings.takeKind (settings : Settings) (kind : Kind) : Utility Settings := do
  match settings.kind with
  | none => return { settings with kind := some kind }
  | some known =>
    if known = kind then return settings else die 2 "conflicting matchers specified".toList

/-- The settings with further patterns, which are lines of a text. -/
def Settings.addPatterns (settings : Settings) (text : Raw) : Settings :=
  { settings with patterns := some (settings.patterns.getD [] ++ Raw.split '\n' text) }

def Directories.ofWord (word : Raw) : Utility Directories := do
  match [("read", Directories.read), ("recurse", .enter false), ("skip", .skip)].find?
    (·.1.toList = word) with
  | some (_, directories) => return directories
  | none =>
    complain ("invalid argument ".toList ++ quoteWord word ++ " for '--directories'".toList)
    remark "Valid arguments are:\n  - 'read'\n  - 'recurse'\n  - 'skip'\n".toList
    showUsage 1 usage

def readText (name : Raw) : Utility Raw := do
  let isInput : Bool := name == ['-']
  match ← if isInput then pure (.ok input) else openFile name with
  | .error error => die 2 (because name error)
  | .ok descriptor =>
    match ← readAll descriptor with
    | .error error => die 2 (because name error)
    | .ok bytes =>
      if !isInput then close descriptor
      return Raw.ofBytes bytes

def Settings.take (settings : Settings) (key : String) (value : Raw) : Utility Settings := do
  match key with
  | "E" => settings.takeKind .extended
  | "P" => settings.takeKind .rich
  | "F" => settings.takeKind .fixed
  | "G" => settings.takeKind .basic
  | "e" => return settings.addPatterns value
  | "f" =>
    let text ← readText value
    if text.isEmpty then return { settings with patterns := some (settings.patterns.getD []) }
    else return settings.addPatterns (if text.getLast? = some '\n' then text.dropLast else text)
  | "i" | "y" => return { settings with anyCase := true }
  | "case" => return { settings with anyCase := false }
  | "v" => return { settings with inverted := true }
  | "w" => return { settings with words := true }
  | "x" => return { settings with wholeLines := true }
  | "c" => return { settings with counts := true }
  | "L" => return { settings with listing := some false }
  | "l" => return { settings with listing := some true }
  | "m" =>
    let digits := match value with
      | '-' :: digits => digits
      | digits => digits
    if digits.isEmpty || !digits.all Char.isDigit then die 2 "invalid max count".toList
    else
      return { settings with
        limit := if value.head? = some '-' then none else some (Raw.digitsValue digits) }
  | "o" => return { settings with onlyMatches := true }
  | "q" => return { settings with quiet := true }
  | "s" => return { settings with silent := true }
  | "b" => return { settings with offsets := true }
  | "H" => return { settings with named := some true }
  | "h" => return { settings with named := some false }
  | "n" => return { settings with numbers := true }
  | "a" => return { settings with binary := .text }
  | "I" => return { settings with binary := .skipped }
  | "z" => return { settings with lineEnd := '\x00' }
  | "r" => return { settings with directories := .enter false }
  | "R" => return { settings with directories := .enter true }
  | "Z" => return { settings with nameEnd := some '\x00' }
  | "A" => return { settings with after := some (← contextLength value) }
  | "B" => return { settings with before := some (← contextLength value) }
  | "C" => return { settings with around := ← contextLength value }
  | "label" => return { settings with label := value }
  | "separator" => return { settings with separator := some value }
  | "include" =>
    return { settings with filters := settings.filters ++ [(true, Wildcard.ofArgument value)] }
  | "exclude" =>
    return { settings with filters := settings.filters ++ [(false, Wildcard.ofArgument value)] }
  | "excludes" =>
    let names := (Raw.split '\n' (← readText value)).filter fun name => !name.isEmpty
    let excluded := names.map fun name => (false, Wildcard.ofArgument name)
    return { settings with filters := settings.filters ++ excluded }
  | "avoid" =>
    return { settings with avoided := Wildcard.ofArgument (Naming.trimmed value) :: settings.avoided }
  | "unseparated" => return { settings with separator := none }
  | "d" => return { settings with directories := ← Directories.ofWord value }
  | "D" =>
    if value = "read".toList || value = "skip".toList then return settings
    else die 2 "unknown devices method".toList
  | "X" => die 2 ("invalid matcher ".toList ++ value)
  | "binary" =>
    if value = "text".toList then return { settings with binary := .text }
    else if value = "binary".toList then return { settings with binary := .told }
    else if value = "without-match".toList then return { settings with binary := .skipped }
    else die 2 "unknown binary-files type".toList
  | _ => return settings

/-- The number that digits among the options make: those that follow each other directly. -/
def takeDigits : (settings : Settings) → (digits : Raw) → List Item → Utility Settings
  | settings, _, [] => return settings
  | settings, digits, .option key value :: rest => do
    match key.toList with
    | [c] =>
      if c.isDigit then
        let digits := digits ++ [c]
        takeDigits { settings with around := Raw.digitsValue digits } digits rest
      else takeDigits (← settings.take key (value.getD [])) [] rest
    | _ => takeDigits (← settings.take key (value.getD [])) [] rest
  | _, _, .bad message :: _ => do
    complain message
    showUsage 2 usage

/-- The pattern that fits a text itself. -/
def literally (text : Raw) : TextPattern :=
  text.foldr (fun c pattern => .sequence (.character (· = c)) pattern) .empty

/-- The way of writing patterns of a kind, unless every character means itself. -/
def Kind.grammar? : Kind → Option TextPattern.Grammar
  | .basic => some { isStrict := false, guardsClasses := true }
  | .extended => some { isExtended := true, isStrict := false, isLax := true, guardsClasses := true }
  | .rich => some {
      isExtended := true, isStrict := false, isLax := true, guardsClasses := true
      knowsDigits := true }
  | .fixed => none

/-- Reads patterns of which one has to fit. -/
def readPatterns (settings : Settings) : List Raw → Utility (List TextPattern)
  | [] => return []
  | text :: rest => do
    let pattern ← match (settings.kind.getD .basic).grammar? with
      | none => pure (literally text)
      | some grammar =>
        match TextPattern.readWarning grammar text with
        | .error complaint => die 2 complaint.toList
        | .ok (pattern, warnings) =>
          warnings.forM fun warning => complain ("warning: ".toList ++ warning.toList)
          pure pattern
    let pattern := if settings.anyCase then pattern.inAnyCase else pattern
    return pattern :: (← readPatterns settings rest)

/-- What is looked for: the settings, the pattern if there is any, and whether names are shown. -/
structure Task where
  settings : Settings
  pattern : Option TextPattern
  named : Bool

namespace Task

/-- A match counts: it takes whole words or lines where those are wanted. -/
def isWanted (task : Task) (line : Raw) (found : TextMatch) : Bool :=
  let before := (line.take found.start).getLast?
  let after := (line.drop (found.start + found.length)).head?
  let isWord := !before.any isWordChar && !after.any isWordChar
  let isLine := found.start = 0 && found.length = line.length
  if task.settings.wholeLines then isLine else !task.settings.words || isWord

def findFrom? (task : Task) (line : Raw) (place : Nat) : Option TextMatch := do
  let pattern ← task.pattern
  pattern.findFrom? (task.isWanted line) place (line.take place).reverse (line.drop place)

def selects (task : Task) (line : Raw) : Bool :=
  (task.findFrom? line 0).isSome ≠ task.settings.inverted

/-- The matches in a line that take something. -/
def matchesFrom (task : Task) (line : Raw) : (rounds place : Nat) → List TextMatch
  | 0, _ => []
  | rounds + 1, place =>
    match task.findFrom? line place with
    | none => []
    | some found =>
      if found.length = 0 then
        if found.start < line.length then task.matchesFrom line rounds (found.start + 1) else []
      else found :: task.matchesFrom line rounds (found.start + found.length)

/-- A pattern fits a name: its last step, or all of it if the name was given. -/
def fitsName (isGiven : Bool) (name : Raw) (pattern : Wildcard) : Bool :=
  pattern.fits (Naming.lastStep name) || (isGiven && pattern.fits name)

/-- A file of that name is searched: the last filter that fits it says so, or else the first filter
excludes others. -/
def admits (task : Task) (isGiven : Bool) (name : Raw) : Bool :=
  let fitting := task.settings.filters.filter fun (_, pattern) => fitsName isGiven name pattern
  match fitting.getLast?, task.settings.filters with
  | some (included, _), _ => included
  | none, (included, _) :: _ => !included
  | none, [] => true

/-- A directory of that name is entered. -/
def enters (task : Task) (isGiven : Bool) (name : Raw) : Bool :=
  !task.settings.avoided.any fun pattern => fitsName isGiven name pattern

def showing (task : Task) : Showing :=
  if task.settings.quiet then .nothing
  else
    match task.settings.listing with
    | some found => .name found
    | none => if task.settings.counts then .count else .lines

/-- How many lines before a line are shown. -/
def linesBefore (task : Task) : Nat :=
  if task.settings.onlyMatches then 0 else task.settings.before.getD task.settings.around

/-- How many lines after a line are shown. -/
def linesAfter (task : Task) : Nat :=
  if task.settings.onlyMatches then 0 else task.settings.after.getD task.settings.around

end Task

/-- A line of a file with its number and the place where it starts. -/
structure Numbered where
  text : Raw
  number : Nat
  offset : Nat

/-- How far the search through a file is. -/
structure Progress where
  count : Nat := 0
  number : Nat := 0
  offset : Nat := 0
  /-- Lines before that may still be shown, the latest first. -/
  waiting : List Numbered := []
  /-- How many lines after the last one are still to be shown. -/
  owed : Nat := 0
  /-- The number of the last line that was shown. -/
  shown : Option Nat := none
  isBinary : Bool := false

def printName (task : Task) (name : Raw) (mark : Char) : Utility Unit :=
  print (name ++ [task.settings.nameEnd.getD mark])

def printPart (task : Task) (name : Raw) (mark : Char) (line : Numbered) (offset : Nat)
    (text : Raw) : Utility Unit := do
  if task.named then printName task name mark
  if task.settings.numbers then print (Raw.ofNat line.number ++ [mark])
  if task.settings.offsets then print (Raw.ofNat (line.offset + offset) ++ [mark])
  print (text ++ [task.settings.lineEnd])

/-- Prints a line, after a separator if lines are missing before it. -/
def printLineOf (task : Task) (name : Raw) (mark : Char) (isFirst : Bool) (progress : Progress)
    (line : Numbered) : Utility Progress := do
  let hasContext := task.linesBefore ≠ 0 || task.linesAfter ≠ 0
  let isGap : Bool := match progress.shown with
    | some last => last + 1 < line.number
    | none => !isFirst
  match task.settings.separator with
  | some separator => if hasContext && isGap then printLine separator
  | none => pure ()
  printPart task name mark line 0 line.text
  return { progress with shown := some line.number }

def printLinesOf (task : Task) (name : Raw) (isFirst : Bool) :
    (progress : Progress) → List Numbered → Utility Progress
  | progress, [] => return progress
  | progress, line :: rest => do
    printLinesOf task name isFirst (← printLineOf task name '-' isFirst progress line) rest

def showFound (task : Task) (name : Raw) (isFirst : Bool) (progress : Progress) (line : Numbered) :
    Utility Progress := do
  if task.settings.onlyMatches then
    if !task.settings.inverted then
      (task.matchesFrom line.text (line.text.length + 1) 0).forM fun found =>
        printPart task name ':' line found.start
          ((line.text.drop found.start).take found.length)
    return progress
  else
    let progress ← printLinesOf task name isFirst progress progress.waiting.reverse
    let progress ← printLineOf task name ':' isFirst progress line
    return { progress with waiting := [], owed := task.linesAfter }

/-- Goes on after the last line that was to be found: shows lines after it. -/
def showRest (task : Task) (name : Raw) : (rounds : Nat) → Progress → Lines → Utility Progress
  | 0, progress, _ => return progress
  | rounds + 1, progress, lines => do
    if progress.owed = 0 then return progress
    else
      match ← lines.next with
      | .ok (some (line, lines)) =>
        let numbered : Numbered := ⟨line.text, progress.number + 1, progress.offset⟩
        if task.selects line.text then return progress
        else
          let progress ← printLineOf task name '-' false progress numbered
          let offset := progress.offset + line.text.length + 1
          showRest task name rounds
            { progress with number := numbered.number, offset, owed := progress.owed - 1 } lines
      | _ => return progress

/-- Searches lines. Nothing was shown before if `isFirst`. -/
def searchLines (task : Task) (name : Raw) (isFirst : Bool) : (rounds : Nat) → Progress → Lines →
    Utility (Except OsError Progress)
  | 0, progress, _ => return .ok progress
  | rounds + 1, progress, lines => do
    match ← lines.fill forever with
    | .error error => return .error error
    | .ok lines =>
      let isBinary := progress.isBinary ||
        (task.settings.binary ≠ .text && task.settings.lineEnd = '\n' && lines.held.contains '\x00')
      let lines := if isBinary then
          { lines with held := lines.held.map fun c => if c = '\x00' then '\n' else c }
        else lines
      if isBinary && task.settings.binary = .skipped then return .ok { progress with count := 0 }
      else
        match lines.take? with
        | none => return .ok progress
        | some (line, lines) =>
          let numbered : Numbered := ⟨line.text, progress.number + 1, progress.offset⟩
          let progress := { progress with
            isBinary
            number := numbered.number
            offset := progress.offset + line.text.length + 1 }
          if task.selects line.text then
            let progress := { progress with count := progress.count + 1 }
            match task.showing with
            | .nothing | .name _ => return .ok progress
            | .count =>
              if task.settings.limit = some progress.count then return .ok progress
              else searchLines task name isFirst rounds progress lines
            | .lines =>
              if isBinary then
                complain (name ++ ": binary file matches".toList)
                return .ok progress
              else
                let progress ← showFound task name isFirst progress numbered
                if task.settings.limit = some progress.count then
                  return .ok (← showRest task name forever progress lines)
                else searchLines task name isFirst rounds progress lines
          else if task.showing ≠ .lines || isBinary then
            searchLines task name isFirst rounds progress lines
          else if progress.owed ≠ 0 then
            let progress ← printLineOf task name '-' isFirst progress numbered
            searchLines task name isFirst rounds { progress with owed := progress.owed - 1 } lines
          else
            let waiting := (numbered :: progress.waiting).take task.linesBefore
            searchLines task name isFirst rounds { progress with waiting } lines

/-- What a search has come to until now. -/
structure Result where
  found : Bool := false
  failed : Bool := false
  /-- Something was shown. -/
  shown : Bool := false

def failed (task : Task) (result : Result) (name : Raw) (error : OsError) : Utility Result := do
  if !task.settings.silent then complain (because name error)
  return { result with failed := true }

def searchOpen (task : Task) (result : Result) (name : Raw) (descriptor : Nat) : Utility Result := do
  let lines : Lines := { descriptor, lineEnd := task.settings.lineEnd }
  match ← searchLines task name (!result.shown) forever {} lines with
  | .error error => failed task result name error
  | .ok progress =>
    let isFound := progress.count ≠ 0
    match task.showing with
    | .nothing => if isFound then exit 0
    | .count =>
      if task.named then printName task name ':'
      printLine (Raw.ofNat progress.count)
    | .name wanted => if isFound = wanted then print (name ++ [task.settings.nameEnd.getD '\n'])
    | .lines => pure ()
    return { result with
      found := result.found || isFound, shown := result.shown || progress.shown.isSome }

/-- Searches files, and what is in directories if that is wanted. -/
def searchEach (task : Task) : (fuel : Nat) → (isGiven : Bool) → Result → List Raw → Utility Result
  | 0, _, result, _ | _ + 1, _, result, [] => return result
  | fuel + 1, isGiven, result, name :: rest => do
    let result ←
      if isGiven && name = ['-'] then searchOpen task result task.settings.label input
      else
        let follows := isGiven || task.settings.directories = .enter true
        match ← statusOf name follows with
        | .error error => failed task result name error
        | .ok status =>
          match task.settings.directories, status.kind with
          | .enter _, .directory =>
            if !task.enters isGiven name then pure result
            else
              match ← ask (.list ⟨Raw.toString name⟩) with
              | .error error => failed task result name error
              | .ok names =>
                let task := { task with named := task.settings.named.getD true }
                searchEach task fuel false result (names.map (Naming.under name))
          | .skip, .directory => pure result
          | _, kind =>
            let isOdd := !isGiven && kind ≠ .file
            if isOdd || !task.admits isGiven name then pure result
            else
              match ← openFile name with
              | .error error => failed task result name error
              | .ok descriptor =>
                let result ← searchOpen task result name descriptor
                close descriptor
                pure result
    searchEach task fuel isGiven result rest

/-- The names in a directory that was not given: the current one. -/
def searchHere (task : Task) (result : Result) : Utility Result := do
  match ← ask (.list ⟨"."⟩) with
  | .error error => failed task result ['.'] error
  | .ok names =>
    searchEach { task with named := task.settings.named.getD true } forever false result names

/-- `grep` with settings. -/
def runWith (settings : Settings) (arguments : List Raw) : Utility Unit := do
  breakWith 2
  let (items, operands) := options.read arguments.length arguments
  let settings ← takeDigits settings [] items
  let (settings, names) ← match settings.patterns, operands with
    | some _, names => pure (settings, names)
    | none, pattern :: names => pure (settings.addPatterns pattern, names)
    | none, [] => showUsage 2 usage
  let pattern := match ← readPatterns settings (settings.patterns.getD []) with
    | [] => none
    | first :: rest => some (rest.foldl .either first)
  let named := settings.named.getD (1 < names.length)
  let task : Task := { settings, pattern, named }
  if settings.limit = some 0 && settings.listing ≠ some false then exit 1
  let result ← match names, settings.directories with
    | [], .enter _ => searchHere task {}
    | [], _ => searchEach task forever true {} [['-']]
    | names, _ => searchEach task forever true {} names
  exit (if result.failed then 2 else if result.found then 0 else 1)

/-- `grep`. -/
def run (arguments : List Raw) : Utility Unit :=
  runWith {} arguments

/-- `grep` under a name that tells how patterns are written. -/
def runAs (kind : Kind) (arguments : List Raw) : Utility Unit := do
  alter fun state => { state with name := "grep".toList }
  runWith { kind := some kind } arguments

end WheelInstaller.Utility.Search
