import WheelInstaller.Text.Wildcard
import WheelInstaller.Utility.Order
import WheelInstaller.Utility.Permissions
import WheelInstaller.Utility.Moment
import WheelInstaller.Utility.Naming
import WheelInstaller.Utility.Quoting
import WheelInstaller.Utility.Options

/-! `ls`: what directories hold. -/

namespace WheelInstaller.Utility.Listing

open Process Arrangement

/-- How names are put on lines. -/
inductive Format where
  | single
  | long
  | columns
  | rows
  | commas
deriving DecidableEq, Repr

inductive Sorting where
  | name
  | time
  | size
  | ending
  | version
  | width
  | nothing
deriving DecidableEq, Repr

inductive Marking where
  | nothing
  | directories
  | kinds
  /-- Also what can be run. -/
  | everything
deriving DecidableEq, Repr

/-- Names that are left out. -/
inductive Omission where
  | dotted
  /-- Only the directory itself and the one above. -/
  | special
  | nothing
deriving DecidableEq, Repr

inductive Style where
  | literal
  | shell
  | shellAlways
  | escaped
  | quoted
  | words
deriving DecidableEq, Repr

inductive Following where
  | never
  | given
  /-- Those given that lead to directories. -/
  | directories
  | always
deriving DecidableEq, Repr

structure Settings where
  format : Format := .single
  sorting : Option Sorting := none
  reverse : Bool := false
  directoriesFirst : Bool := false
  omission : Omission := .dotted
  ignored : List Raw := []
  hidden : List Raw := []
  /-- Directories are shown themselves. -/
  itself : Bool := false
  whole : Bool := false
  marking : Marking := .nothing
  style : Style := .literal
  /-- What cannot be printed is shown as a question mark. -/
  covers : Bool := false
  following : Option Following := none
  layout : Layout := {}
  numbers : Bool := false
  blocks : Bool := false
  human : Bool := false
  owner : Bool := true
  group : Bool := true
  numeric : Bool := false
  separator : Char := '\n'

/-- The status for what is wrong with the arguments. -/
def trouble : Nat := 2

def options : Options where
  letters := Options.plainLetters "abcdfghiklmnopqrstuvxABCDFGHLNQRSUXZ1" ++
    Options.valuedLetters "wTI"
  words := [("all", .plain, "a"), ("escape", .plain, "b"), ("directory", .plain, "d"),
    ("dired", .plain, "D"), ("full-time", .plain, "l"),
    ("group-directories-first", .plain, "directories"), ("human-readable", .plain, "h"),
    ("inode", .plain, "i"), ("kibibytes", .plain, "k"), ("numeric-uid-gid", .plain, "n"),
    ("no-group", .plain, "G"), ("hide-control-chars", .plain, "q"), ("reverse", .plain, "r"),
    ("size", .plain, "s"), ("width", .valued, "w"), ("almost-all", .plain, "A"),
    ("ignore-backups", .plain, "B"), ("classify", .optional, "F"), ("file-type", .plain, "type"),
    ("si", .plain, "h"), ("dereference-command-line", .plain, "H"),
    ("dereference-command-line-symlink-to-dir", .plain, "links"), ("hide", .valued, "hide"),
    ("ignore", .valued, "I"), ("indicator-style", .valued, "indicator"),
    ("dereference", .plain, "L"), ("literal", .plain, "N"), ("quote-name", .plain, "Q"),
    ("quoting-style", .valued, "quoting"), ("recursive", .plain, "R"), ("format", .valued, "format"),
    ("show-control-chars", .plain, "show"), ("sort", .valued, "sort"), ("tabsize", .valued, "T"),
    ("time", .valued, ""), ("time-style", .valued, ""), ("zero", .plain, "zero"),
    ("color", .optional, ""), ("hyperlink", .optional, ""), ("block-size", .valued, ""),
    ("context", .plain, "Z"), ("author", .plain, "")]

def formatWords : List (String × Format) :=
  [("verbose", .long), ("long", .long), ("commas", .commas), ("horizontal", .rows),
   ("across", .rows), ("vertical", .columns), ("single-column", .single)]

def sortWords : List (String × Sorting) :=
  [("none", .nothing), ("time", .time), ("size", .size), ("extension", .ending),
   ("version", .version), ("width", .width)]

def markingWords : List (String × Marking) :=
  [("none", .nothing), ("slash", .directories), ("file-type", .kinds), ("classify", .everything)]

def styleWords : List (String × Style) :=
  [("literal", .literal), ("shell", .shell), ("shell-always", .shellAlways),
   ("shell-escape", .shell), ("shell-escape-always", .shellAlways), ("c", .quoted),
   ("c-maybe", .quoted), ("escape", .escaped), ("locale", .words), ("clocale", .quoted)]

def take (settings : Settings) (key : String) (value : Raw) : Utility Settings := do
  let long : Settings := { settings with format := .long }
  match key with
  | "a" => return { settings with omission := .nothing }
  | "A" => return { settings with omission := .special }
  | "b" => return { settings with style := .escaped }
  | "B" =>
    let backups := ["*~".toList, ".*~".toList]
    return { settings with ignored := settings.ignored ++ backups }
  | "C" => return { settings with format := .columns }
  | "d" => return { settings with itself := true }
  | "f" => return { settings with omission := .nothing, sorting := some .nothing, blocks := false }
  | "F" => return { settings with marking := .everything }
  | "g" => return { long with owner := false }
  | "G" => return { settings with group := false }
  | "h" => return { settings with human := true }
  | "H" => return { settings with following := some .given }
  | "i" => return { settings with numbers := true }
  | "I" => return { settings with ignored := settings.ignored ++ [value] }
  | "hide" => return { settings with hidden := settings.hidden ++ [value] }
  | "l" => return long
  | "L" => return { settings with following := some .always }
  | "links" => return { settings with following := some .directories }
  | "m" => return { settings with format := .commas }
  | "n" => return { long with numeric := true }
  | "N" => return { settings with style := .literal }
  | "o" => return { long with group := false }
  | "p" => return { settings with marking := .directories }
  | "q" => return { settings with covers := true }
  | "Q" => return { settings with style := .quoted }
  | "r" => return { settings with reverse := true }
  | "R" => return { settings with whole := true }
  | "s" => return { settings with blocks := true }
  | "S" => return { settings with sorting := some .size }
  | "show" => return { settings with covers := false }
  | "t" => return { settings with sorting := some .time }
  | "T" => return { settings with layout.tab := ← size "tab size" }
  | "U" => return { settings with sorting := some .nothing }
  | "v" => return { settings with sorting := some .version }
  | "w" => return { settings with layout.line := ← size "line width" }
  | "x" => return { settings with format := .rows }
  | "X" => return { settings with sorting := some .ending }
  | "1" =>
    return if settings.format = .long then settings else { settings with format := .single }
  | "type" => return { settings with marking := .kinds }
  | "directories" => return { settings with directoriesFirst := true }
  | "zero" =>
    return { settings with
      separator := '\x00', style := .literal, covers := false
      format := if settings.format = .long then .long else .single }
  | "format" => return { settings with format := ← chooseWord 1 "--format" value formatWords }
  | "sort" =>
    return { settings with sorting := some (← chooseWord 1 "--sort" value sortWords) }
  | "indicator" =>
    return { settings with
      marking := ← chooseWord 1 "--indicator-style" value markingWords }
  | "quoting" =>
    return { settings with style := ← chooseWord 1 "--quoting-style" value styleWords }
  | _ => return settings
where
  /-- The number that an option was given. -/
  size (what : String) : Utility Nat := do
    match parseSize "" value with
    | .ok number => return number
    | .error _ => die trouble (("invalid " ++ what ++ ": ").toList ++ quoteWord value)

structure Entry where
  name : Raw
  status : Option Status
  /-- The text of a link, and what it leads to. -/
  link : Option (Raw × Option Status) := none
  isGiven : Bool := false

namespace Entry

def isDirectory (entry : Entry) : Bool :=
  entry.status.any fun status => status.kind = .directory

def leadsToDirectory (entry : Entry) : Bool :=
  entry.isDirectory ||
    entry.link.any fun (_, behind) => behind.any fun status => status.kind = .directory

/-- The kibibytes that it takes up. -/
def blocks (entry : Entry) : Nat :=
  match entry.status with
  | some { kind := .file, size, .. } => (size + 4095) / 4096 * 4
  | some { kind := .directory, .. } => 4
  | _ => 0

def size (entry : Entry) : Nat :=
  (entry.status.map (·.size)).getD 0

def modified (entry : Entry) : Nat :=
  (entry.status.map (·.modified)).getD 0

/-- The last part of its name, with the point before it. -/
def ending (entry : Entry) : Raw :=
  match (Raw.split '.' entry.name).reverse with
  | [] | [_] => []
  | last :: _ => '.' :: last

end Entry

def styled (settings : Settings) (name : Raw) : Raw :=
  let escape (extra : List Char) (c : Char) : Raw :=
    if extra.contains c || c = '\\' then ['\\', c]
    else if isPrintable c then [c]
    else '\\' :: escaped c
  match settings.style with
  | .literal =>
    if settings.covers then name.map fun c => if isPrintable c then c else '?' else name
  | .shell => showName name
  | .shellAlways => quoteName name
  | .escaped => name.flatMap (escape [' '])
  | .quoted => '"' :: name.flatMap (escape ['"']) ++ ['"']
  | .words => quoteWord name

/-- The sign after the name of something with a status. -/
def mark? (marking : Marking) (status : Option Status) : Raw :=
  match marking, status with
  | .nothing, _ | _, none => []
  | marking, some status =>
    match status.kind with
    | .directory => ['/']
    | .link => if marking = .directories then [] else ['@']
    | .pipe => if marking = .directories then [] else ['|']
    | .device => []
    | .file =>
      if marking = .everything && status.mode &&& 0o111 ≠ 0 then ['*'] else []

/-- A number of bytes in the largest unit that leaves something of it, rounded up. -/
def humanSize (size : Nat) : Raw :=
  let rec go : (units : List Char) → (unit : Nat) → Raw
    | [], _ => Raw.ofNat size
    | letter :: rest, unit =>
      let tenths := (size * 10 + unit - 1) / unit
      let whole := (size + unit - 1) / unit
      if tenths < 100 then Raw.ofNat (tenths / 10) ++ '.' :: Raw.ofNat (tenths % 10) ++ [letter]
      else if whole < 1024 || rest.isEmpty then Raw.ofNat whole ++ [letter]
      else go rest (unit * 1024)
  if size < 1024 then Raw.ofNat size else go "KMGTPE".toList 1024

def shownBlocks (settings : Settings) (blocks : Nat) : Raw :=
  if settings.human then humanSize (1024 * blocks) else Raw.ofNat blocks

/-- A text after as many blanks as it takes to reach a width. -/
def padStart (width : Nat) (text : Raw) : Raw :=
  List.replicate (width - text.length) ' ' ++ text

/-- A text before as many blanks as it takes to reach a width. -/
def padEnd (width : Nat) (text : Raw) : Raw :=
  text ++ List.replicate (width - text.length) ' '

/-- How long ago something may be to be shown with the time of day. -/
def recent : Nat := 31556952 / 2 * Moment.second

/-- A moment as it is shown, some time later. -/
def shownTime (now time : Nat) : Raw :=
  let date := Moment.read time
  let two (number : Nat) : Raw :=
    let digits := Raw.ofNat number
    List.replicate (2 - digits.length) '0' ++ digits
  let day := (Moment.months.getD (date.month - 1) "").toList ++ ' ' :: padStart 2 (Raw.ofNat date.day)
  if time ≤ now && now < time + recent then
    day ++ ' ' :: two date.hour ++ ':' :: two date.minute
  else day ++ ' ' :: padStart 5 (Raw.ofInt date.year)

/-- The widths of the parts of long lines. -/
structure Widths where
  number : Nat := 0
  blocks : Nat := 0
  names : Nat := 0
  size : Nat := 0

def numberOf (entry : Entry) : Raw :=
  match entry.status with
  | some _ => Raw.ofNat (entry.name.foldl (fun sum c => (sum * 31 + c.toNat) % 900000) 7 + 100000)
  | none => ['?']

def shownSize (settings : Settings) (entry : Entry) : Raw :=
  if settings.human then humanSize entry.size else Raw.ofNat entry.size

def widthsOf (settings : Settings) (entries : List Entry) : Widths :=
  let most (shown : Entry → Raw) : Nat :=
    entries.foldl (fun width entry => max width (shown entry).length) 0
  { number := most numberOf
    blocks := most fun entry => shownBlocks settings entry.blocks
    names := most fun entry => Raw.ofNat ((entry.status.map (·.names)).getD 0)
    size := most (shownSize settings) }

def frills (settings : Settings) (widths : Widths) (entry : Entry) : Raw :=
  let number := if settings.numbers then padStart widths.number (numberOf entry) ++ [' '] else []
  let blocks :=
    if settings.blocks then
      padStart widths.blocks (shownBlocks settings entry.blocks) ++ [' ']
    else []
  number ++ blocks

/-- An entry as it is shown where there is not more about it. -/
def cell (settings : Settings) (widths : Widths) (entry : Entry) : Cell :=
  let text := frills settings widths entry ++ styled settings entry.name ++
    mark? settings.marking entry.status
  { text, width := (text.filter isPrintable).length }

def kindLetter : Kind → Char
  | .file => '-'
  | .directory => 'd'
  | .link => 'l'
  | .device => 'c'
  | .pipe => 'p'

def longLine (settings : Settings) (now : Nat) (widths : Widths) (entry : Entry) : Raw :=
  let person := if settings.numeric then "0" else "root"
  let (kind, mode) := match entry.status with
    | some status => (kindLetter status.kind, Mode.letters status.mode)
    | none => ('?', "?????????".toList)
  let names := Raw.ofNat ((entry.status.map (·.names)).getD 0)
  let people := (if settings.owner then ' ' :: person.toList else []) ++
    (if settings.group then ' ' :: person.toList else [])
  let destination := match entry.link with
    | some (text, behind) =>
      " -> ".toList ++ styled settings text ++ mark? settings.marking behind
    | none => mark? settings.marking entry.status
  frills settings widths entry ++ kind :: mode ++ ' ' :: padStart widths.names names ++ people ++
    ' ' :: padStart widths.size (shownSize settings entry) ++
    ' ' :: shownTime now entry.modified ++ ' ' :: styled settings entry.name ++ destination

def render (settings : Settings) (now : Nat) (entries : List Entry) : Raw :=
  let widths := widthsOf settings entries
  let unpadded := if settings.format = .commas then {} else widths
  let cells := entries.map (cell settings unpadded)
  match settings.format with
  | .single => cells.flatMap fun cell => cell.text ++ [settings.separator]
  | .long => entries.flatMap fun entry => longLine settings now widths entry ++ [settings.separator]
  | .commas => joined settings.layout [','] cells
  | format =>
    if settings.layout.line = 0 then joined settings.layout [] cells
    else inColumns settings.layout (format = .columns) cells

def sortingOf (settings : Settings) : Sorting :=
  settings.sorting.getD .name

def compareEntries (settings : Settings) (first second : Entry) : Ordering :=
  let byName := Raw.order first.name second.name
  match sortingOf settings with
  | .nothing => .eq
  | .name => byName
  | .time => (compare second.modified first.modified).then byName
  | .size => (compare second.size first.size).then byName
  | .ending => (Raw.order first.ending second.ending).then byName
  | .version => (Order.version first.name second.name).then byName
  | .width => (compare first.name.length second.name.length).then byName

def sorted (settings : Settings) (entries : List Entry) : List Entry :=
  let isBefore (first second : Entry) : Bool :=
    if settings.reverse then (compareEntries settings second first).isLE
    else (compareEntries settings first second).isLE
  let inOrder :=
    if sortingOf settings = .nothing then entries else entries.mergeSort isBefore
  if settings.directoriesFirst then
    let (directories, others) := inOrder.partition Entry.leadsToDirectory
    directories ++ others
  else inOrder

def isLeftOut (settings : Settings) (name : Raw) : Bool :=
  let matchesAny (patterns : List Raw) : Bool := patterns.any fun pattern =>
    (Wildcard.read pattern).fits name &&
      (name.head? ≠ some '.' || pattern.head? = some '.')
  let isSpecial := name = ['.'] || name = ['.', '.']
  (settings.omission = .dotted && name.head? = some '.') ||
    (settings.omission = .special && isSpecial) ||
    (settings.omission = .dotted && matchesAny settings.hidden) || matchesAny settings.ignored

def followingOf (settings : Settings) : Following :=
  settings.following.getD <|
    if settings.itself || settings.marking = .everything || settings.format = .long then .never
    else .directories

/-- Complains about something that was given, or only found. -/
def complainAbout (isGiven : Bool) (what : String) (path : Raw) (error : OsError) :
    Utility Unit := do
  complain (because (what.toList ++ quoteName path) error)
  mark (if isGiven then 2 else 1)

/-- What there is to know about something that is listed. Links are followed only if that makes a
difference. -/
def examine (settings : Settings) (isGiven : Bool) (path : Raw) :
    Utility (Except OsError Status) := do
  let isNeeded := isGiven || settings.sorting = some .time || settings.sorting = some .size ||
    settings.format = .long || settings.blocks || settings.numbers || settings.whole ||
    settings.marking ≠ .nothing || settings.directoriesFirst
  match followingOf settings, isGiven with
  | .always, _ => statusOf path isNeeded
  | .given, true => statusOf path true
  | .directories, true =>
    match ← statusOf path true with
    | .ok status => if status.kind = .directory then return .ok status else statusOf path false
    | .error error =>
      if error = .notFound || error = .tooManyLinks then statusOf path false
      else return .error error
  | _, _ => statusOf path false

def entryOf (settings : Settings) (isGiven : Bool) (path name : Raw) : Utility (Option Entry) := do
  match ← examine settings isGiven path with
  | .error error =>
    complainAbout isGiven "cannot access " path error
    return if isGiven then none else some { name, status := none }
  | .ok status =>
    let wantsLink := settings.format = .long || settings.directoriesFirst
    let link ←
      if status.kind = .link && wantsLink then
        match ← ask (.readLink ⟨Raw.toString path⟩), ← statusOf path true with
        | .ok text, .ok behind => pure (some (text, some behind))
        | .ok text, .error _ => pure (some (text, none))
        | .error _, _ => pure none
      else pure none
    return some { name, status := some status, link, isGiven }

def entriesOf (settings : Settings) (isGiven : Bool) (place : Option Raw) :
    List Raw → Utility (List Entry)
  | [] => return []
  | name :: rest => do
    let path := match place with
      | some place => Naming.under place name
      | none => name
    let entry ← entryOf settings isGiven path name
    return entry.toList ++ (← entriesOf settings isGiven place rest)

/-- The name of a directory before its contents. -/
def header (settings : Settings) (path : Raw) : Raw :=
  let shown := if settings.style = .escaped then
      (styled settings path).flatMap fun c => if c = ':' then ['\\', ':'] else [c]
    else styled settings path
  shown ++ [':', '\n']

/-- Lists directories one after the other, with their names if that is wanted. -/
def listEach (settings : Settings) (now : Nat) : (fuel : Nat) → (named isFirst : Bool) →
    List (Raw × Bool) → Utility Unit
  | 0, _, _, _ | _ + 1, _, _, [] => return ()
  | fuel + 1, named, isFirst, (path, isGiven) :: rest => do
    match ← ask (.list ⟨Raw.toString path⟩) with
    | .error error =>
      complainAbout isGiven "cannot open directory " path error
      listEach settings now fuel true isFirst rest
    | .ok names =>
      if settings.whole || named then
        print ((if isFirst then [] else ['\n']) ++ header settings path)
      let names := ['.'] :: ['.', '.'] :: names
      let shown := names.filter fun name => !isLeftOut settings name
      let entries ← entriesOf settings false (some path) shown
      let entries := sorted settings entries
      if settings.format = .long || settings.blocks then
        let total := entries.foldl (fun sum entry => sum + entry.blocks) 0
        print ("total ".toList ++ shownBlocks settings total ++ [settings.separator])
      print (render settings now entries)
      let isInner (entry : Entry) : Bool :=
        entry.isDirectory && entry.name ≠ ['.'] && entry.name ≠ ['.', '.']
      let inner := if settings.whole then entries.filter isInner else []
      listEach settings now fuel true false
        (inner.map (fun entry => (Naming.under path entry.name, false)) ++ rest)

/-- `ls`. -/
def run (arguments : List Raw) : Utility Unit := do
  breakWith trouble
  let (settings, operands) ← readOptions options trouble ({} : Settings) take arguments
  let now := Storage.startTime + 86400 * Moment.second
  let paths := if operands.isEmpty then [['.']] else operands
  let entries ← entriesOf settings true none paths
  let entries := sorted settings entries
  let (directories, files) :=
    if settings.itself then ([], entries) else entries.partition Entry.isDirectory
  print (render settings now files)
  if !files.isEmpty && !directories.isEmpty then print ['\n']
  let named := !files.isEmpty || 1 < operands.length || 1 < directories.length
  listEach settings now forever named true (directories.map fun entry => (entry.name, true))

end WheelInstaller.Utility.Listing
