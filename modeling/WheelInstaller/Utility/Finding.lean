import WheelInstaller.Utility.Finding.Expression
import WheelInstaller.Utility.Launch
import WheelInstaller.Utility.Naming

/-! `find`: going through directories, and doing something with what is there. -/

namespace WheelInstaller.Utility.Finding

open Process

structure Progress where
  /-- The paths for commands that take many, by number; the latest path comes first. -/
  gathered : List (Nat × List Raw × List Raw) := []
  /-- The directory is not entered. -/
  isPruned : Bool := false
  /-- The search is over. -/
  isOver : Bool := false

abbrev Searching := StateT Progress Utility

structure Visit where
  path : Raw
  /-- The starting point. -/
  root : Raw
  /-- How many levels it lies below the starting point. -/
  level : Nat
  status : Status

namespace Visit

def name (visit : Visit) : Raw :=
  Naming.lastStep visit.path

def kindLetter : Kind → Char
  | .file => 'f'
  | .directory => 'd'
  | .link => 'l'
  | .device => 'c'
  | .pipe => 'p'

def linkText (visit : Visit) : Searching Raw := do
  if visit.status.kind ≠ .link then return []
  else
    let text : Except OsError Raw ← (ask (.readLink ⟨Raw.toString visit.path⟩) : Utility _)
    return text.toOption.getD []

/-- The letter of the kind of what the file leads to. -/
def kindBehind (visit : Visit) : Searching Char := do
  match ← statusOf visit.path true with
  | .ok status => return kindLetter status.kind
  | .error _ => return kindLetter visit.status.kind

def shown (visit : Visit) (letter : Char) : Searching Raw := do
  match letter with
  | 'd' => return Raw.ofNat visit.level
  | 'f' =>
    return visit.name ++ (if visit.level = 0 && visit.path.length ≠ 1 &&
      visit.path.getLast? = some '/' then ['/'] else [])
  | 'g' | 'u' => return "root".toList
  | 'G' | 'U' => return ['0']
  | 'h' =>
    let path := Naming.trimmed visit.path
    return if path.contains '/' then
        let above := path.take (path.length - visit.name.length)
        if above = ['/'] then [] else Raw.dropEndWhile (· = '/') above
      else ['.']
  | 'H' => return visit.root
  | 'k' => return Raw.ofNat ((visit.status.size + 4095) / 4096 * 4)
  | 'l' => visit.linkText
  | 'm' => return Nat.toDigits 8 visit.status.mode
  | 'M' =>
    let letter := if visit.status.kind = .file then '-' else kindLetter visit.status.kind
    return letter :: Mode.letters visit.status.mode
  | 'n' => return Raw.ofNat visit.status.names
  | 'p' => return visit.path
  | 'P' => return (visit.path.drop visit.root.length).dropWhile (· = '/')
  | 's' => return Raw.ofNat visit.status.size
  | 'y' => return [kindLetter visit.status.kind]
  | 'Y' =>
    match ← statusOf visit.path true with
    | .ok status => return [kindLetter status.kind]
    | .error .tooManyLinks => return ['L']
    | .error _ => return ['N']
  | _ => return []

def present (visit : Visit) : List Piece → Searching Unit
  | [] | .stop :: _ => return ()
  | .text text :: rest => do
    Utility.print text
    visit.present rest
  | .directive letter padding :: rest => do
    let text ← visit.shown letter
    let gap := padding.width - text.length
    let isNumber := "dGUkmnsi".toList.contains letter
    if padding.toLeft then Utility.print (text ++ List.replicate gap ' ')
    else
      let filler := if padding.withZeros && isNumber then '0' else ' '
      Utility.print (List.replicate gap filler ++ text)
    visit.present rest

end Visit

/-- A text in which the sign for a path is replaced. -/
def fill (path : Raw) : Raw → Raw
  | '\x7b' :: '\x7d' :: rest => path ++ fill path rest
  | c :: rest => c :: fill path rest
  | [] => []

/-- Runs a command, and tells whether it says yes. -/
def succeeds (directory : Option Raw) (command : List Raw) : Utility Bool := do
  match ← launch { sharesInput := true, directory, shown := quoteWord } command with
  | .ended (.code 0) => return true
  | _ => return false

def hasNothing (visit : Visit) : Searching Bool := do
  match visit.status.kind with
  | .file => return visit.status.size = 0
  | .directory =>
    let names : Except OsError (List Raw) ← (ask (.list ⟨Raw.toString visit.path⟩) : Utility _)
    return names.toOption.any List.isEmpty
  | _ => return false

def takeAway (visit : Visit) : Searching Bool := do
  let path : Path := ⟨Raw.toString visit.path⟩
  if visit.name = ['.'] then return true
  else
    let outcome : Except OsError Unit ←
      if visit.status.kind = .directory then (ask (.removeDirectory path) : Utility _)
      else (ask (.remove path) : Utility _)
    match outcome with
    | .ok () => return true
    | .error error =>
      fault (because ("cannot delete ".toList ++ quoteWord visit.path) error)
      return false

/-- Asks or does something. -/
def Primary.holds (visit : Visit) (primary : Primary) : Searching Bool := do
  let status := visit.status
  let lower (anyCase : Bool) (text : Raw) : Raw := if anyCase then text.map Char.toLower else text
  match primary with
  | .constant value => return value
  | .name pattern anyCase => return pattern.fits (lower anyCase visit.name)
  | .path pattern anyCase => return pattern.fits (lower anyCase visit.path)
  | .linkText pattern anyCase =>
    if status.kind ≠ .link then return false
    else return pattern.fits (lower anyCase (← visit.linkText))
  | .fits pattern =>
    return (pattern.fitsAt 0 [] visit.path).any (·.length = visit.path.length)
  | .kind letters false => return letters.contains (Visit.kindLetter status.kind)
  | .kind letters true => return letters.contains (← visit.kindBehind)
  | .empty => hasNothing visit
  | .size amount unit => return amount.holds ((status.size + unit - 1) / unit)
  | .newer time => return time < status.modified
  | .mode bits => return bits.hold status.mode
  | .names amount => return amount.holds status.names
  | .allows bit => return status.mode &&& bit ≠ 0
  | .same identity => return status.identity = identity
  | .age amount unit =>
    let seconds := (Storage.startTime - status.modified) / Moment.second
    return amount.holds (if unit = 60 then (seconds + 59) / unit else seconds / unit)
  | .print ending =>
    Utility.print (visit.path ++ [ending])
    return true
  | .present pieces =>
    visit.present pieces
    return true
  | .execute command false =>
    succeeds none (command.map (fill visit.path))
  | .execute command true =>
    let above := visit.path.take (visit.path.length - visit.name.length)
    let directory := if above.isEmpty then none else some above
    succeeds directory (command.map (fill ("./".toList ++ visit.name)))
  | .gather number command =>
    modify fun progress =>
      let paths := ((progress.gathered.find? (·.1 = number)).map (·.2.2)).getD []
      let others := progress.gathered.filter (·.1 ≠ number)
      { progress with gathered := others ++ [(number, command, visit.path :: paths)] }
    return true
  | .delete => takeAway visit
  | .prune =>
    modify fun progress => { progress with isPruned := true }
    return true
  | .quit =>
    modify fun progress => { progress with isOver := true }
    return true

/-- Evaluates an expression for a file. Nothing more is done once the search is over. -/
def Expression.holds (visit : Visit) : Expression → Searching Bool
  | .primary asked => do
    if (← get).isOver then return false else asked.holds visit
  | .not body => do return !(← body.holds visit)
  | .and first second => do
    if ← first.holds visit then second.holds visit else return false
  | .or first second => do
    if ← first.holds visit then return true else second.holds visit
  | .both first second => do
    let _ ← first.holds visit
    second.holds visit

def under (directory name : Raw) : Raw :=
  if directory.getLast? = some '/' then directory ++ name else directory ++ '/' :: name

/-- What is known about a path, where links may be followed. -/
def look (request : Request) (level : Nat) (path : Raw) : Utility (Except OsError Status) := do
  let follows := request.following = .always || (request.following = .given && level = 0)
  match ← statusOf path follows with
  | .error .notFound => statusOf path false
  | outcome => return outcome

def walk (request : Request) (expression : Expression) (root : Raw) : (fuel level : Nat) →
    List Raw → Searching Unit
  | 0, _, _ | _ + 1, _, [] => return ()
  | fuel + 1, level, path :: rest => do
    if !(← get).isOver then
      match ← look request level path with
      | .error error => fault (because (quoteWord path) error)
      | .ok status =>
        let visit : Visit := { path, root, level, status }
        let apply : Searching Unit := do
          if request.least ≤ level then
            let _ ← expression.holds visit
        let enter : Searching Unit := do
          let isDeep := request.most.any (· ≤ level)
          if status.kind = .directory && !isDeep then
            let names : Except OsError (List Raw) ← (ask (.list ⟨Raw.toString path⟩) : Utility _)
            match names with
            | .ok names => walk request expression root fuel (level + 1) (names.map (under path))
            | .error error => fault (because (quoteWord path) error)
        modify fun progress => { progress with isPruned := false }
        if request.depthFirst then
          enter
          if !(← get).isOver then apply
        else
          apply
          if !(← get).isPruned && !(← get).isOver then enter
    walk request expression root fuel level rest

/-- Runs the commands that take many paths. -/
def finishGathered : List (Nat × List Raw × List Raw) → Utility Unit
  | [] => return ()
  | (_, command, paths) :: rest => do
    if !(← succeeds none (command ++ paths.reverse)) then mark 1
    finishGathered rest

/-- `find`. -/
def run (arguments : List Raw) : Utility Unit := do
  let (request, paths, expression) ← readRequest arguments
  let search : Searching Unit := paths.forM fun path =>
    walk request expression path forever 0 [path]
  let (_, progress) ← StateT.run search {}
  finishGathered progress.gathered

end WheelInstaller.Utility.Finding
