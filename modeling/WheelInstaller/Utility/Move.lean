import WheelInstaller.Utility.Naming
import WheelInstaller.Utility.Options
import WheelInstaller.Utility.Resolution

/-! `ln`: links, and further names of files. -/

namespace WheelInstaller.Utility.Links

open Process Destination

structure Settings where
  aim : Aim := {}
  /-- Links are made rather than names. -/
  symbolic : Bool := false
  /-- Links lead from where they are. -/
  relative : Bool := false
  /-- What is there already is replaced. -/
  replaces : Bool := false
  asks : Bool := false
  /-- A link to a directory is no directory to put links in. -/
  plainTarget : Bool := false
  /-- Links are followed to what gets a further name. -/
  follows : Bool := false
  tells : Bool := false
  /-- It is tried to give directories further names. -/
  tries : Bool := false

def options : Options where
  letters := Options.plainLetters "dfFiLnPrsTv" ++ Options.valuedLetters "t"
  words := [("directory", .plain, "d"), ("no-dereference", .plain, "n"),
    ("no-target-directory", .plain, "T"), ("force", .plain, "f"), ("interactive", .plain, "i"),
    ("logical", .plain, "L"), ("physical", .plain, "P"), ("relative", .plain, "r"),
    ("target-directory", .valued, "t"), ("symbolic", .plain, "s"), ("verbose", .plain, "v")]

def take (settings : Settings) (key : String) (value : Raw) : Utility Settings := do
  match key with
  | "d" | "F" => return { settings with tries := true }
  | "f" => return { settings with replaces := true, asks := false }
  | "i" => return { settings with replaces := false, asks := true }
  | "L" => return { settings with follows := true }
  | "n" => return { settings with plainTarget := true }
  | "P" => return { settings with follows := false }
  | "r" => return { settings with relative := true }
  | "s" => return { settings with symbolic := true }
  | "T" => return { settings with aim.isExact := true }
  | "t" =>
    if settings.aim.directory.isSome then die 1 "multiple target directories specified".toList
    match ← refusal? value true with
    | none => return { settings with aim.directory := some value }
    | some .notDirectory =>
      die 1 ("target ".toList ++ quoteName value ++ " is not a directory".toList)
    | some error => die 1 (because ("failed to access ".toList ++ quoteName value) error)
  | "v" => return { settings with tells := true }
  | _ => return settings

def linkText (settings : Settings) (source target : Raw) : Utility Raw := do
  if settings.relative then
    let resolution : Resolution := { presence := .nothing }
    match ← resolution.resolve (Naming.before target), ← resolution.resolve source with
    | .ok place, .ok goal =>
      return Resolution.pathBetween (Resolution.stepsOf place) (Resolution.stepsOf goal)
    | _, _ => return source
  else return source

/-- The file that a path leads to when links are followed. -/
def followLinks : (rounds : Nat) → Raw → Utility Raw
  | 0, path => return path
  | rounds + 1, path => do
    match ← ask (.readLink ⟨Raw.toString path⟩) with
    | .error _ => return path
    | .ok text =>
      if text.head? = some '/' then followLinks rounds text
      else followLinks rounds (Naming.under (Naming.before path) text)

def attempt (settings : Settings) (text target : Raw) : Utility (Except OsError Unit) := do
  let path : Path := ⟨Raw.toString target⟩
  if settings.symbolic then ask (.makeLink path ⟨Raw.toString text⟩)
  else
    let source ← if settings.follows then followLinks FileSystem.linkLimit text else pure text
    ask (.link ⟨Raw.toString source⟩ path)

/-- What is to be replaced may go. Tells why not, if that is so. -/
def mayReplace (settings : Settings) (seen : Seen) (source target : Raw) (status : Option Status) :
    Utility Bool := do
  let refuse (message : Raw) : Utility Bool := do
    fault message
    return false
  match ← statusOf target false with
  | .error .notFound => return true
  | .error error => refuse (because ("failed to access ".toList ++ quoteName target) error)
  | .ok found =>
    let isOne := status.any fun status => status.identity = found.identity
    let isLost ←
      if isOne && found.names ≤ 1 then pure true
      else if isOne then isSameEntry source target
      else pure false
    if found.kind = .directory then refuse (showName target ++ ": cannot overwrite directory".toList)
    else if ← isSeen target found.identity seen then
      refuse ("will not overwrite just-created ".toList ++ quoteName target ++ " with ".toList ++
        quoteName source)
    else if isLost then
      refuse (quoteName source ++ " and ".toList ++ quoteName target ++ " are the same file".toList)
    else if settings.asks then
      if ← confirms ("replace ".toList ++ quoteName target ++ "? ".toList) then return true
      else
        mark 1
        return false
    else return true

def refuseLink (settings : Settings) (source target : Raw) (error : OsError) : Utility Unit :=
  let what := if settings.symbolic then "symbolic link " else "hard link "
  let isPlain :=
    if settings.symbolic then error ≠ .nameTooLong && !source.isEmpty
    else error = .alreadyExists || error = .noSpace
  let arrow := if settings.symbolic then " -> " else " => "
  let shown := quoteName target ++ (if isPlain then [] else arrow.toList ++ quoteName source)
  fault (because ("failed to create ".toList ++ what.toList ++ shown) error)

def linkOne (settings : Settings) (seen : Seen) (source target : Raw) : Utility Seen := do
  let succeed (text : Raw) : Utility Seen := do
    if settings.tells then
      let arrow := if settings.symbolic then " -> " else " => "
      printLine (quoteName target ++ arrow.toList ++ quoteName text)
    match settings.symbolic, ← statusOf target false with
    | false, .ok made => return (target, made.identity) :: seen
    | _, _ => return seen
  let text ← linkText settings source target
  match ← attempt settings text target with
  | .ok () => succeed text
  | .error error =>
    match settings.symbolic, ← statusOf source (settings.symbolic || settings.follows) with
    | false, .error error =>
      fault (because ("failed to access ".toList ++ quoteName source) error)
      return seen
    | symbolic, found =>
      let status := found.toOption
      let isDirectory := status.any fun status => status.kind = .directory
      if !symbolic && !settings.tries && isDirectory then
        fault (showName source ++ ": hard link not allowed for directory".toList)
        return seen
      else if !(settings.replaces || settings.asks) then
        refuseLink settings text target error
        return seen
      else if !(← mayReplace settings seen source target status) then return seen
      else
        if error = .alreadyExists then
          let _ ← ask (.remove ⟨Raw.toString target⟩)
        match ← attempt settings text target with
        | .ok () => succeed text
        | .error error =>
          refuseLink settings text target error
          return seen

def linkEach (settings : Settings) (place : Raw) : Seen → List Raw → Utility Unit
  | _, [] => return ()
  | seen, source :: rest => do
    linkEach settings place (← linkOne settings seen source (inside place source)) rest

/-- The operands that get links, and where those are. -/
def chooseTarget (settings : Settings) (operands : List Raw) :
    Utility (List Raw × Destination) := do
  match settings.aim.isExact, settings.aim.directory, operands with
  | _, _, [] => misuse 1 "missing file operand".toList
  | true, some _, _ =>
    die 1 "cannot combine --target-directory and --no-target-directory".toList
  | true, none, [single] =>
    misuse 1 ("missing destination file operand after ".toList ++ quoteName single)
  | true, none, [source, target] => return ([source], .exactly target)
  | true, none, _ :: _ :: extra :: _ => misuse 1 ("extra operand ".toList ++ quoteName extra)
  | false, some place, operands => return (operands, .into place)
  | false, none, [_] => return (operands, .into ['.'])
  | false, none, operands =>
    let last := operands.getLastD []
    match ← refusal? last (!settings.plainTarget) with
    | none => return (operands.dropLast, .into last)
    | some error =>
      if operands.length = 2 then return (operands.dropLast, .exactly last)
      else die 1 (because ("target ".toList ++ quoteName last) error)

/-- `ln`. -/
def run (arguments : List Raw) : Utility Unit := do
  let (settings, operands) ← readOptions options 1 ({} : Settings) take arguments
  let (sources, destination) ← chooseTarget settings operands
  if settings.relative && !settings.symbolic then
    die 1 "cannot do --relative without --symbolic".toList
  match destination with
  | .into place => linkEach settings place [] sources
  | .exactly target => sources.forM fun source => do let _ ← linkOne settings [] source target

def linkPlainly (arguments : List Raw) : Utility Unit := do
  let (_, operands) ← readOptions {} 1 () (fun _ _ _ => return ()) arguments
  match operands with
  | [] => misuse 1 "missing operand".toList
  | [single] => misuse 1 ("missing operand after ".toList ++ quoteWord single)
  | [source, target] =>
    match ← ask (.link ⟨Raw.toString source⟩ ⟨Raw.toString target⟩) with
    | .ok () => return ()
    | .error error =>
      fault (because ("cannot create link ".toList ++ quoteName target ++ " to ".toList ++
        quoteName source) error)
  | _ :: _ :: extra :: _ => misuse 1 ("extra operand ".toList ++ quoteWord extra)

end WheelInstaller.Utility.Links

/-! `mv`: other names for files and directories. -/

namespace WheelInstaller.Utility.Move

open Process Destination

/-- What is done about something that is there already. -/
inductive Overwriting where
  | always
  | asked
  | never
deriving DecidableEq, Repr

structure Settings where
  aim : Aim := {}
  overwriting : Overwriting := .always
  /-- Only what is older is replaced. -/
  onlyOlder : Bool := false
  tells : Bool := false
  /-- Slashes at the end of sources do not count. -/
  trims : Bool := false

def options : Options where
  letters := [('f', .plain), ('i', .plain), ('n', .plain), ('t', .valued), ('T', .plain),
    ('u', .plain), ('v', .plain), ('Z', .plain)]
  words := [("context", .plain, "Z"), ("force", .plain, "f"), ("interactive", .plain, "i"),
    ("no-clobber", .plain, "n"), ("no-target-directory", .plain, "T"),
    ("strip-trailing-slashes", .plain, "trim"), ("target-directory", .valued, "t"),
    ("update", .optional, "u"), ("verbose", .plain, "v")]

/-- What `--update` replaces. -/
def updateWords : List (String × Option Bool) :=
  [("all", none), ("none", some false), ("older", some true)]

def take (settings : Settings) (key : String) (value : Raw) : Utility Settings := do
  match key with
  | "f" => return { settings with overwriting := .always }
  | "i" => return { settings with overwriting := .asked }
  | "n" => return { settings with overwriting := .never }
  | "t" =>
    if settings.aim.directory.isSome then die 1 "multiple target directories specified".toList
    return { settings with aim.directory := some value }
  | "T" => return { settings with aim.isExact := true }
  | "u" =>
    let update ←
      if value.isEmpty then pure (some true) else chooseWord 1 "--update" value updateWords
    match update with
    | none => return { settings with onlyOlder := false }
    | some true => return { settings with onlyOlder := true }
    | some false => return { settings with overwriting := .never }
  | "v" => return { settings with tells := true }
  | "trim" => return { settings with trims := true }
  | _ => return settings

/-- Moves something to a path where nothing is. -/
def renameFresh (source target : Raw) : Utility (Except OsError Unit) := do
  match ← statusOf source false, ← statusOf (Raw.dropEndWhile (· = '/') target) false with
  | .error error, _ => return .error error
  | .ok _, .ok _ => return .error .alreadyExists
  | .ok _, .error _ => ask (.rename ⟨Raw.toString source⟩ ⟨Raw.toString target⟩)

/-- A file and what is at its target are one and the same, so that it cannot be moved. -/
def isSameFile (source target : Raw) (status found : Status) : Utility Bool := do
  let same := status.identity = found.identity
  if status.kind = .link && found.kind = .link then
    return same || (← isSameEntry source target)
  else if found.kind = .link then return false
  else if status.kind ≠ .link then return same
  else
    match ← statusOf source true with
    | .ok behind => return behind.identity = found.identity && found.names ≤ 1
    | .error _ => return false

/-- What is at the target does not stand in the way. -/
def mayReplace (settings : Settings) (seen : Seen) (source target : Raw) (status found : Status) :
    Utility Bool := do
  let refuse (message : Raw) : Utility Bool := do
    fault message
    return false
  let isDirectory := status.kind = .directory
  if settings.overwriting = .never then return false
  else if ← isSameFile source target status found then
    refuse (quoteName source ++ " and ".toList ++ quoteName target ++ " are the same file".toList)
  else if settings.onlyOlder && !isDirectory && status.modified ≤ found.modified then return false
  else
    let agreed ←
      if settings.overwriting = .asked then
        confirms ("overwrite ".toList ++ quoteName target ++ "? ".toList)
      else pure true
    if !agreed then
      mark 1
      return false
    else if found.kind ≠ .directory && isDirectory then
      refuse ("cannot overwrite non-directory ".toList ++ quoteName target ++
        " with directory ".toList ++ quoteName source)
    else if found.kind ≠ .directory && (← isSeen target found.identity seen) then
      refuse ("will not overwrite just-created ".toList ++ quoteName target ++ " with ".toList ++
        quoteName source)
    else if found.kind = .directory && !isDirectory then
      refuse ("cannot overwrite directory ".toList ++ quoteName target ++
        " with non-directory".toList)
    else return true

/-- Complains that something could not be moved. -/
def refuseMove (source target : Raw) (error : OsError) : Utility Unit :=
  match error with
  | .invalidArgument =>
    fault ("cannot move ".toList ++ quoteName source ++ " to a subdirectory of itself, ".toList ++
      quoteName target)
  | .alreadyExists | .isDirectory | .noSpace | .notEmpty =>
    fault (because ("cannot overwrite ".toList ++ quoteName target) error)
  | error =>
    fault (because ("cannot move ".toList ++ quoteName source ++ " to ".toList ++ quoteName target)
      error)

/-- Moves something to a path, and tells what was made there. The empty path is taken for the current
directory. -/
def moveOne (settings : Settings) (seen : Seen) (source target : Raw) : Utility Seen := do
  let place := if target.isEmpty then ['.'] else target
  let succeed : Utility Seen := do
    if settings.tells then
      printLine ("renamed ".toList ++ quoteName source ++ " -> ".toList ++ quoteName target)
    match ← statusOf place false with
    | .ok status => return (target, status.identity) :: seen
    | .error _ => return seen
  match ← renameFresh source place with
  | .ok () => succeed
  | .error first =>
    match ← statusOf source false with
    | .error error =>
      fault (because ("cannot stat ".toList ++ quoteName source) error)
      return seen
    | .ok status =>
      match ← statusOf place false with
      | .error .notFound =>
        refuseMove source target first
        return seen
      | .error error =>
        fault (because ("cannot stat ".toList ++ quoteName target) error)
        return seen
      | .ok found =>
        if ← mayReplace settings seen source target status found then
          match ← ask (.rename ⟨Raw.toString source⟩ ⟨Raw.toString place⟩) with
          | .ok () => succeed
          | .error error =>
            refuseMove source target error
            return seen
        else return seen

def moveEach (settings : Settings) (place : Raw) : Seen → List Raw → Utility Unit
  | _, [] => return ()
  | seen, source :: rest => do
    moveEach settings place (← moveOne settings seen source (inside place source)) rest

/-- `mv`. -/
def run (arguments : List Raw) : Utility Unit := do
  let (settings, operands) ← readOptions options 1 ({} : Settings) take arguments
  let (sources, destination) ← choose settings.aim operands
  let sources := if settings.trims then sources.map Naming.trimmed else sources
  match destination with
  | .into place => moveEach settings place [] sources
  | .exactly target => sources.forM fun source => do let _ ← moveOne settings [] source target

end WheelInstaller.Utility.Move
