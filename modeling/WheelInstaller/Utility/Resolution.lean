import WheelInstaller.Utility.Options

/-! Where paths lead to: `readlink` and `realpath`. A path is resolved step by step from the top, with
every link replaced by its text. -/

namespace WheelInstaller.Utility

open Process

/-- What has to be there for a path to be resolved. -/
inductive Presence where
  | all
  /-- Everything but the last step. -/
  | above
  | nothing
deriving DecidableEq, Repr

/-- How paths are resolved. -/
structure Resolution where
  presence : Presence := .above
  followsLinks : Bool := true

namespace Resolution

/-- The path that steps make, of which the last one comes first. -/
def pathOf (steps : List Raw) : Raw :=
  if steps.isEmpty then ['/'] else steps.reverse.flatMap ('/' :: ·)

/-- The rest of a path asks for a directory where it starts. -/
def asksDirectory (rest : Raw) : Bool :=
  let steps := (Raw.split '/' rest).filter fun step => !step.isEmpty && step ≠ ['.']
  !rest.isEmpty && steps.head?.all (· == ['.', '.'])

def stepsOf (path : Raw) : List Raw :=
  (Raw.split '/' path).filter fun step => !step.isEmpty

/-- Why there is nothing at a path. -/
def absence? (path : Raw) : Utility (Option OsError) := do
  match ← statusOf path true with
  | .ok _ => return none
  | .error error => return some error

/-- The links that were followed, so that those in a circle are noticed: each with the steps above it and
what came after them. -/
abbrev Followed := List (List Raw × Raw)

/-- So many links are followed before circles are looked for. -/
def freeLinks : Nat := 20

/-- Resolves the rest of a path after steps, of which the last one comes first. -/
def resolveFrom (resolution : Resolution) : (fuel links : Nat) → Followed → (steps : List Raw) →
    Raw → Utility (Except OsError Raw)
  | 0, _, _, _, _ => return .error .tooManyLinks
  | fuel + 1, links, followed, steps, rest => do
    let rest := rest.dropWhile (· = '/')
    let step := rest.takeWhile (· ≠ '/')
    let after := rest.drop step.length
    let goOn (steps : List Raw) : Utility (Except OsError Raw) :=
      resolveFrom resolution fuel links followed steps after
    if step.isEmpty then return .ok (pathOf steps)
    else if step = ['.'] then goOn steps
    else if step = ['.', '.'] then goOn steps.tail
    else
      let path := pathOf (step :: steps)
      let link : Except OsError Raw ←
        if resolution.followsLinks then ask (.readLink ⟨Raw.toString path⟩)
        else pure (.error .invalidArgument)
      match link with
      | .ok text =>
        let isCircle := freeLinks ≤ links && followed.contains (steps, rest)
        if isCircle then
          if resolution.presence = .nothing then goOn (step :: steps)
          else return .error .tooManyLinks
        else
          let followed := if freeLinks ≤ links then (steps, rest) :: followed else followed
          let steps := if text.head? = some '/' then [] else steps
          resolveFrom resolution fuel (links + 1) followed steps (text ++ after)
      | .error error =>
        let fault ←
          if resolution.presence = .nothing then pure none
          else if asksDirectory after then absence? (path ++ ['/'])
          else if !resolution.followsLinks then
            if after.isEmpty then absence? path else pure none
          else pure (if error = .invalidArgument then none else some error)
        match fault with
        | none => goOn (step :: steps)
        | some error =>
          let isAllowed := resolution.presence = .above && error = .notFound && after.all (· = '/')
          if isAllowed then goOn (step :: steps) else return .error error

def resolve (resolution : Resolution) (path : Raw) : Utility (Except OsError Raw) := do
  if path.isEmpty then return .error .notFound
  else
    let home : Raw ← if path.head? = some '/' then pure [] else ask .currentDirectory
    resolveFrom resolution forever 0 [] (stepsOf home).reverse path

/-- The path to some steps from other steps. -/
def pathBetween : (origin goal : List Raw) → Raw
  | first :: origin, second :: goal =>
    if first = second then pathBetween origin goal
    else Raw.join ['/'] ((first :: origin).map (fun _ => ['.', '.']) ++ second :: goal)
  | [], [] => ['.']
  | origin, goal => Raw.join ['/'] (origin.map (fun _ => ['.', '.']) ++ goal)

structure ReadingLinks where
  /-- Without it, only the text of a link is told. -/
  presence : Option Presence := none
  isBare : Bool := false
  tells : Bool := false
  lineEnd : Char := '\n'

def linkOptions : Options where
  letters := Options.plainLetters "efmnqsvz"
  words := [
    ("canonicalize", .plain, "f"), ("canonicalize-existing", .plain, "e"),
    ("canonicalize-missing", .plain, "m"), ("no-newline", .plain, "n"), ("quiet", .plain, "q"),
    ("silent", .plain, "q"), ("verbose", .plain, "v"), ("zero", .plain, "z")]

def ReadingLinks.take (settings : ReadingLinks) (key : String) : ReadingLinks :=
  match key with
  | "e" => { settings with presence := some .all }
  | "f" => { settings with presence := some .above }
  | "m" => { settings with presence := some .nothing }
  | "n" => { settings with isBare := true }
  | "v" => { settings with tells := true }
  | "z" => { settings with lineEnd := '\x00' }
  | _ => { settings with tells := false }

def readLinks (arguments : List Raw) : Utility Unit := do
  let (settings, paths) ← readOptions linkOptions 1 ({} : ReadingLinks)
    (fun settings key _ => return settings.take key) arguments
  if paths.isEmpty then misuse 1 "missing operand".toList
  let isBare := settings.isBare && paths.length = 1
  if settings.isBare && !isBare then
    complain "ignoring --no-newline with multiple arguments".toList
  paths.forM fun path => do
    let found : Except OsError Raw ← match settings.presence with
      | none => ask (.readLink ⟨Raw.toString path⟩)
      | some presence => resolve { presence } path
    match found with
    | .ok text => print (if isBare then text else text ++ [settings.lineEnd])
    | .error error =>
      if settings.tells then complain (because (showName path) error)
      mark 1

structure Settings where
  resolution : Resolution := {}
  /-- Dots are taken away before links are followed. -/
  isLogical : Bool := false
  isQuiet : Bool := false
  origin : Option Raw := none
  base : Option Raw := none
  lineEnd : Char := '\n'

def pathOptions : Options where
  letters := Options.plainLetters "eLmPqsz"
  words := [
    ("canonicalize-existing", .plain, "e"), ("canonicalize-missing", .plain, "m"),
    ("relative-to", .valued, "to"), ("relative-base", .valued, "base"), ("quiet", .plain, "q"),
    ("strip", .plain, "s"), ("no-symlinks", .plain, "s"), ("zero", .plain, "z"),
    ("logical", .plain, "L"), ("physical", .plain, "P")]

def Settings.take (settings : Settings) (key : String) (value : Raw) : Settings :=
  match key with
  | "e" => { settings with resolution.presence := .all }
  | "m" => { settings with resolution.presence := .nothing }
  | "L" => { settings with resolution.followsLinks := false, isLogical := true }
  | "s" => { settings with resolution.followsLinks := false, isLogical := false }
  | "P" => { settings with resolution.followsLinks := true, isLogical := false }
  | "q" => { settings with isQuiet := true }
  | "to" => { settings with origin := some value }
  | "base" => { settings with base := some value }
  | _ => { settings with lineEnd := '\x00' }

def Settings.resolve (settings : Settings) (path : Raw) : Utility (Except OsError Raw) := do
  match ← settings.resolution.resolve path with
  | .error error => return .error error
  | .ok plain =>
    let following := { settings.resolution with followsLinks := true }
    if settings.isLogical then following.resolve plain else return .ok plain

def Settings.steps (settings : Settings) (path : Raw) : Utility (List Raw) := do
  match ← settings.resolve path with
  | .error error => die 1 (because (showName path) error)
  | .ok whole =>
    if settings.resolution.presence = .all then
      match ← statusOf whole true with
      | .ok status =>
        if status.kind ≠ .directory then die 1 (because (showName path) .notDirectory)
      | .error _ => pure ()
    return stepsOf whole

def showPaths (arguments : List Raw) : Utility Unit := do
  let (settings, paths) ← readOptions pathOptions 1 ({} : Settings)
    (fun settings key value => return (settings : Settings).take key value) arguments
  if paths.isEmpty then misuse 1 "missing operand".toList
  let base ← settings.base.mapM settings.steps
  let origin ← match settings.origin with
    | none => pure base
    | some origin => do pure (some (← settings.steps origin))
  let (origin, base) := match origin, base with
    | some origin, some base =>
      if base.isPrefixOf origin then (some origin, some base) else (none, none)
    | origin, base => (origin, base)
  paths.forM fun path => do
    match ← settings.resolve path with
    | .error error =>
      if !settings.isQuiet then complain (because (showName path) error)
      mark 1
    | .ok whole =>
      let steps := stepsOf whole
      let isBelow := base.all fun base => base.isPrefixOf steps
      let text := match origin with
        | some origin => if isBelow then pathBetween origin steps else whole
        | none => whole
      print (text ++ [settings.lineEnd])

end Resolution
end WheelInstaller.Utility
