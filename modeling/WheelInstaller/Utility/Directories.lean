import WheelInstaller.Utility.Naming
import WheelInstaller.Utility.Options
import WheelInstaller.Utility.Permissions

/-! `mkdir` and `rmdir`: making and taking away directories. -/

namespace WheelInstaller.Utility.Directories

open Process

structure Settings where
  /-- Directories above are made or taken away as well. -/
  above : Bool := false
  tells : Bool := false
  mode : Option Raw := none
  /-- A directory that is not empty may stay. -/
  tolerant : Bool := false

def take (settings : Settings) (key : String) (value : Raw) : Utility Settings := do
  match key with
  | "p" => return { settings with above := true }
  | "v" => return { settings with tells := true }
  | "m" => return { settings with mode := some value }
  | "ignore" => return { settings with tolerant := true }
  | _ => return settings

def tellMade (settings : Settings) (path : Raw) : Utility Unit := do
  if settings.tells then
    printLine ((← state).name ++ ": created directory ".toList ++ quoteName path)

/-- Makes a directory, unless it is there and may be. Tells whether it is there now. -/
def makeOne (settings : Settings) (mode : Nat) (mayBe : Bool) (path : Raw) : Utility Bool := do
  match ← ask (.makeDirectory ⟨Raw.toString path⟩ mode) with
  | .ok () =>
    tellMade settings path
    return true
  | .error error =>
    let isThere : Bool ← match ← statusOf path true with
      | .ok status => pure (status.kind = .directory)
      | .error _ => pure false
    if mayBe && isThere then return true
    else
      fault (because ("cannot create directory ".toList ++ quoteWord path) error)
      return false

/-- Makes the directories above a path. Tells whether they are there now. -/
def makeAbove (settings : Settings) : List Raw → Utility Bool
  | [] => return true
  | path :: rest => do
    match ← statusOf path true with
    | .ok status =>
      if status.kind = .directory then makeAbove settings rest
      else
        fault (because ("cannot create directory ".toList ++ quoteWord path) .notDirectory)
        return false
    | .error _ =>
      if ← makeOne settings 0o777 true path then makeAbove settings rest else return false

def makeEach (settings : Settings) (mode : Nat) : List Raw → Utility Unit
  | [] => return ()
  | path :: rest => do
    let ready ← if settings.above then makeAbove settings (Naming.ancestors path) else pure true
    if ready then
      let made ← makeOne settings mode settings.above path
      if made && settings.mode.isSome then
        let _ ← ask (.setMode ⟨Raw.toString path⟩ mode)
    makeEach settings mode rest

def make (arguments : List Raw) : Utility Unit := do
  let options : Options := {
    letters := [('m', .valued), ('p', .plain), ('v', .plain), ('Z', .plain)]
    words := [("mode", .valued, "m"), ("parents", .plain, "p"), ("verbose", .plain, "v"),
      ("context", .optional, "Z")] }
  let (settings, operands) ← readOptions options 1 ({} : Settings) take arguments
  if operands.isEmpty then misuse 1 "missing operand".toList
  let mask : Nat ← ask (.mask none)
  let mode ← match settings.mode with
    | none => pure 0o777
    | some text =>
      match Mode.read? text with
      | some changes => pure (Mode.adjust changes true mask 0o777)
      | none => die 1 ("invalid mode ".toList ++ quoteWord text)
  makeEach settings mode operands

/-- Takes away the directories above one that was taken away. -/
def removeAbove (settings : Settings) : (paths : List Raw) → Utility Unit
  | [] => return ()
  | path :: rest => do
    if settings.tells then
      printLine ((← state).name ++ ": removing directory, ".toList ++ quoteName path)
    match ← ask (.removeDirectory ⟨Raw.toString path⟩) with
    | .ok () => removeAbove settings rest
    | .error error =>
      if !(settings.tolerant && error = .notEmpty) then
        fault (because ("failed to remove directory ".toList ++ quoteName path) error)

/-- Takes away directories. -/
def removeEach (settings : Settings) : List Raw → Utility Unit
  | [] => return ()
  | path :: rest => do
    if settings.tells then
      printLine ((← state).name ++ ": removing directory, ".toList ++ quoteName path)
    match ← ask (.removeDirectory ⟨Raw.toString path⟩) with
    | .ok () =>
      if settings.above then
        removeAbove settings (Naming.ancestors (Raw.dropEndWhile (· = '/') path)).reverse
    | .error error =>
      if !(settings.tolerant && error = .notEmpty) then
        fault (because ("failed to remove ".toList ++ quoteName path) error)
    removeEach settings rest

def remove (arguments : List Raw) : Utility Unit := do
  let options : Options := {
    letters := Options.plainLetters "pv"
    words := [("ignore-fail-on-non-empty", .plain, "ignore"), ("parents", .plain, "p"),
      ("path", .plain, "p"), ("verbose", .plain, "v")] }
  let (settings, operands) ← readOptions options 1 ({} : Settings) take arguments
  if operands.isEmpty then misuse 1 "missing operand".toList
  removeEach settings operands

end WheelInstaller.Utility.Directories

/-! `rm`: taking away files, and directories with everything in them. -/

namespace WheelInstaller.Utility.Removal

open Process

inductive Asking where
  | never
  /-- Only where something is unusual. -/
  | sometimes
  /-- Before everything, if there is much to do. -/
  | once
  | always
deriving DecidableEq, Repr

structure Settings where
  asking : Asking := .sometimes
  /-- What is not there does not matter. -/
  lenient : Bool := false
  whole : Bool := false
  empty : Bool := false
  tells : Bool := false
  guardsTop : Bool := true

def options : Options where
  letters := Options.plainLetters "dfirvIR"
  words := [("force", .plain, "f"), ("interactive", .optional, "interactive"),
    ("one-file-system", .plain, ""), ("no-preserve-root", .plain, "top"),
    ("preserve-root", .optional, ""), ("recursive", .plain, "r"), ("dir", .plain, "d"),
    ("verbose", .plain, "v")]

def askingWords : List (String × Asking) :=
  [("never", .never), ("no", .never), ("none", .never), ("once", .once), ("always", .always),
   ("yes", .always)]

def take (settings : Settings) (key : String) (value : Raw) : Utility Settings := do
  match key with
  | "d" => return { settings with empty := true }
  | "f" => return { settings with asking := .never, lenient := true }
  | "i" => return { settings with asking := .always, lenient := false }
  | "I" => return { settings with asking := .once, lenient := false }
  | "r" | "R" => return { settings with whole := true }
  | "v" => return { settings with tells := true }
  | "top" => return { settings with guardsTop := false }
  | "interactive" =>
    if value.isEmpty then return { settings with asking := .always }
    else return { settings with asking := ← chooseWord 1 "--interactive" value askingWords }
  | _ => return settings

/-- What something is called in questions. -/
def kindWords (status : Status) : Raw :=
  match status.kind with
  | .directory => "directory".toList
  | .link => "symbolic link".toList
  | .device => "character special file".toList
  | .pipe => "fifo".toList
  | .file => if status.size = 0 then "regular empty file".toList else "regular file".toList

/-- Complains that something stays. -/
def refuse (path : Raw) (error : OsError) : Utility Unit :=
  fault (because ("cannot remove ".toList ++ quoteName path) error)

/-- Takes away a file or an empty directory. Tells whether it is gone. -/
def removeOne (settings : Settings) (path : Raw) (status : Status) (isAsked : Bool) :
    Utility Bool := do
  let isDirectory := status.kind = .directory
  let agreed ←
    if isAsked && settings.asking = .always then
      confirms ("remove ".toList ++ kindWords status ++ ' ' :: quoteName path ++ "? ".toList)
    else pure true
  if !agreed then return false
  else
    let target : Path := ⟨Raw.toString path⟩
    let outcome : Except OsError Unit ←
      if isDirectory then do pure (← ask (.removeDirectory target))
      else do pure (← ask (.remove target))
    match outcome with
    | .ok () =>
      if settings.tells then
        printLine ((if isDirectory then "removed directory " else "removed ").toList ++
          quoteName path)
      return true
    | .error error =>
      refuse path error
      return false

/-- Takes away things with everything in them. Tells whether all of it is gone. -/
def removeEach (settings : Settings) : (fuel : Nat) → (isGiven : Bool) → List Raw → Utility Bool
  | 0, _, _ | _ + 1, _, [] => return true
  | fuel + 1, isGiven, path :: rest => do
    let isGone ← match ← statusOf path false with
      | .error error =>
        if !(settings.lenient && (error = .notFound || error = .notDirectory)) then
          refuse path error
        pure true
      | .ok status =>
        if status.kind ≠ .directory then removeOne settings path status true
        else
          let name := Naming.lastStep path
          let isDots := isGiven && (name = ['.'] || name = ['.', '.'])
          if settings.whole && isDots then
            fault ("refusing to remove '.' or '..' directory: skipping ".toList ++ quoteName path)
            pure false
          else if settings.whole && settings.guardsTop && isGiven && path.all (· = '/') then
            fault "it is dangerous to operate recursively on '/'".toList
            fault "use --no-preserve-root to override this failsafe".toList
            pure false
          else if !settings.whole && !settings.empty then
            refuse path .isDirectory
            pure false
          else if !settings.whole then removeOne settings path status true
          else
            match ← ask (.list ⟨Raw.toString path⟩) with
            | .error error =>
              refuse path error
              pure false
            | .ok names =>
              let enters ←
                if settings.asking = .always && !names.isEmpty then
                  confirms ("descend into directory ".toList ++ quoteName path ++ "? ".toList)
                else pure true
              if !enters then pure false
              else
                let below := names.map (Naming.under path)
                if ← removeEach settings fuel false below then removeOne settings path status true
                else pure false
    let others ← removeEach settings fuel isGiven rest
    return isGone && others

/-- `rm`. -/
def run (arguments : List Raw) : Utility Unit := do
  let (settings, operands) ← readOptions options 1 ({} : Settings) take arguments
  if operands.isEmpty then
    if settings.lenient then return () else misuse 1 "missing operand".toList
  let isMuch := settings.whole || 3 < operands.length
  let agreed ←
    if settings.asking = .once && isMuch then
      let count := Raw.ofNat operands.length
      let noun := if operands.length = 1 then "argument" else "arguments"
      let how := if settings.whole then " recursively? " else "? "
      confirms ("remove ".toList ++ count ++ ' ' :: noun.toList ++ how.toList)
    else pure true
  if agreed then
    let _ ← removeEach settings forever true operands

def unlink (arguments : List Raw) : Utility Unit := do
  let (_, operands) ← readOptions {} 1 () (fun _ _ _ => return ()) arguments
  match operands with
  | [] => misuse 1 "missing operand".toList
  | [path] =>
    match ← ask (.remove ⟨Raw.toString path⟩) with
    | .ok () => return ()
    | .error error => fault (because ("cannot unlink ".toList ++ quoteName path) error)
  | _ :: extra :: _ => misuse 1 ("extra operand ".toList ++ quoteWord extra)

end WheelInstaller.Utility.Removal
