import WheelInstaller.Utility.Naming
import WheelInstaller.Utility.Move
import WheelInstaller.Utility.Options

/-! `cp`: copies of files, and of directories with everything in them. -/

namespace WheelInstaller.Utility.Copy

open Process Destination
open Move (Overwriting updateWords)

inductive Following where
  | never
  /-- Those that were given. -/
  | given
  | always
deriving DecidableEq, Repr

inductive Product where
  | copy
  /-- A link to it. -/
  | link
  /-- Another name for it. -/
  | name
deriving DecidableEq, Repr

structure Settings where
  aim : Aim := {}
  whole : Bool := false
  following : Option Following := none
  product : Product := .copy
  overwriting : Overwriting := .always
  onlyOlder : Bool := false
  /-- What cannot be opened is replaced. -/
  forces : Bool := false
  /-- Everything is replaced rather than written to. -/
  clears : Bool := false
  keepsMode : Bool := false
  /-- New things get the usual permissions. -/
  forgetsMode : Bool := false
  keepsTime : Bool := false
  /-- Names of one file stay names of one file. -/
  keepsNames : Bool := false
  /-- The directories on the way to a source are made as well. -/
  above : Bool := false
  tells : Bool := false
  trims : Bool := false

def options : Options where
  letters := Options.plainLetters "adfHilLnprRsTuvxPZ" ++ Options.valuedLetters "t"
  words := [("archive", .plain, "a"), ("attributes-only", .plain, ""), ("context", .optional, "Z"),
    ("copy-contents", .plain, ""), ("dereference", .plain, "L"), ("force", .plain, "f"),
    ("interactive", .plain, "i"), ("link", .plain, "l"), ("no-clobber", .plain, "n"),
    ("no-dereference", .plain, "P"), ("no-preserve", .valued, "forget"),
    ("no-target-directory", .plain, "T"), ("one-file-system", .plain, "x"),
    ("parents", .plain, "above"), ("path", .plain, "above"), ("preserve", .optional, "keep"),
    ("recursive", .plain, "R"), ("remove-destination", .plain, "clear"),
    ("sparse", .valued, ""), ("reflink", .optional, ""),
    ("strip-trailing-slashes", .plain, "trim"), ("symbolic-link", .plain, "s"),
    ("target-directory", .valued, "t"), ("update", .optional, "u"), ("verbose", .plain, "v")]

inductive Attribute where
  | mode
  | times
  | names
  | all
  /-- Those that make no difference here. -/
  | other
deriving DecidableEq, Repr

def attributeWords : List (String × Attribute) :=
  [("mode", .mode), ("timestamps", .times), ("ownership", .other), ("links", .names),
   ("context", .other), ("xattr", .other), ("all", .all)]

def keepAttributes (option : String) (isKept : Bool) : Settings → List Raw → Utility Settings
  | settings, [] => return settings
  | settings, word :: rest => do
    let settings := match ← chooseWord 1 option word attributeWords with
      | .mode => { settings with keepsMode := isKept, forgetsMode := !isKept }
      | .times => { settings with keepsTime := isKept }
      | .names => { settings with keepsNames := isKept }
      | .all =>
        { settings with
          keepsMode := isKept, forgetsMode := !isKept, keepsTime := isKept, keepsNames := isKept }
      | .other => settings
    keepAttributes option isKept settings rest

def take (settings : Settings) (key : String) (value : Raw) : Utility Settings := do
  let plain : Settings := { settings with keepsMode := true, keepsTime := true }
  match key with
  | "a" => return { plain with keepsNames := true, following := some .never, whole := true }
  | "d" => return { settings with keepsNames := true, following := some .never }
  | "f" => return { settings with forces := true }
  | "H" => return { settings with following := some .given }
  | "i" => return { settings with overwriting := .asked }
  | "l" => return { settings with product := ← choose settings .name }
  | "L" => return { settings with following := some .always }
  | "n" => return { settings with overwriting := .never }
  | "p" => return plain
  | "P" => return { settings with following := some .never }
  | "r" | "R" => return { settings with whole := true }
  | "s" => return { settings with product := ← choose settings .link }
  | "t" =>
    if settings.aim.directory.isSome then die 1 "multiple target directories specified".toList
    return { settings with aim.directory := some value }
  | "T" => return { settings with aim.isExact := true }
  | "u" =>
    let update ←
      if value.isEmpty then pure (some true) else chooseWord 1 "--update" value updateWords
    match update with
    | none => return { settings with onlyOlder := false }
    | some true => return { settings with onlyOlder := true }
    | some false => return { settings with overwriting := .never }
  | "v" => return { settings with tells := true }
  | "above" => return { settings with above := true }
  | "clear" => return { settings with clears := true }
  | "trim" => return { settings with trims := true }
  | "keep" =>
    if value.isEmpty then return plain
    else keepAttributes "--preserve" true settings (Raw.split ',' value)
  | "forget" => keepAttributes "--no-preserve" false settings (Raw.split ',' value)
  | _ => return settings
where
  /-- Only one kind of thing can be made. -/
  choose (settings : Settings) (product : Product) : Utility Product := do
    if settings.product ≠ .copy && settings.product ≠ product then
      misuse 1 "cannot make both hard and symbolic links".toList
    return product

structure Progress where
  /-- Where things were copied to. -/
  copied : List (Stream × Raw) := []
  /-- The files that were given. -/
  given : Seen := []
  /-- What was made of them. -/
  made : Seen := []
  /-- What is copied now turned out to lie in itself. -/
  isCaught : Bool := false

structure Item where
  source : Raw
  target : Raw
  isGiven : Bool := false
  /-- There is nothing at the target. -/
  isNew : Bool := false
  /-- A directory was made that it goes into. -/
  hasDirectory : Bool := false
  /-- The directories that it was found in. -/
  above : List Stream := []
  /-- What was given, and where it goes. -/
  top : Raw × Raw

namespace Item

def follows (settings : Settings) (item : Item) : Bool :=
  match settings.following with
  | some .never => false
  | some .given => item.isGiven
  | some .always => true
  | none => !(settings.whole && settings.product ≠ .name)

def refuse (item : Item) (what : String) (error : OsError) : Utility Unit :=
  fault (because (what.toList ++ quoteName item.target) error)

/-- Tells that something was made, if that is wanted. -/
def tell (settings : Settings) (item : Item) : Utility Unit := do
  if settings.tells then
    printLine (quoteName item.source ++ " -> ".toList ++ quoteName item.target)

end Item

/-- How a source and what is at its target are related. -/
inductive Relation where
  | distinct
  /-- They are one, and that is what is wanted. -/
  | settled
  | same
deriving DecidableEq, Repr

/-- How a source and what is at its target are related, so that nothing is lost. -/
def relate (settings : Settings) (item : Item) (status found : Status) : Utility Relation := do
  let isSame := status.identity = found.identity
  let naming := settings.product = .name
  let follows := item.follows settings
  if isSame && naming then return .settled
  else if !follows && status.kind = .link && found.kind = .link then
    if ← isSameEntry item.source item.target then return .same
    else return if isSame then .settled else .distinct
  else if follows && !isSame then return .distinct
  else
    match ← statusOf item.source false, ← statusOf item.target false with
    | .ok near, .ok far =>
      let isOne := near.identity = far.identity
      let bothLinks := near.kind = .link && far.kind = .link
      let isReplaced := settings.clears && (far.kind = .link || (isOne && 1 < far.names))
      if settings.clears && bothLinks then return .distinct
      else if isReplaced && !(← isSameEntry item.source item.target) then return .distinct
      else if near.kind ≠ .link && far.kind ≠ .link && !isOne then return .distinct
      else if settings.product = .link && far.kind = .link then return .distinct
      else if follows then return .same
      else
        match ← statusOf item.source true, ← statusOf item.target true with
        | .ok behind, .ok beyond =>
          if behind.identity ≠ beyond.identity then return .distinct
          else if naming then return if far.kind = .link then .distinct else .settled
          else return .same
        | _, _ => return .distinct
    | _, _ => return .distinct

/-- Takes away what is at the target. Tells whether it is gone. -/
def clearTarget (settings : Settings) (item : Item) : Utility Bool := do
  match ← ask (.remove ⟨Raw.toString item.target⟩) with
  | .ok () =>
    if settings.tells then printLine ("removed ".toList ++ quoteName item.target)
    return true
  | .error .notFound => return true
  | .error error =>
    item.refuse "cannot remove " error
    return false

/-- What is at the target does not stand in the way; if it does not stay, there is nothing any
more. -/
def clearWay (settings : Settings) (progress : Progress) (item : Item) (status found : Status) :
    Utility (Option (Option Status)) := do
  let stop (message : Raw) : Utility (Option (Option Status)) := do
    fault message
    return none
  let isDirectory := status.kind = .directory
  let names := quoteName item.source ++ " and ".toList ++ quoteName item.target
  let relation ←
    if settings.overwriting = .never then pure .distinct else relate settings item status found
  if relation = .same then stop (names ++ " are the same file".toList)
  else if settings.onlyOlder && !isDirectory && status.modified ≤ found.modified then return none
  else if !isDirectory && settings.overwriting = .never then return none
  else
    let agreed ←
      if !isDirectory && settings.overwriting = .asked then
        confirms ("overwrite ".toList ++ quoteName item.target ++ "? ".toList)
      else pure true
    if !agreed then
      mark 1
      return none
    else if relation = .settled then return none
    else if found.kind = .directory then
      if isDirectory then return some (some found)
      else
        stop ("cannot overwrite directory ".toList ++ quoteName item.target ++
          " with non-directory".toList)
    else if isDirectory then
      stop ("cannot overwrite non-directory ".toList ++ quoteName item.target ++
        " with directory ".toList ++ quoteName item.source)
    else if item.isGiven && (← isSeen item.target found.identity progress.made) then
      stop ("will not overwrite just-created ".toList ++ quoteName item.target ++
        " with ".toList ++ quoteName item.source)
    else if settings.clears || (settings.keepsNames && 1 < found.names) ||
        (settings.following = some .never && status.kind ≠ .file) then
      return if ← clearTarget settings item then some none else none
    else return some (some found)

/-- What the target has to put up with: nothing is there, or something that may be written to. Without
an answer, the item is done with. -/
def meet (settings : Settings) (progress : Progress) (item : Item) (status : Status) :
    Utility (Option (Option Status)) := do
  if item.isNew then return some none
  else
    let isPlain := status.kind ≠ .directory && status.kind ≠ .link
    let looksAtLinks := (status.kind ≠ .file && (settings.whole || !isPlain)) ||
      settings.product ≠ .copy || settings.clears
    match ← statusOf item.target (!looksAtLinks) with
    | .ok found => clearWay settings progress item status found
    | .error .notFound => return some none
    | .error error =>
      if error = .tooManyLinks && settings.forces then
        return if ← clearTarget settings item then some none else none
      else
        item.refuse "cannot stat " error
        return none

/-- Opens the target to write a file. -/
def openTarget (settings : Settings) (item : Item) (mode : Nat) (found : Option Status) :
    Utility (Option Nat) := do
  let path : Path := ⟨Raw.toString item.target⟩
  let opened : Except OsError Nat ←
    if found.isSome then do pure (← ask (.open path .replace mode)) else pure (.error .notFound)
  let make : Utility (Option Nat) := do
    match ← ask (.open path .make mode) with
    | .ok descriptor => return some descriptor
    | .error error =>
      let isLink : Bool ← match ← ask (.readLink path) with
        | .ok _ => pure (error = .alreadyExists)
        | .error _ => pure false
      if isLink then
        fault ("not writing through dangling symlink ".toList ++ quoteName item.target)
      else
        let isSlash := error = .isDirectory && item.target.getLast? = some '/'
        item.refuse "cannot create regular file " (if isSlash then .notDirectory else error)
      return none
  match opened with
  | .ok descriptor => return some descriptor
  | .error .notFound => make
  | .error error =>
    if !settings.forces then
      item.refuse "cannot create regular file " error
      return none
    else if ← clearTarget settings item then make
    else return none

/-- Gives the target the attributes of its source that are kept. -/
def keep (settings : Settings) (item : Item) (status : Status) : Utility Unit := do
  let path : Path := ⟨Raw.toString item.target⟩
  if settings.keepsTime then
    let _ ← ask (.setTime path (status.kind ≠ .link) (some status.modified))
  if settings.keepsMode && status.kind ≠ .link then
    let _ ← ask (.setMode path status.mode)

/-- Copies the content of a file. Tells whether there is a file at the target now. -/
def copyContent (settings : Settings) (item : Item) (status : Status) (found : Option Status) :
    Utility Bool := do
  match ← openFile item.source with
  | .error error =>
    fault (because ("cannot open ".toList ++ quoteName item.source ++ " for reading".toList) error)
    return false
  | .ok reading =>
    let mode := if settings.forgetsMode then 0o666 else status.mode &&& 0o777
    match ← openTarget settings item mode found with
    | none =>
      close reading
      return false
    | some writing =>
      match ← readAll reading with
      | .error error =>
        fault (because ("error reading ".toList ++ quoteName item.source) error)
      | .ok content =>
        let written : Except OsError Unit ←
          if content.isEmpty then pure (.ok ()) else do pure (← ask (.write writing content))
        match written with
        | .error error => item.refuse "error writing " error
        | .ok () => keep settings item status
      close reading
      close writing
      return true

/-- Makes something at the target that is not written to, after what is there was taken away if that
is wanted. -/
def makeAt (item : Item) (replaces : Bool) (make : Utility (Except OsError Unit)) :
    Utility (Except OsError Unit) := do
  match ← make with
  | .error .alreadyExists =>
    if replaces then
      match ← ask (.remove ⟨Raw.toString item.target⟩) with
      | .ok () => make
      | .error error => return .error error
    else return .error .alreadyExists
  | outcome => return outcome

def makeLinkTo (settings : Settings) (item : Item) : Utility Bool := do
  let isNear ←
    if item.source.head? = some '/' then pure true
    else
      match ← statusOf ['.'] true, ← statusOf (Naming.before item.target) true with
      | .ok here, .ok there => pure (here.identity = there.identity)
      | _, _ => pure true
  if !isNear then
    fault (showName item.target ++
      ": can make relative symbolic links only in current directory".toList)
    return false
  else
    let path : Path := ⟨Raw.toString item.target⟩
    match ← makeAt item settings.forces (ask (.makeLink path ⟨Raw.toString item.source⟩)) with
    | .ok () => return true
    | .error error =>
      fault (because ("cannot create symbolic link ".toList ++ quoteName item.target ++
        " to ".toList ++ quoteName item.source) error)
      return false

/-- Makes the target another name of a file. -/
def makeName (item : Item) (replaces : Bool) (source : Raw) : Utility Bool := do
  let path : Path := ⟨Raw.toString item.target⟩
  match ← makeAt item replaces (ask (.link ⟨Raw.toString source⟩ path)) with
  | .ok () => return true
  | .error error =>
    fault (because ("cannot create hard link ".toList ++ quoteName item.target ++
      " to ".toList ++ quoteName source) error)
    return false

def copyLink (settings : Settings) (item : Item) (status : Status) : Utility Bool := do
  match ← ask (.readLink ⟨Raw.toString item.source⟩) with
  | .error error =>
    fault (because ("cannot read symbolic link ".toList ++ quoteName item.source) error)
    return false
  | .ok text =>
    let path : Path := ⟨Raw.toString item.target⟩
    match ← makeAt item settings.forces (ask (.makeLink path ⟨Raw.toString text⟩)) with
    | .ok () =>
      keep settings item status
      return true
    | .error error =>
      item.refuse "cannot create symbolic link " error
      return false

/-- Copies something that is no directory. Tells whether there is something at the target now. -/
def copyFile (settings : Settings) (item : Item) (status : Status) (found : Option Status) :
    Utility Bool :=
  match settings.product with
  | .link => makeLinkTo settings item
  | .name => makeName item (settings.forces || settings.overwriting = .asked) item.source
  | .copy =>
    if status.kind = .link then copyLink settings item status
    else copyContent settings item status found

/-- Notes where something is copied to, and tells where it was copied before. -/
def remember (progress : Progress) (identity : Stream) (target : Raw) : Option Raw × Progress :=
  match progress.copied.find? (·.1 = identity) with
  | some (_, earlier) => (some earlier, progress)
  | none => (none, { progress with copied := (identity, target) :: progress.copied })

/-- Where the source was copied before, as far as that matters. -/
def remembered (settings : Settings) (progress : Progress) (item : Item) (status : Status) :
    Option Raw × Progress :=
  if status.kind = .directory then
    if item.isGiven then remember progress status.identity item.target
    else ((progress.copied.find? (·.1 = status.identity)).map (·.2), progress)
  else
    let isFollowed := settings.following = some .always ||
      (item.isGiven && settings.following = some .given)
    if settings.keepsNames && settings.product ≠ .name && (1 < status.names || isFollowed) then
      remember progress status.identity item.target
    else (none, progress)

/-- A directory that was copied before is not copied again. Tells whether it may be copied. -/
def mayRepeat (settings : Settings) (progress : Progress) (item : Item) (earlier : Raw) :
    Utility (Bool × Progress) := do
  if ← isSameEntry item.source earlier then
    fault ("cannot copy a directory, ".toList ++ quoteName item.top.1 ++ ", into itself, ".toList ++
      quoteName item.top.2)
    return (false, { progress with isCaught := true })
  else if ← isSameEntry item.target earlier then
    complain ("warning: source directory ".toList ++ quoteName item.top.1 ++
      " specified more than once".toList)
    return (false, progress)
  else if settings.following = some .always ||
      (item.isGiven && settings.following = some .given) then return (true, progress)
  else
    fault ("will not create hard link ".toList ++ quoteName item.target ++
      " to directory ".toList ++ quoteName earlier)
    return (false, progress)

/-- Makes the directory for a copy. Tells whether it is there now. -/
def makeDirectoryFor (settings : Settings) (progress : Progress) (item : Item) (status : Status) :
    Utility (Bool × Progress) := do
  let mode := if settings.forgetsMode then 0o777 else status.mode
  match ← ask (.makeDirectory ⟨Raw.toString item.target⟩ mode) with
  | .error error =>
    item.refuse "cannot create directory " error
    return (false, progress)
  | .ok () =>
    item.tell settings
    if item.hasDirectory then return (true, progress)
    else
      match ← statusOf item.target false with
      | .ok made => return (true, (remember progress made.identity item.target).2)
      | .error _ => return (true, progress)

/-- What is in a directory that is copied. What this very command has made comes last. -/
def contents (progress : Progress) (item : Item) (status : Status) (isNew : Bool) :
    Utility (List Item) := do
  match ← ask (.list ⟨Raw.toString item.source⟩) with
  | .error error =>
    fault (because ("cannot access ".toList ++ quoteName item.source) error)
    return []
  | .ok names =>
    let inner := names.map fun name => {
      source := Naming.under item.source name, target := Naming.under item.target name
      isNew, hasDirectory := item.hasDirectory || isNew
      above := status.identity :: item.above, top := item.top : Item }
    sortOut [] [] inner
where
  /-- The items, with those at the end that were copied to. -/
  sortOut (early late : List Item) : List Item → Utility (List Item)
    | [] => return early.reverse ++ late.reverse
    | item :: rest => do
      match ← statusOf item.source false with
      | .ok status =>
        if status.kind = .directory && progress.copied.any (·.1 = status.identity) then
          sortOut early (item :: late) rest
        else sortOut (item :: early) late rest
      | .error _ => sortOut (item :: early) late rest

/-- What there is to know about a source, unless it is not copied at all. -/
def examine (settings : Settings) (progress : Progress) (item : Item) :
    Utility (Option Status × Progress) := do
  match ← statusOf item.source (item.follows settings) with
  | .error error =>
    fault (because ("cannot stat ".toList ++ quoteName item.source) error)
    return (none, progress)
  | .ok status =>
    if status.kind = .directory then
      if settings.whole then return (some status, progress)
      else
        fault ("-r not specified; omitting directory ".toList ++ quoteName item.source)
        return (none, progress)
    else if !item.isGiven then return (some status, progress)
    else if ← isSeen item.source status.identity progress.given then
      complain ("warning: source file ".toList ++ quoteName item.source ++
        " specified more than once".toList)
      return (none, progress)
    else
      let given := (item.source, status.identity) :: progress.given
      return (some status, { progress with given })

/-- The target is a link that was made just now. -/
def isFreshLink (progress : Progress) (item : Item) : Utility Bool := do
  if !item.isGiven then return false
  else
    match ← statusOf item.target false with
    | .ok found =>
      if found.kind = .link then isSeen item.target found.identity progress.made
      else return false
    | .error _ => return false

def noteMade (progress : Progress) (item : Item) : Utility Progress := do
  if !item.isGiven then return progress
  else
    match ← statusOf item.target false with
    | .ok made =>
      return { progress with made := (item.target, made.identity) :: progress.made }
    | .error _ => return progress

/-- Copies a file, or does as much for a directory as comes before its contents. Tells whether they
are to be copied, and into a new directory. -/
def begin (settings : Settings) (progress : Progress) (item : Item) (status : Status) :
    Utility (Option Bool × Progress) := do
  match ← meet settings progress item status with
  | none => return (none, progress)
  | some found =>
    let isDirectory : Bool := status.kind = .directory
    if ← isFreshLink progress item then
      fault ("will not copy ".toList ++ quoteName item.source ++
        " through just-created symlink ".toList ++ quoteName item.target)
      return (none, progress)
    else
      if !isDirectory then item.tell settings
      let (earlier, progress) := remembered settings progress item status
      match isDirectory, earlier with
      | false, some earlier =>
        let _ ← makeName item true earlier
        return (none, progress)
      | false, none =>
        if ← copyFile settings item status found then return (none, ← noteMade progress item)
        else return (none, progress)
      | true, earlier =>
        let (isFine, progress) ← match earlier with
          | some earlier => mayRepeat settings progress item earlier
          | none => pure (true, progress)
        if !isFine then return (none, progress)
        else if item.above.contains status.identity then
          fault ("cannot copy cyclic symbolic link ".toList ++ quoteName item.source)
          return (none, progress)
        else if found.isSome then return (some false, progress)
        else
          let (isThere, progress) ← makeDirectoryFor settings progress item status
          return (if isThere then some true else none, progress)

/-- Copies things one after the other, each with everything in it. -/
def copyEach (settings : Settings) : (fuel : Nat) → Progress → List Item → Utility Progress
  | 0, progress, _ | _ + 1, progress, [] => return progress
  | fuel + 1, progress, item :: rest => do
    let progress := if item.isGiven then { progress with isCaught := false } else progress
    let (status, progress) ← examine settings progress item
    let progress ← match status with
      | none => pure progress
      | some status =>
        let (inner, progress) ← begin settings progress item status
        match inner with
        | none => pure progress
        | some isNew =>
          let items ← contents progress item status isNew
          let progress ← copyEach settings fuel progress items
          keep settings item status
          noteMade progress item
    if progress.isCaught && !item.isGiven then return progress
    else copyEach settings fuel progress rest

/-- Makes the directories on the way to a target as they are on the way to its source. Tells whether
they are there now. -/
def makeAbove (settings : Settings) (place : Raw) : List Raw → Utility Bool
  | [] => return true
  | source :: rest => do
    let target := Naming.under place source
    match ← statusOf target true, ← statusOf source true with
    | .ok found, _ =>
      if found.kind = .directory then makeAbove settings place rest
      else
        fault (quoteName target ++ " exists but is not a directory".toList)
        return false
    | .error _, .error error =>
      fault (because ("failed to get attributes of ".toList ++ quoteName source) error)
      return false
    | .error _, .ok status =>
      match ← ask (.makeDirectory ⟨Raw.toString target⟩ status.mode) with
      | .ok () =>
        if settings.tells then
          printLine (showName source ++ " -> ".toList ++ showName target)
        makeAbove settings place rest
      | .error error =>
        fault (because ("cannot make directory ".toList ++ quoteName target) error)
        return false

def copyInto (settings : Settings) (place : Raw) : Progress → List Raw → Utility Unit
  | _, [] => return ()
  | progress, source :: rest => do
    let target :=
      if settings.above then Naming.under place (Raw.dropEndWhile (· = '/') source)
      else if Naming.lastStep source = ['.', '.'] then Naming.under place ['.']
      else inside place source
    let isReady ←
      if settings.above then makeAbove settings place (Naming.ancestors source) else pure true
    let item : Item := { source, target, isGiven := true, top := (source, target) }
    let progress ← if isReady then copyEach settings forever progress [item] else pure progress
    copyInto settings place progress rest

/-- `cp`. -/
def run (arguments : List Raw) : Utility Unit := do
  let (settings, operands) ← readOptions options 1 ({} : Settings) take arguments
  let (sources, destination) ← choose settings.aim operands
  let sources := if settings.trims then sources.map Naming.trimmed else sources
  match destination with
  | .into place => copyInto settings place {} sources
  | .exactly target =>
    if settings.above then
      misuse 1 "with --parents, the destination must be a directory".toList
    let items : List Item := sources.map fun source =>
      { source, target, isGiven := true, top := (source, target) }
    let _ ← copyEach settings forever {} items

end WheelInstaller.Utility.Copy
