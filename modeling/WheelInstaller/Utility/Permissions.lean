import WheelInstaller.Text.Encoding
import WheelInstaller.Utility.Naming
import WheelInstaller.Utility.Options

/-! Permissions: how arguments say what they are to be, and how messages show them. -/

namespace WheelInstaller.Utility.Mode

/-- What a mode is made of besides the permissions to read, write and run. -/
def specialBits : Nat := 0o7000

def allBits : Nat := 0o7777

def without (bits : Nat) : Nat :=
  allBits - (bits &&& allBits)

inductive Origin where
  | given
  /-- The bits are copied from those that there are. -/
  | copied
  /-- The permission to run is given where somebody has it already, and for directories. -/
  | runnable
deriving DecidableEq, Repr

structure Change where
  sign : Char
  origin : Origin := .given
  /-- The bits it is about; none if nobody was named. -/
  affected : Nat
  value : Nat
  /-- The bits that were written down. -/
  mentioned : Nat
deriving DecidableEq, Repr

def isOctal (c : Char) : Bool :=
  '0' ≤ c && c ≤ '7'

def octalValue (digits : Raw) : Nat :=
  digits.foldl (fun value c => 8 * value + (c.toNat - '0'.toNat)) 0

/-- The bits for whom a letter stands. -/
def whoBits? : Char → Option Nat
  | 'u' => some 0o4700
  | 'g' => some 0o2070
  | 'o' => some 0o1007
  | 'a' => some allBits
  | _ => none

/-- The bits that a letter means for everybody. -/
def letterBits? : Char → Option Nat
  | 'r' => some 0o444
  | 'w' => some 0o222
  | 'x' => some 0o111
  | 'X' => some 0
  | 's' => some 0o6000
  | 't' => some 0o1000
  | _ => none

/-- The letters at the start of a text that mean bits, and the text after them. -/
def takeBits (bits? : Char → Option Nat) (text : Raw) : Nat × Raw :=
  let run := text.takeWhile fun c => (bits? c).isSome
  (run.foldl (fun bits c => bits ||| (bits? c).getD 0) 0, text.drop run.length)

/-- Says how a mode changes. -/
def isSign (c : Char) : Bool :=
  c = '=' || c = '+' || c = '-'

/-- Reads one change from its sign on, for those affected, and the text after it. -/
def readChange (affected : Nat) (sign : Char) (text : Raw) : Option (Change × Raw) :=
  let mentioned (value : Nat) : Nat := if affected = 0 then value else affected &&& value
  let copied (bits : Nat) (rest : Raw) : Option (Change × Raw) :=
    some (⟨sign, .copied, affected, bits, mentioned bits⟩, rest)
  match text with
  | 'u' :: rest => copied 0o700 rest
  | 'g' :: rest => copied 0o070 rest
  | 'o' :: rest => copied 0o007 rest
  | text =>
    let digits := text.takeWhile isOctal
    let rest := text.drop digits.length
    if digits.isEmpty then
      let (value, rest) := takeBits letterBits? text
      let origin : Origin :=
        if (text.take (text.length - rest.length)).contains 'X' then .runnable else .given
      some (⟨sign, origin, affected, value, mentioned value⟩, rest)
    else
      let ends := rest.isEmpty || rest.head? = some ','
      let value := octalValue digits
      if affected ≠ 0 || !ends || allBits < value then none
      else some (⟨sign, .given, allBits, value, allBits⟩, rest)

/-- Reads changes, in at most `fuel` steps. `affected` are those the text is about, if its first
character is a sign. -/
def readChanges : (fuel : Nat) → (affected : Option Nat) → Raw → Option (List Change)
  | 0, _, _ => none
  | fuel + 1, none, text =>
    let (affected, rest) := takeBits whoBits? text
    match rest with
    | sign :: _ => if isSign sign then readChanges fuel (some affected) rest else none
    | [] => none
  | fuel + 1, some affected, text => do
    match text with
    | [] => none
    | sign :: rest =>
      let (change, rest) ← readChange affected sign rest
      let more ← match rest with
        | [] => some []
        | ',' :: rest => readChanges fuel none rest
        | next :: _ => if isSign next then readChanges fuel (some affected) rest else none
      some (change :: more)

/-- The changes that a text asks for. A number says what all bits are to be; those that are neither to
read, to write nor to run are mentioned only if the number is long enough. -/
def read? (text : Raw) : Option (List Change) :=
  if text.head?.any isOctal then
    let value := octalValue text
    if !text.all isOctal || allBits < value then none
    else
      let mentioned := if text.length < 5 then (value &&& specialBits) ||| 0o777 else allBits
      some [⟨'=', .given, allBits, value, mentioned⟩]
  else readChanges (2 * text.length + 2) none text

/-- The bits of one permission for everybody, if somebody has it. -/
def spread (value bits : Nat) : Nat :=
  if value &&& bits = 0 then 0 else bits

/-- The mode after a change. Bits that directories inherit stay unless they were mentioned. -/
def Change.apply (change : Change) (isDirectory : Bool) (mask mode : Nat) : Nat :=
  let omitted := if isDirectory then 0o6000 &&& without change.mentioned else 0
  let value := match change.origin with
    | .given => change.value
    | .copied =>
      let kept := change.value &&& mode
      spread kept 0o444 ||| spread kept 0o222 ||| spread kept 0o111
    | .runnable =>
      if isDirectory || mode &&& 0o111 ≠ 0 then change.value ||| 0o111 else change.value
  let scope := if change.affected = 0 then without mask else change.affected
  let value := value &&& scope &&& without omitted
  match change.sign with
  | '=' =>
    let kept := (if change.affected = 0 then 0 else without change.affected) ||| omitted
    (mode &&& kept) ||| value
  | '+' => mode ||| value
  | _ => mode &&& without value

def adjust (changes : List Change) (isDirectory : Bool) (mask mode : Nat) : Nat :=
  changes.foldl (fun mode change => change.apply isDirectory mask mode) mode

def letters (mode : Nat) : Raw :=
  let has (bit : Nat) : Bool := mode &&& bit ≠ 0
  let part (place special : Nat) (lower upper : Char) : Raw :=
    [if has (0o4 <<< place) then 'r' else '-', if has (0o2 <<< place) then 'w' else '-',
     match has (0o1 <<< place), has special with
     | true, true => lower
     | false, true => upper
     | true, false => 'x'
     | false, false => '-']
  part 6 0o4000 's' 'S' ++ part 3 0o2000 's' 'S' ++ part 0 0o1000 't' 'T'

def digits (mode : Nat) : Raw :=
  let text := Nat.toDigits 8 mode
  List.replicate (4 - text.length) '0' ++ text

end WheelInstaller.Utility.Mode

/-! `chmod`: the permissions of files. -/

namespace WheelInstaller.Utility.Permissions

open Process

structure Settings where
  /-- Everything in directories is changed as well. -/
  whole : Bool := false
  /-- What is told: all files, or those that change. -/
  tells : Option Bool := none
  silent : Bool := false
  /-- The file that serves as an example. -/
  example? : Option Raw := none

def options : Options where
  letters := Options.plainLetters "Rcfv"
  words := [("changes", .plain, "c"), ("quiet", .plain, "f"), ("recursive", .plain, "R"),
    ("reference", .valued, "reference"), ("silent", .plain, "f"), ("verbose", .plain, "v"),
    ("preserve-root", .plain, ""), ("no-preserve-root", .plain, "")]

def take (settings : Settings) (key : String) (value : Raw) : Utility Settings := do
  match key with
  | "R" => return { settings with whole := true }
  | "c" => return { settings with tells := some false }
  | "v" => return { settings with tells := some true }
  | "f" => return { settings with silent := true }
  | "reference" => return { settings with example? := some value }
  | _ => return settings

/-- The argument looks like an option but says how a mode changes. -/
def isModeOption : Raw → Bool
  | '-' :: c :: _ => "rwxXstugoa,+=01234567".toList.contains c
  | _ => false

structure Task where
  settings : Settings
  changes : List Mode.Change
  mask : Nat
  /-- It is told when bits stay because of the mask. -/
  diagnoses : Bool

/-- Changes the mode of one file, and tells whether it is a directory that is to be gone through. -/
def changeOne (task : Task) (path : Raw) (isGiven : Bool) : Utility Bool := do
  let settings := task.settings
  let refuse (message : Raw) : Utility Bool := do
    if !settings.silent then complain message
    if settings.tells = some true then
      printLine (quoteName path ++ " could not be accessed".toList)
    mark 1
    return false
  let unreachable (error : OsError) : Utility Bool :=
    refuse (because ("cannot access ".toList ++ quoteName path) error)
  match ← statusOf path false with
  | .error error => unreachable error
  | .ok found =>
    if found.kind = .link && !isGiven then
      if settings.tells = some true then
        printLine ("neither symbolic link ".toList ++ quoteName path ++
          " nor referent has been changed".toList)
      return false
    else
      match ← statusOf path true with
      | .error error =>
        if error = .notFound then
          refuse ("cannot operate on dangling symlink ".toList ++ quoteName path)
        else unreachable error
      | .ok status =>
        let isDirectory := status.kind = .directory
        let new := Mode.adjust task.changes isDirectory task.mask status.mode
        let _ ← ask (.setMode ⟨Raw.toString path⟩ new)
        let shown (mode : Nat) : Raw :=
          Mode.digits mode ++ " (".toList ++ Mode.letters mode ++ [')']
        let start := "mode of ".toList ++ quoteName path
        if new ≠ status.mode then
          if settings.tells.isSome then
            printLine (start ++ " changed from ".toList ++ shown status.mode ++ " to ".toList ++
              shown new)
        else if settings.tells = some true then
          printLine (start ++ " retained as ".toList ++ shown status.mode)
        let naive := Mode.adjust task.changes isDirectory 0 status.mode
        if task.diagnoses && new &&& Mode.without naive ≠ 0 then
          fault (showName path ++ ": new permissions are ".toList ++ Mode.letters new ++
            ", not ".toList ++ Mode.letters naive)
        return settings.whole && isDirectory && (found.kind = .directory || isGiven)

/-- Changes the modes of files, and of everything below them if that is wanted. -/
def changeEach (task : Task) : (fuel : Nat) → (isGiven : Bool) → List Raw → Utility Unit
  | 0, _, _ | _ + 1, _, [] => return ()
  | fuel + 1, isGiven, path :: rest => do
    if ← changeOne task path isGiven then
      match ← ask (.list ⟨Raw.toString path⟩) with
      | .ok names => changeEach task fuel false (names.map (Naming.under path))
      | .error error => fault (because ("cannot read directory ".toList ++ quoteName path) error)
    changeEach task fuel isGiven rest

/-- `chmod`. -/
def run (arguments : List Raw) : Utility Unit := do
  let given := arguments.takeWhile (· ≠ ['-', '-'])
  let rest := arguments.drop given.length
  let (modes, given) := given.partition isModeOption
  let (settings, operands) ← readOptions options 1 ({} : Settings) take (given ++ rest)
  let asked := Raw.join [','] modes
  let isAsked := !modes.isEmpty || settings.example?.isSome
  let (asked, paths) := match isAsked, operands with
    | false, mode :: paths => (mode, paths)
    | _, operands => (asked, operands)
  if paths.isEmpty then
    if operands.isEmpty || isAsked then misuse 1 "missing operand".toList
    else misuse 1 ("missing operand after ".toList ++ quoteWord asked)
  let mask : Nat ← ask (.mask none)
  let changes ← match settings.example? with
    | some path =>
      match ← statusOf path true with
      | .ok status => pure [(⟨'=', .given, Mode.allBits, status.mode, Mode.allBits⟩ : Mode.Change)]
      | .error error =>
        die 1 (because ("failed to get attributes of ".toList ++ quoteName path) error)
    | none =>
      match Mode.read? asked with
      | some changes => pure changes
      | none => misuse 1 ("invalid mode: ".toList ++ quoteWord asked)
  changeEach { settings, changes, mask, diagnoses := !modes.isEmpty } forever true paths

end WheelInstaller.Utility.Permissions
