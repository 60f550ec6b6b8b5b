import WheelInstaller.Utility.Quoting
import WheelInstaller.Utility.Options

/-! `dd`: bytes that are carried from one place to another, block by block. -/

namespace WheelInstaller.Utility.Transfer

open Process

/-- How much of something there is: blocks or bytes. -/
structure Amount where
  count : Nat := 0
  isBytes : Bool := false
deriving DecidableEq, Repr

/-- How much is told in the end. -/
inductive Report where
  | nothing
  | blocks
  | everything
deriving DecidableEq, Repr

structure Settings where
  source : Option Raw := none
  target : Option Raw := none
  readSize : Nat := 512
  writeSize : Nat := 512
  /-- Blocks are written as they were read. -/
  common : Option Nat := none
  limit : Option Amount := none
  skip : Amount := {}
  seek : Amount := {}
  conversions : List String := []
  flags : List String := []
  report : Report := .everything

def conversionNames : List String :=
  ["excl", "fdatasync", "fsync", "lcase", "nocreat", "noerror", "notrunc", "sparse", "swab",
    "sync", "ucase"]

def flagNames : List String :=
  ["append", "cio", "count_bytes", "direct", "directory", "dsync", "fullblock", "noatime",
    "nocache", "noctty", "nofollow", "nolinks", "nonblock", "seek_bytes", "skip_bytes", "sync"]

/-- A number: a product of numbers with units. -/
def readNumber (text : Raw) : Utility Nat := do
  let sizes := (Raw.split 'x' text).map fun part =>
    match part.reverse with
    | 'c' :: digits => parseSize "" digits.reverse
    | 'w' :: digits => (parseSize "" digits.reverse).map (2 * ·)
    | _ => parseSize "bkKMGTPEZYRQ0" part
  let refuse (reason : String) : Utility Nat :=
    die 1 ("invalid number: ".toList ++ quoteWord text ++ reason.toList)
  let product := sizes.foldlM (fun product size => do return product * (← size)) 1
  match product with
  | .ok value =>
    if 0x7fffffffffffffff < value then refuse ": Value too large for defined data type"
    else return value
  | .error .tooLarge => refuse ": Value too large for defined data type"
  | .error .invalid => refuse ""

/-- A number that is not zero. -/
def readBlockSize (text : Raw) : Utility Nat := do
  let size ← readNumber text
  if size = 0 then die 1 ("invalid number: ".toList ++ quoteWord text)
  return size

/-- A number of blocks, or of bytes if the text says so. -/
def readAmount (text : Raw) : Utility Amount := do
  match text.reverse with
  | 'B' :: c :: digits =>
    if c.isDigit then return { count := ← readNumber (c :: digits).reverse, isBytes := true }
    else return { count := ← readNumber text }
  | _ => return { count := ← readNumber text }

/-- The words of a list, all of which have to be known. -/
def readWords (known : List String) (what : String) (text : Raw) : Utility (List String) :=
  (Raw.split ',' text).mapM fun word =>
    match known.find? (·.toList = word) with
    | some name => return name
    | none => misuse 1 (what.toList ++ quoteWord word)

def Settings.take (settings : Settings) (operand : Raw) : Utility Settings := do
  let refuse {α : Type} : Utility α :=
    misuse 1 ("unrecognized operand ".toList ++ quoteWord operand)
  match Raw.splitAt? '=' operand with
  | none => refuse
  | some (name, value) =>
    match String.ofList name with
    | "if" => return { settings with source := some value }
    | "of" => return { settings with target := some value }
    | "ibs" => return { settings with readSize := ← readBlockSize value }
    | "obs" => return { settings with writeSize := ← readBlockSize value }
    | "bs" => return { settings with common := some (← readBlockSize value) }
    | "count" => return { settings with limit := some (← readAmount value) }
    | "skip" | "iseek" => return { settings with skip := ← readAmount value }
    | "seek" | "oseek" => return { settings with seek := ← readAmount value }
    | "conv" =>
      let words ← readWords conversionNames "invalid conversion: " value
      return { settings with conversions := settings.conversions ++ words }
    | "iflag" =>
      let words ← readWords flagNames "invalid input flag: " value
      return { settings with flags := settings.flags ++ words.map ("i" ++ ·) }
    | "oflag" =>
      let words ← readWords flagNames "invalid output flag: " value
      return { settings with flags := settings.flags ++ words.map ("o" ++ ·) }
    | "status" =>
      match String.ofList value with
      | "none" => return { settings with report := .nothing }
      | "noxfer" => return { settings with report := .blocks }
      | "progress" => return { settings with report := .everything }
      | _ => misuse 1 ("invalid status level: ".toList ++ quoteWord value)
    | _ => refuse

/-- Blocks that went through, and parts of blocks. -/
structure Tally where
  whole : Nat := 0
  part : Nat := 0

def Tally.add (tally : Tally) (blockSize size : Nat) : Tally :=
  if size = blockSize then { tally with whole := tally.whole + 1 }
  else { tally with part := tally.part + 1 }

def Tally.ofSize (blockSize size : Nat) : Tally where
  whole := size / blockSize
  part := if size % blockSize = 0 then 0 else 1

def Tally.line (tally : Tally) (direction : String) : Raw :=
  Raw.ofNat tally.whole ++ '+' :: Raw.ofNat tally.part ++ " records ".toList ++
    direction.toList ++ ['\n']

/-- Neighbouring bytes in each other's place. -/
def swapPairs : List UInt8 → List UInt8
  | first :: second :: rest => second :: first :: swapPairs rest
  | rest => rest

def Settings.convert (settings : Settings) (blockSize : Nat) (bytes : ByteArray) : ByteArray :=
  let has (name : String) : Bool := settings.conversions.contains name
  let list := bytes.toList
  let list := if has "sync" then list ++ List.replicate (blockSize - list.length) 0 else list
  let list := if has "swab" then swapPairs list else list
  let change (test : Char → Bool) (turn : Char → Char) (byte : UInt8) : UInt8 :=
    let c := Char.ofUInt8 byte
    if test c then (turn c).toUInt8 else byte
  let list := if has "ucase" then list.map (change Char.isLower Char.toUpper) else list
  let list := if has "lcase" then list.map (change Char.isUpper Char.toLower) else list
  ⟨list.toArray⟩

/-- Reads bytes, again and again until there are enough of them if that is asked for. -/
def readBlock (descriptor : Nat) (isFull : Bool) : (rounds size : Nat) → (found : ByteArray) →
    Utility (Except OsError ByteArray)
  | 0, _, found => return .ok found
  | rounds + 1, size, found => do
    if size = 0 then return .ok found
    match ← ask (.read descriptor size none) with
    | .error error => return .error error
    | .ok bytes =>
      if bytes.isEmpty || !isFull then return .ok (found ++ bytes)
      else readBlock descriptor isFull rounds (size - bytes.size) (found ++ bytes)

structure Progress where
  read : Tally := {}
  written : Tally := {}
  size : Nat := 0
  /-- The blocks that are not written yet, the latest first. -/
  held : List ByteArray := []

structure Route where
  source : Nat
  sourceName : Raw
  /-- Nothing is written before the end if the bytes go to a file. -/
  isFile : Bool
  readSize : Nat

def tell (settings : Settings) (progress : Progress) : Utility Unit := do
  if settings.report ≠ .nothing then
    remark (progress.read.line "in" ++ progress.written.line "out")
  if settings.report = .everything then
    let unit := if progress.size = 1 then " byte".toList else " bytes".toList
    remark (Raw.ofNat progress.size ++ unit ++ " copied, 0.001 s, ".toList ++
      Raw.ofNat progress.size ++ " kB/s\n".toList)

/-- Carries blocks, as many as are left. -/
def carry (settings : Settings) (route : Route) : (rounds : Nat) → (left : Option Amount) →
    Progress → Utility Progress
  | 0, _, progress => return progress
  | rounds + 1, left, progress => do
    let size := match left with
      | some { count, isBytes := true } => min count route.readSize
      | some { count := 0, .. } => 0
      | _ => route.readSize
    if size = 0 then return progress
    match ← readBlock route.source (settings.flags.contains "ifullblock") forever size .empty with
    | .error error =>
      fault (because ("error reading ".toList ++ quoteName route.sourceName) error)
      return progress
    | .ok bytes =>
      if bytes.isEmpty then return progress
      let isSynced := settings.conversions.contains "sync"
      let block := settings.convert route.readSize bytes
      let progress := { progress with
        read := progress.read.add route.readSize bytes.size
        size := progress.size + block.size
        held := if route.isFile then block :: progress.held else progress.held
        written := match settings.common with
          | some common =>
            if isSynced then progress.written.add common block.size
            else progress.written.add common bytes.size
          | none => Tally.ofSize settings.writeSize (progress.size + block.size) }
      let outcome ← if route.isFile then pure (.ok ()) else ask (.write 1 block)
      match outcome with
      | .error error =>
        fault (because "error writing 'standard output'".toList error)
        return { progress with written := {} }
      | .ok () =>
        let left := left.map fun left =>
          { left with count := left.count - if left.isBytes then bytes.size else 1 }
        carry settings route rounds left progress

/-- Writes what was carried into a file, after so many bytes of it. -/
def deliver (settings : Settings) (name : Raw) (start : Nat) (bytes : ByteArray) :
    Utility Unit := do
  let path : Path := ⟨Raw.toString name⟩
  let isFile : Bool := match ← statusOf name true with
    | .ok status => status.kind == .file
    | .error _ => false
  let before ← match ← ask (.open path .update 0o666) with
    | .error _ => pure .empty
    | .ok descriptor =>
      let outcome ← if isFile then readAll descriptor else pure (.ok .empty)
      close descriptor
      pure (match outcome with | .ok bytes => bytes | .error _ => .empty)
  let start := if !isFile then 0 else if settings.flags.contains "oappend" then before.size else start
  let filler : ByteArray := ⟨(List.replicate (start - before.size) 0).toArray⟩
  let rest :=
    if settings.conversions.contains "notrunc" then
      before.extract (start + bytes.size) before.size
    else .empty
  match ← ask (.open path .replace 0o666) with
  | .error error => fault (because ("error writing ".toList ++ quoteName name) error)
  | .ok descriptor =>
    let _ ← ask (.write descriptor (before.extract 0 start ++ filler ++ bytes ++ rest))
    close descriptor

/-- Opens the file to which bytes go, so that it is there. -/
def openTarget (settings : Settings) (name : Raw) : Utility Unit := do
  let has (word : String) : Bool := settings.conversions.contains word
  let refuse (error : OsError) : Utility Unit :=
    die 1 (because ("failed to open ".toList ++ quoteName name) error)
  match ← statusOf name true with
  | .ok _ => if has "excl" then refuse .alreadyExists
  | .error error => if has "nocreat" then refuse error
  match ← ask (.open ⟨Raw.toString name⟩ .update 0o666) with
  | .error error => refuse error
  | .ok descriptor => close descriptor

/-- `dd`. -/
def run (arguments : List Raw) : Utility Unit := do
  let (_, operands) ← readOptions {} 1 () (fun _ _ _ => return ()) arguments
  let settings ← operands.foldlM (fun (settings : Settings) operand => settings.take operand) {}
  if settings.conversions.contains "lcase" && settings.conversions.contains "ucase" then
    die 1 "cannot combine lcase and ucase".toList
  let sourceName := settings.source.getD "standard input".toList
  let source ← match settings.source with
    | none => pure input
    | some name =>
      match ← openFile name with
      | .ok descriptor => pure descriptor
      | .error error => die 1 (because ("failed to open ".toList ++ quoteName name) error)
  match settings.target with
  | some name => openTarget settings name
  | none => pure ()
  let readSize := settings.common.getD settings.readSize
  let writeSize := settings.common.getD settings.writeSize
  let route : Route := { source, sourceName, isFile := settings.target.isSome, readSize }
  let bytesOf (amount : Amount) (unit : Nat) : Nat := amount.count * if amount.isBytes then 1 else unit
  let skipped := bytesOf settings.skip readSize
  let isShort ← if skipped = 0 then pure false else
    match ← readBlock source true forever skipped .empty with
    | .ok bytes => pure (bytes.size < skipped)
    | .error _ => pure true
  if isShort then complain (showName sourceName ++ ": cannot skip to specified offset".toList)
  let progress ← carry settings route forever settings.limit {}
  match settings.target with
  | some name =>
    let bytes := progress.held.foldr (fun block bytes => bytes ++ block) .empty
    deliver settings name (bytesOf settings.seek writeSize) bytes
  | none => pure ()
  tell settings progress

end WheelInstaller.Utility.Transfer
