import WheelInstaller.Bytes.Basic
import WheelInstaller.Container.Error

/-! Where the central directory of a container is. The record that ends a container says so; it is
looked for from the end of the file backwards. Whatever was put in front of a container moves all
its offsets by the same amount, the archive offset, which is found by looking where the directory
really starts. -/

namespace WheelInstaller.Container

open Bytes

def endMark : List UInt8 := [0x50, 0x4B, 0x05, 0x06]

def recordMark : List UInt8 := [0x50, 0x4B, 0x01, 0x02]

/-- The mark of a member's local header. -/
def localMark : List UInt8 := [0x50, 0x4B, 0x03, 0x04]

def largeEndMark : List UInt8 := [0x50, 0x4B, 0x06, 0x06]

/-- The mark of the record that says where the end record of a large container is. -/
def locatorMark : List UInt8 := [0x50, 0x4B, 0x06, 0x07]

/-- The bytes of a directory record before its name. -/
def recordSize : Nat := 46

/-- Where a directory is, and what the end record says about it. -/
structure Directory where
  archiveOffset : Nat
  start : Nat
  count : Nat
  disk : Nat
  startDisk : Nat
deriving DecidableEq, Repr

/-- The fields of an end record. -/
structure EndRecord where
  disk : Nat
  startDisk : Nat
  countHere : Nat
  count : Nat
  offset : Nat
deriving DecidableEq, Repr

/-- The end record at a position, if it and its comment fit in the file. -/
def EndRecord.read? (file : ByteArray) (position : Nat) : Option EndRecord :=
  if position + 22 + number file (position + 20) 2 ≤ file.size then
    some {
      disk := number file (position + 4) 2
      startDisk := number file (position + 6) 2
      countHere := number file (position + 8) 2
      count := number file (position + 10) 2
      offset := number file (position + 16) 4 }
  else none

/-- Fields that are too small for their value hold their largest number. -/
def EndRecord.mayBeLarge (record : EndRecord) : Bool :=
  record.count = 0xFFFF || record.offset = 0xFFFFFFFF

/-- The directory of an ordinary container, whose end record is at `position`. -/
def EndRecord.directory? (file : ByteArray) (position : Nat) (record : EndRecord) :
    Option Directory :=
  let placed (archiveOffset : Nat) : Directory :=
    { archiveOffset, start := record.offset + archiveOffset, count := record.countHere,
      disk := record.disk, startDisk := record.startDisk }
  -- A directory without records ends where its end record starts.
  if record.count = 0 then some (placed (position - record.offset))
  else if position ≤ record.offset then none
  else
    -- Its first record stands further on if something was put in front of the container.
    (findForward recordMark file record.offset (position - record.offset)).map fun found =>
      placed (found - record.offset)

/-- The fields of the record that locates the end record of a large container. -/
structure Locator where
  position : Nat
  startDisk : Nat
  offset : Nat
  disks : Nat
deriving DecidableEq, Repr

/-- The locator right before an end record. -/
def Locator.read? (file : ByteArray) (endPosition : Nat) : Option Locator :=
  if 20 ≤ endPosition && standsAt locatorMark file (endPosition - 20) then
    let position := endPosition - 20
    some {
      position
      startDisk := number file (position + 4) 4
      offset := number file (position + 8) 8
      disks := number file (position + 16) 4 }
  else none

/-- What the end record of a large container says. -/
structure LargeDirectory where
  directory : Directory
  countHere : Nat
deriving DecidableEq, Repr

/-- The end record of a large container at `found`, if it reaches exactly to its locator and there
is room for the directory before it. -/
def Locator.examine? (file : ByteArray) (locator : Locator) (found : Nat) :
    Option LargeDirectory :=
  let size := number file (found + 4) 8
  let startDisk := number file (found + 20) 4
  let count := number file (found + 32) 8
  let offset := number file (found + 48) 8
  if 44 ≤ size && size + 12 = locator.position - found && startDisk = locator.startDisk &&
      recordSize * count + offset ≤ found then
    let archiveOffset := found - locator.offset
    some {
      countHere := number file (found + 24) 8
      directory := {
        archiveOffset, start := offset + archiveOffset, count
        disk := number file (found + 16) 4, startDisk } }
  else none

/-- Looks for the end record of a large container at `start` and the `count - 1` places after. -/
def Locator.search? (file : ByteArray) (locator : Locator) (start : Nat) :
    Nat → Option LargeDirectory
  | 0 => none
  | count + 1 =>
    let here := if standsAt largeEndMark file start then locator.examine? file start else none
    match here with
    | some found => some found
    | none => search? file locator (start + 1) count

/-- The end record of a large container. -/
def Locator.large? (file : ByteArray) (locator : Locator) : Option LargeDirectory :=
  if locator.offset < locator.position && locator.disks ≤ 1 then
    locator.search? file locator.offset (locator.position - locator.offset)
  else none

/-- The directory that the end record at `position` leads to. `none` means that this is not a
usable end record; an error, that it is one and contradicts itself. -/
def directoryAt? (file : ByteArray) (position : Nat) : Option (Except Error Directory) := do
  let record ← EndRecord.read? file position
  let locator := if record.mayBeLarge then Locator.read? file position else none
  match locator with
  | none => return .ok (← record.directory? file position)
  | some locator =>
    let large ← locator.large? file
    if large.countHere ≤ large.directory.count then return .ok large.directory
    else return .error (.invalid .recordCounts)

end WheelInstaller.Container
