import WheelInstaller.Container.Record
import WheelInstaller.Deflate.Inflate
import WheelInstaller.Stream.Source

/-! A container as a whole: its records in stored order, and the content of its members. -/

namespace WheelInstaller.Container

open Bytes

/-- A container that was opened. No two records have the same name. -/
structure Index where
  file : ByteArray
  start : Nat
  records : List Record

namespace Index

/-- Adds a record. One of the same name is replaced where it stands. -/
def addRecord (records : List Record) (record : Record) : List Record :=
  if records.any (·.name = record.name) then
    records.map fun known => if known.name = record.name then record else known
  else records ++ [record]

/-- The records of a directory by name. -/
def byName (records : List Record) : List Record :=
  records.foldl addRecord []

/-- All records of a directory, in stored order. -/
def readDirectory (file : ByteArray) (directory : Directory) : Except Error (List Record) :=
  if directory.disk ≠ directory.startDisk then .error (.unsupported .severalDisks)
  else Record.readAll file directory.archiveOffset directory.count directory.start

/-- The directory that the end record at `position` leads to, with its records. -/
def attempt? (file : ByteArray) (position : Nat) : Option (Except Error Index) := do
  let found ← directoryAt? file position
  return do
    let directory ← found
    let records ← readDirectory file directory
    return ⟨file, directory.start, byName records⟩

/-- Opens a container through the last end record before `limit` that leads to a readable
directory. If there is none, the failure counts that the frontmost usable end record led to. -/
def openBefore (file : ByteArray) (failure : Option Error) : (limit : Nat) → Except Error Index
  | 0 => .error (failure.getD (.invalid .noEndRecord))
  | limit + 1 =>
    match (if standsAt endMark file limit then attempt? file limit else none) with
    | none => openBefore file failure limit
    | some (.ok index) => .ok index
    | some (.error error) => openBefore file (some error) limit

def ofFile (file : ByteArray) : Except Error Index :=
  openBefore file none file.size

/-- Positions in a file are signed numbers of eight bytes. -/
def reach : Nat := 0x8000000000000000

/-- Where the content of a member starts: after the local header, its name and its extra fields. -/
def contentStart (file : ByteArray) (record : Record) : Except Error Nat :=
  let header := record.headerOffset
  if reach ≤ header then .error .offsetOutOfReach
  else if standsAt localMark file header && header + 30 ≤ file.size then
    .ok (header + 30 + number file (header + 26) 2 + number file (header + 28) 2)
  else .error (.invalid .localHeader)

/-- A member whose content was found: where its stored bytes start, and how to read them. -/
structure Located where
  record : Record
  start : Nat
  compressed : Bool

/-- Finds the content of a member in a file, which need not be the one that the record is from. -/
def locate (file : ByteArray) (record : Record) : Except Error Located :=
  if record.needsPassword then .error (.unsupported .password)
  else do
    let start ← contentStart file record
    match record.method, record.enciphered with
    | .stored, false => return { record, start, compressed := false }
    | .deflated, false => return { record, start, compressed := true }
    | .stored, true | .deflated, true => .error .wrongPassword
    | .cipher, _ | .other _, _ => .error (.unsupported .method)

/-- Finds the content of the member at a position of the index. -/
def locateAt (index : Index) (file : ByteArray) (position : Nat) : Except Error Located :=
  match index.records[position]? with
  | none => .error .noSuchMember
  | some record => locate file record

/-- The bytes that a member is stored as, as far as the file holds them. -/
def storedBytes (file : ByteArray) (record : Record) (start : Nat) : ByteArray :=
  file.extract start (start + record.compressedSize)

/-- How the content of a member ends that was decoded completely. -/
def checkedEnding (record : Record) (content : ByteArray) : Stream.Ending :=
  if checksum content = record.checksum then .finished else .failed "Invalid checksum"

/-- How the content of a compressed member ends. -/
def inflatedEnding (record : Record) (inflated : Deflate.Inflated) : Stream.Ending :=
  match inflated.pause with
  | .complete => checkedEnding record inflated.output
  | .full | .exhausted => .cutShort
  | .invalid => .failed "corrupt deflate stream"

/-- The content of a compressed member, asked for with room for `buffer` bytes each time. -/
def inflatedSource (record : Record) (buffer : Nat) (stored : ByteArray) : Stream.Source :=
  let inflated := Deflate.inflate buffer stored
  { deliveries := inflated.pieces.map .chunk
    ending := inflatedEnding record inflated }

/-- The content of a member that was found, asked for with room for `buffer` bytes each time. The
file may have changed since. -/
def Located.source (found : Located) (buffer : Nat) (file : ByteArray) : Stream.Source :=
  let stored := storedBytes file found.record found.start
  if found.compressed then inflatedSource found.record buffer stored
  else ⟨Stream.Source.chunks buffer stored, checkedEnding found.record stored⟩

end Index

/-- What a walk over the records themselves, by their raw names, comes to. -/
inductive Walk where
  | distinct
  | repeated (name : ByteArray)
  | nameCutOff

/-- Walks over records from a position on, as long as there is one, given the raw names seen. The
number of records that the end record tells does not matter here. -/
def walkNames (file : ByteArray) (seen : List ByteArray) (position : Nat) : Walk :=
  if _ : position + recordSize ≤ file.size then
    if standsAt recordMark file position then
      let nameStart := position + recordSize
      let nameEnd := nameStart + number file (position + 28) 2
      if file.size < nameEnd then .nameCutOff
      else
        let name := file.extract nameStart nameEnd
        if seen.contains name then .repeated name
        else
          walkNames file (name :: seen)
            (nameEnd + number file (position + 30) 2 + number file (position + 32) 2)
    else .distinct
  else .distinct
termination_by file.size - position
decreasing_by
  simp only [recordSize] at *
  omega

end WheelInstaller.Container
