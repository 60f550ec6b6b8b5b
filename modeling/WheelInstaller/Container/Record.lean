import WheelInstaller.Bytes.Basic
import WheelInstaller.Container.EndRecord
import WheelInstaller.Container.Error
import WheelInstaller.Text.Encoding

/-! Records of the central directory. A record is the authority on a member: its sizes, checksum
and method count, not those of the member's local header. -/

namespace WheelInstaller.Container

/-- How a member is compressed. -/
inductive Method where
  | stored
  | deflated
  | cipher
  | other (code : Nat)
deriving DecidableEq, Repr

def Method.ofCode : Nat → Method
  | 0 => .stored
  | 8 => .deflated
  | 99 => .cipher
  | code => .other code

/-- A record of the central directory. -/
structure Record where
  rawName : ByteArray
  name : String
  comment : String
  flags : Nat
  system : Nat
  method : Method
  checksum : UInt32
  compressedSize : Nat
  size : Nat
  headerOffset : Nat
  attributes : Nat
  enciphered : Bool := false

namespace Record

/-- The member cannot be read without a password. -/
def needsPassword (record : Record) : Bool :=
  record.flags % 2 = 1

/-- A member whose name ends in a slash of either kind is a directory. -/
def isDirectory (record : Record) : Bool :=
  record.name.toList.getLast?.any fun c => c = '/' || c = '\\'

/-- The permissions and kind of a member, as far as the record tells them. Attributes of the system
that first used such archives say only whether a member is a directory or read-only. -/
def unixMode? (record : Record) : Option Nat :=
  if record.attributes = 0 then none
  else if record.attributes / 65536 ≠ 0 then some (record.attributes / 65536)
  else if record.system = 3 then some 0
  else if record.system = 0 then
    let mode := if record.attributes.testBit 4 then 0o40775 else 0o100664
    some (if record.attributes.testBit 0 then mode &&& 0o777555 else mode)
  else none

/-- The text of a raw name or comment. -/
def decodeText (flags : Nat) (raw : ByteArray) : String :=
  if flags.testBit 11 then Text.Utf8.decodeLenient raw else Text.CodePage437.decode raw

end Record
end WheelInstaller.Container

/-! Extra fields of a record. A field has a kind, a length and content. Some kinds replace what the
record itself says: its sizes and offset, its name, its comment or its method. Fields with times are
only checked. Each kind has its own way to fail when it is too short. -/

namespace WheelInstaller.Container.Record

open Bytes

/-- The field that holds numbers too large for their place in the record. -/
def largeNumbersField : Nat := 0x0001

/-- The field that holds three times in steps of a tenth of a microsecond. -/
def fineTimesField : Nat := 0x000a

/-- The field that holds up to three times in seconds. -/
def timesField : Nat := 0x5455

/-- The field that holds the comment as Unicode text. -/
def unicodeCommentField : Nat := 0x6375

/-- The field that holds the name as Unicode text. -/
def unicodeNameField : Nat := 0x7075

/-- The field that tells how a member is enciphered. -/
def cipherField : Nat := 0x9901

/-- The first `count` bytes, which have to be there, and the rest. -/
def takeBytes (count : Nat) (bytes : List UInt8) : Except Error (List UInt8 × List UInt8) :=
  if bytes.length < count then .error .unexpectedEnd else .ok (bytes.take count, bytes.drop count)

/-- The number in the first `width` bytes, which have to be there, and the rest. -/
def takeNumber (width : Nat) (bytes : List UInt8) : Except Error (Nat × List UInt8) := do
  let (digits, rest) ← takeBytes width bytes
  return (littleEndian digits, rest)

/-- A number too large for its place is replaced by the largest that fits. -/
def isPlaceholder (value : Nat) : Bool :=
  value = 0xFFFFFFFF

/-- Reads a number of eight bytes where one is due, and keeps the old value elsewhere. -/
def readLarge (due : Bool) (old : Nat) (bytes : List UInt8) : Except Error (Nat × List UInt8) :=
  if !due then .ok (old, bytes)
  else if bytes.length < 8 then .error (.invalid .extraField)
  else .ok (littleEndian (bytes.take 8), bytes.drop 8)

/-- Applies the field for large numbers: size, compressed size and offset in this order, each only
if its place holds a placeholder, or all of them if the field has room for all. -/
def applyLargeNumbers (record : Record) (length : Nat) (bytes : List UInt8) :
    Except Error Record := do
  let all := 24 ≤ length
  let (size, rest) ← readLarge (all || isPlaceholder record.size) record.size bytes
  let (compressedSize, rest) ←
    readLarge (all || isPlaceholder record.compressedSize) record.compressedSize rest
  let (headerOffset, rest) ←
    readLarge (all || isPlaceholder record.headerOffset) record.headerOffset rest
  if length < bytes.length - rest.length || bytes.length < length then
    .error (.invalid .extraField)
  else return { record with size, compressedSize, headerOffset }

/-- Checks the field with fine times, of which there is only one form: four bytes that mean nothing,
the attribute with number 1, its size, and three times of eight bytes. -/
def checkFineTimes (length : Nat) (bytes : List UInt8) : Except Error Unit := do
  if length ≠ 32 then .error (.unsupported .fineTimesLength)
  else
    let (_, rest) ← takeBytes 4 bytes
    let (kind, rest) ← takeNumber 2 rest
    if kind ≠ 1 then .error (.unsupported .fineTimesAttribute)
    else
      let (size, rest) ← takeNumber 2 rest
      if size ≠ 24 then .error (.unsupported .fineTimesSize)
      else
        let _ ← takeBytes 24 rest
        return ()

/-- How many bits of a byte are set. -/
def setBits (byte : UInt8) : Nat :=
  (List.range 8).countP byte.toNat.testBit

/-- Checks the field with times: a byte with one bit for each time that the local header has, and
the times. A single time may stand there whatever the bits say. -/
def checkTimes (length : Nat) (bytes : List UInt8) : Except Error Unit :=
  match length, bytes with
  | 0, _ => .error (.invalid .extraField)
  | _, [] => .error .unexpectedEnd
  | _, marks :: _ =>
    if length ≠ 5 && length ≠ 1 + 4 * setBits marks then .error .timesLength
    else (takeBytes length bytes).map fun _ => ()

/-- The Unicode text of a field: after a version that means nothing, the checksum of the text that
it replaces, and the text itself. -/
def unicodeText (replaced : ByteArray) (length : Nat) (bytes : List UInt8) :
    Except Error (ByteArray × String) := do
  let (_, rest) ← takeBytes 1 bytes
  let (told, rest) ← takeNumber 4 rest
  if length < 5 then .error (.invalid .unicodeText)
  else
    let (content, _) ← takeBytes (length - 5) rest
    let raw : ByteArray := ⟨content.toArray⟩
    if told ≠ (Bytes.checksum replaced).toNat then .error (.invalid .unicodeText)
    else
      match String.fromUTF8? raw with
      | none => .error (.invalid .unicodeText)
      | some text => return (raw, text)

/-- Applies the field with the Unicode name, which counts only for the raw name it was made for. -/
def applyUnicodeName (record : Record) (length : Nat) (bytes : List UInt8) :
    Except Error Record := do
  let (rawName, name) ← unicodeText record.rawName length bytes
  return { record with rawName, name }

/-- Applies the field with the Unicode comment, which counts only for the comment, as it was
decoded, that it was made for. -/
def applyUnicodeComment (record : Record) (length : Nat) (bytes : List UInt8) :
    Except Error Record := do
  let (_, comment) ← unicodeText record.comment.toUTF8 length bytes
  return { record with comment }

/-- Applies the field for enciphered members, which brings the real method. -/
def applyCipher (record : Record) (length : Nat) (bytes : List UInt8) : Except Error Record := do
  if length ≠ 7 then .error (.unsupported .cipherFieldLength)
  else
    let (version, rest) ← takeNumber 2 bytes
    let (vendor, rest) ← takeNumber 2 rest
    match rest with
    | [] => .error (.invalid .cipherField)
    | strength :: rest =>
      let (method, _) ← takeNumber 2 rest
      if vendor = 0x4541 && 1 ≤ version && version ≤ 2 && 1 ≤ strength && strength ≤ 3 then
        return { record with enciphered := true, method := Method.ofCode method }
      else .error (.invalid .cipherField)

/-- Applies one extra field with the given content; `bytes` starts with it. -/
def applyExtra (record : Record) (kind length : Nat) (bytes : List UInt8) : Except Error Record :=
  if kind = largeNumbersField then record.applyLargeNumbers length bytes
  else if kind = fineTimesField then (checkFineTimes length bytes).map fun () => record
  else if kind = timesField then (checkTimes length bytes).map fun () => record
  else if kind = unicodeCommentField then record.applyUnicodeComment length bytes
  else if kind = unicodeNameField then record.applyUnicodeName length bytes
  else if kind = cipherField then record.applyCipher length bytes
  else if bytes.length < length then .error (.invalid .extraField)
  else .ok record

/-- Applies all extra fields. A single byte at the end is ignored. -/
def applyExtras (record : Record) : List UInt8 → Except Error Record
  | kind :: kind' :: length :: length' :: rest => do
    let size := littleEndian [length, length']
    let record ← record.applyExtra (littleEndian [kind, kind']) size rest
    record.applyExtras (rest.drop size)
  | [] | [_] => .ok record
  | _ => .error (.invalid .extraField)
termination_by bytes => bytes.length
decreasing_by simp only [List.length_cons, List.length_drop]; omega

end WheelInstaller.Container.Record

/-! Records as they stand in the file, one after the other. -/

namespace WheelInstaller.Container.Record

open Bytes

/-- Offsets are stored in eight bytes. -/
def offsetLimit : Nat := 0x10000000000000000

/-- The record after its extra fields, with its offset counted from the start of the file. -/
def finish (archiveOffset : Nat) (record : Record) : Except Error Record :=
  if record.method = .cipher && !record.enciphered then .error (.invalid .cipherMissing)
  else if offsetLimit ≤ record.headerOffset + archiveOffset then .error (.invalid .offsetOverflow)
  else .ok { record with headerOffset := record.headerOffset + archiveOffset }

/-- Reads the record at a position, and the position after it. -/
def read (file : ByteArray) (archiveOffset position : Nat) : Except Error (Record × Nat) := do
  if !(standsAt recordMark file position && position + recordSize ≤ file.size) then
    .error (.invalid .directoryRecord)
  else
    let nameLength := number file (position + 28) 2
    let extraLength := number file (position + 30) 2
    let commentLength := number file (position + 32) 2
    let nameStart := position + recordSize
    let extraStart := nameStart + nameLength
    let next := extraStart + extraLength + commentLength
    if file.size < next then .error (.invalid .directoryRecord)
    else
      let flags := number file (position + 8) 2
      let rawName := file.extract nameStart extraStart
      let comment := file.extract (extraStart + extraLength) next
      let record : Record := {
        rawName
        name := decodeText flags rawName
        comment := decodeText flags comment
        flags
        system := number file (position + 5) 1
        method := Method.ofCode (number file (position + 10) 2)
        checksum := (number file (position + 16) 4).toUInt32
        compressedSize := number file (position + 20) 4
        size := number file (position + 24) 4
        headerOffset := number file (position + 42) 4
        attributes := number file (position + 38) 4 }
      let extras := (file.extract extraStart (extraStart + extraLength)).data.toList
      let record ← record.applyExtras extras
      let record ← record.finish archiveOffset
      return (record, next)

def readAll (file : ByteArray) (archiveOffset : Nat) :
    (count position : Nat) → Except Error (List Record)
  | 0, _ => .ok []
  | count + 1, position => do
    let (record, next) ← read file archiveOffset position
    let records ← readAll file archiveOffset count next
    return record :: records

end WheelInstaller.Container.Record
