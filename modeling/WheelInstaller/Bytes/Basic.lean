/-! Numbers stored with their least significant byte first, and marks in a file. -/

namespace WheelInstaller.Bytes

/-- The number whose digits to base 256 are the bytes, the least significant first. -/
def littleEndian : List UInt8 → Nat
  | [] => 0
  | byte :: rest => byte.toNat + 256 * littleEndian rest

/-- The number stored in the `width` bytes from `offset` on; missing bytes count as zero. -/
def number (file : ByteArray) (offset width : Nat) : Nat :=
  littleEndian (file.extract offset (offset + width)).data.toList

/-- Whether exactly these bytes stand at `offset`. -/
def standsAt (mark : List UInt8) (file : ByteArray) (offset : Nat) : Bool :=
  (file.extract offset (offset + mark.length)).data.toList = mark

/-- The first place in `[start, start + count)` where the mark stands. -/
def findForward (mark : List UInt8) (file : ByteArray) (start : Nat) : Nat → Option Nat
  | 0 => none
  | count + 1 =>
    if standsAt mark file start then some start
    else findForward mark file (start + 1) count

end WheelInstaller.Bytes

/-! The 32-bit cyclic redundancy check that archives keep of every member. -/

namespace WheelInstaller.Bytes

/-- One bit of polynomial division, low bit first. -/
def checksumBit (register : UInt32) : UInt32 :=
  if register &&& 1 == 1 then (register >>> 1) ^^^ 0xEDB88320 else register >>> 1

def checksumByte (byte : UInt32) : UInt32 :=
  Nat.repeat checksumBit 8 byte

/-- The division of every byte, tabulated. -/
def checksumTable : Array UInt32 :=
  ((List.range 256).map fun byte => checksumByte byte.toUInt32).toArray

def checksumStep (register : UInt32) (byte : UInt8) : UInt32 :=
  (register >>> 8) ^^^ checksumTable.getD ((register ^^^ byte.toUInt32) &&& 0xFF).toNat 0

def checksum (bytes : ByteArray) : UInt32 :=
  bytes.foldl checksumStep 0xFFFFFFFF ^^^ 0xFFFFFFFF

end WheelInstaller.Bytes
