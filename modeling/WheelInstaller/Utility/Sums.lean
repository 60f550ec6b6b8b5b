import WheelInstaller.Utility.Fingerprint
import WheelInstaller.Utility.Options
import WheelInstaller.Utility.Quoting

/-! `base64` and `base32`: bytes written with few kinds of characters, and read back. -/

namespace WheelInstaller.Utility.Armor

open Process

/-- A way to write bytes. Every digit stands for some bits; a whole group stands for whole bytes, and a
group that is not full is made up to one. -/
structure Code where
  digits : Raw
  bits : Nat
  group : Nat
  /-- A group that lacks digits at the end of the text is read as far as it goes. -/
  readsParts : Bool

def code64 : Code where
  digits := "ABCDEFGHIJKLMNOPQRSTUVWXYZabcdefghijklmnopqrstuvwxyz0123456789+/".toList
  bits := 6
  group := 4
  readsParts := true

def code32 : Code where
  digits := "ABCDEFGHIJKLMNOPQRSTUVWXYZ234567".toList
  bits := 5
  group := 8
  readsParts := false

namespace Code

/-- How many bytes a whole group stands for. -/
def blockSize (code : Code) : Nat :=
  code.group * code.bits / 8

/-- How many digits some bytes need. -/
def digitCount (code : Code) (bytes : Nat) : Nat :=
  (8 * bytes + code.bits - 1) / code.bits

/-- The digits of a number, the last one first. -/
def writeNumber (code : Code) : (count number : Nat) → Raw
  | 0, _ => []
  | count + 1, number =>
    let base := Nat.pow 2 code.bits
    code.digits.getD (number % base) '=' :: code.writeNumber count (number / base)

def writeGroup (code : Code) (bytes : List UInt8) : Raw :=
  let number := bytes.foldl (fun number byte => 256 * number + byte.toNat) 0
  let count := code.digitCount bytes.length
  let shifted := number * Nat.pow 2 (count * code.bits - 8 * bytes.length)
  (code.writeNumber count shifted).reverse ++ List.replicate (code.group - count) '='

/-- The digits of a text. -/
def write (code : Code) : (fuel : Nat) → List UInt8 → Raw
  | 0, _ | _ + 1, [] => []
  | fuel + 1, bytes =>
    code.writeGroup (bytes.take code.blockSize) ++ code.write fuel (bytes.drop code.blockSize)

/-- The bytes that a group of digits stands for, and whether the group is as it should be. -/
def readGroup (code : Code) (group : Raw) : List UInt8 × Bool :=
  let values := (group.takeWhile code.digits.contains).map fun c => code.digits.idxOf c
  let number := values.foldl (fun number value => Nat.pow 2 code.bits * number + value) 0
  let count := values.length * code.bits / 8
  let number := number / Nat.pow 2 (values.length * code.bits - 8 * count)
  let bytes := (List.range count).map fun place => (number / Nat.pow 256 place).toUInt8
  let isWhole := group.length = code.group
  let isRight := isWhole && count ≠ 0 && code.digitCount count = values.length &&
    (group.drop values.length).all (· = '=')
  if isWhole || code.readsParts then (bytes.reverse, isRight) else ([], false)

/-- The bytes that digits stand for up to the first group that is wrong, and whether there is none. -/
def read (code : Code) : (fuel : Nat) → Raw → List UInt8 × Bool
  | 0, _ | _ + 1, [] => ([], true)
  | fuel + 1, text =>
    let (bytes, isRight) := code.readGroup (text.take code.group)
    if isRight then
      let (rest, isRight) := code.read fuel (text.drop code.group)
      (bytes ++ rest, isRight)
    else (bytes, false)

end Code

structure Settings where
  decodes : Bool := false
  passesOthers : Bool := false
  width : Nat := 76

def options : Options where
  letters := Options.plainLetters "di" ++ Options.valuedLetters "w"
  words := [("decode", .plain, "d"), ("ignore-garbage", .plain, "i"), ("wrap", .valued, "w")]

def Settings.take (settings : Settings) (key : String) (value : Raw) : Utility Settings := do
  match key with
  | "d" => return { settings with decodes := true }
  | "i" => return { settings with passesOthers := true }
  | _ =>
    let digits := match value.dropWhile Raw.isSpace with
      | '+' :: rest => rest
      | rest => rest
    if digits.isEmpty || !digits.all Char.isDigit then
      die 1 ("invalid wrap size: ".toList ++ quoteWord value)
    else
      let width := Raw.digitsValue digits
      return { settings with width := if 0x7fffffffffffffff < width then 0 else width }

def wrap (width : Nat) : (fuel : Nat) → Raw → Raw
  | 0, _ | _ + 1, [] => []
  | fuel + 1, text => text.take width ++ '\n' :: wrap width fuel (text.drop width)

def run (code : Code) (arguments : List Raw) : Utility Unit := do
  let (settings, names) ← readOptions options 1 ({} : Settings) Settings.take arguments
  let name ← match names with
    | [] => pure ['-']
    | [name] => pure name
    | _ :: extra :: _ => misuse 1 ("extra operand ".toList ++ quoteWord extra)
  let isInput : Bool := name == ['-']
  match ← if isInput then pure (.ok input) else openFile name with
  | .error error => die 1 (because (showName name) error)
  | .ok descriptor =>
    match ← readAll descriptor with
    | .error error => die 1 (because "read error".toList error)
    | .ok bytes =>
      if settings.decodes then
        let isKept (c : Char) : Bool :=
          if settings.passesOthers then c = '=' || code.digits.contains c else c ≠ '\n'
        let text := (Raw.ofBytes bytes).filter isKept
        let (decoded, isRight) := code.read (text.length + 1) text
        print (Raw.ofBytes ⟨decoded.toArray⟩)
        if !isRight then die 1 "invalid input".toList
      else
        let text := code.write (bytes.size + 1) bytes.toList
        print (if settings.width = 0 then text else wrap settings.width (text.length + 1) text)

end WheelInstaller.Utility.Armor

/-! `sum` and `cksum`: sums of files that show whether two of them differ. -/

namespace WheelInstaller.Utility.Sums

open Bytes (Digest)
open Process

inductive Kind where
  | rotated
  | plain
  | remainder
  | digest (way : Digest)
deriving DecidableEq, Repr

/-- The sum after a byte, which is turned by a bit before. -/
def rotate (sum : Nat) (byte : UInt8) : Nat :=
  (sum / 2 + sum % 2 * 0x8000 + byte.toNat) % 0x10000

/-- The sum of all bytes in sixteen bits. -/
def fold (bytes : ByteArray) : Nat :=
  let sum := bytes.foldl (fun sum byte => (sum + byte.toNat) % 0x100000000) 0
  let sum := sum % 0x10000 + sum / 0x10000
  sum % 0x10000 + sum / 0x10000

/-- One bit of polynomial division, high bit first. -/
def divideBit (register : UInt32) : UInt32 :=
  if register &&& 0x80000000 == 0 then register <<< 1 else (register <<< 1) ^^^ 0x04c11db7

def divideByte (register : UInt32) (byte : UInt8) : UInt32 :=
  Nat.repeat divideBit 8 (register ^^^ (byte.toUInt32 <<< 24))

/-- The bytes of a number, the lowest first, without those that are zero at the end. -/
def lowBytes : (fuel number : Nat) → List UInt8
  | 0, _ | _ + 1, 0 => []
  | fuel + 1, number => number.toUInt8 :: lowBytes fuel (number / 256)

/-- The remainder of a text and its length. -/
def divide (bytes : ByteArray) : UInt32 :=
  let register := bytes.foldl divideByte 0
  ~~~((lowBytes 8 bytes.size).foldl divideByte register)

/-- What is told about a text in front of its name. -/
def Kind.tell (kind : Kind) (bytes : ByteArray) : Raw :=
  match kind with
  | .rotated =>
    let pad (width : Nat) (fill : Char) (digits : Raw) : Raw := digits.leftpad width fill
    pad 5 '0' (Raw.ofNat (bytes.foldl rotate 0)) ++
      ' ' :: pad 5 ' ' (Raw.ofNat ((bytes.size + 1023) / 1024))
  | .plain => Raw.ofNat (fold bytes) ++ ' ' :: Raw.ofNat ((bytes.size + 511) / 512)
  | .remainder => Raw.ofNat (divide bytes).toNat ++ ' ' :: Raw.ofNat bytes.size
  | .digest way => Fingerprint.hexadecimal (way.ofBytes bytes)

structure Settings where
  kind : Kind
  lines : Fingerprint.Settings := {}
  /-- Digests are written with many kinds of characters. -/
  isShort : Bool := false

def each (settings : Settings) (names : List Raw) : Utility Unit := do
  let isNamed := !names.isEmpty
  let names := if names.isEmpty then [['-']] else names
  names.forM fun name => do
    match ← Fingerprint.readFile name, settings.kind with
    | .error error, _ => fault (because (showName name) error)
    | .ok bytes, .digest way =>
      let value := way.ofBytes bytes
      let text :=
        if settings.isShort then Armor.code64.write (value.size + 1) value.toList
        else Fingerprint.hexadecimal value
      Fingerprint.announce (settings.lines.line way name text)
    | .ok bytes, kind =>
      let shown := if isNamed then ' ' :: name else []
      Fingerprint.announce (kind.tell bytes ++ shown ++ [settings.lines.lineEnd])
  if names.contains ['-'] then
    match ← ask (.close input) with
    | .ok () => pure ()
    | .error error => die 1 (because "standard input".toList error)
  Fingerprint.settle

def sum (arguments : List Raw) : Utility Unit := do
  let options : Options := {
    letters := Options.plainLetters "rs", words := [("sysv", .plain, "s")] }
  let (kind, names) ← readOptions options 1 Kind.rotated
    (fun _ key _ => return if key = "s" then .plain else .rotated) arguments
  each { kind } names

def kinds : List (String × Kind) := [
  ("bsd", .rotated), ("sysv", .plain), ("crc", .remainder), ("md5", .digest .md5),
  ("sha1", .digest .sha1), ("sha224", .digest .sha224), ("sha256", .digest .sha256),
  ("sha384", .digest .sha384), ("sha512", .digest .sha512)]

def Settings.take (settings : Settings) (key : String) (value : Raw) : Utility Settings := do
  let lines := settings.lines
  match key with
  | "a" =>
    let kind ← chooseWord 1 "--algorithm" value kinds
    return { settings with kind }
  | "tag" => return { settings with lines := { lines with hasTags := true } }
  | "untagged" => return { settings with lines := { lines with hasTags := false } }
  | "z" => return { settings with lines := { lines with lineEnd := '\x00' } }
  | _ => return { settings with isShort := true }

def check (arguments : List Raw) : Utility Unit := do
  let options : Options := {
    letters := Options.plainLetters "z" ++ Options.valuedLetters "a"
    words := [
      ("algorithm", .valued, "a"), ("base64", .plain, "base64"), ("tag", .plain, "tag"),
      ("untagged", .plain, "untagged"), ("zero", .plain, "z")] }
  let start : Settings := { kind := .remainder, lines := { hasTags := true } }
  let (settings, names) ← readOptions options 1 start Settings.take arguments
  each settings names

end WheelInstaller.Utility.Sums
