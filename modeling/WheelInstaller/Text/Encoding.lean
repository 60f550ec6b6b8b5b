/-! Reading UTF-8. A byte sequence either starts with a complete character, or with a defect:
the longest start that could still have become a character, which is then one replacement
character in a lenient reading, and the reported flaw in a strict one. -/

namespace WheelInstaller.Text.Utf8

def isContinuation (byte : UInt8) : Bool :=
  0x80 ≤ byte && byte ≤ 0xBF

/-- Which second bytes may follow the first byte of a longer character: overlong forms,
surrogates and numbers beyond the last code point are excluded here. -/
def allowsSecond (first second : UInt8) : Bool :=
  if first == 0xE0 then 0xA0 ≤ second && second ≤ 0xBF
  else if first == 0xED then 0x80 ≤ second && second ≤ 0x9F
  else if first == 0xF0 then 0x90 ≤ second && second ≤ 0xBF
  else if first == 0xF4 then 0x80 ≤ second && second ≤ 0x8F
  else isContinuation second

/-- How many bytes a character takes that starts with this byte; none can start with others. -/
def width (first : UInt8) : Nat :=
  if first < 0x80 then 1
  else if first < 0xC2 then 0
  else if first < 0xE0 then 2
  else if first < 0xF0 then 3
  else if first < 0xF5 then 4
  else 0

/-- The six bits a continuation byte carries. -/
def payload (byte : UInt8) : Nat :=
  byte.toNat % 64

/-- What a non-empty byte sequence starts with. -/
inductive Head where
  /-- A character of this many bytes. -/
  | character (value : Char) (size : Nat)
  /-- Bytes that no continuation can repair. -/
  | defect (size : Nat)
  /-- The beginning of a character, cut off by the end of the input after this many bytes. -/
  | incomplete (size : Nat)

/-- Reads the first character of `first :: rest`. -/
def head (first : UInt8) (rest : List UInt8) : Head :=
  match width first, rest with
  | 1, _ => .character (Char.ofNat first.toNat) 1
  | 2, [] => .incomplete 1
  | 2, second :: _ =>
    if isContinuation second then
      .character (Char.ofNat ((first.toNat % 32) * 64 + payload second)) 2
    else .defect 1
  | 3, [] => .incomplete 1
  | 3, second :: rest =>
    if allowsSecond first second then
      match rest with
      | [] => .incomplete 2
      | third :: _ =>
        if isContinuation third then
          .character (Char.ofNat
            ((first.toNat % 16) * 4096 + payload second * 64 + payload third)) 3
        else .defect 2
    else .defect 1
  | 4, [] => .incomplete 1
  | 4, second :: rest =>
    if allowsSecond first second then
      match rest with
      | [] => .incomplete 2
      | third :: rest =>
        if isContinuation third then
          match rest with
          | [] => .incomplete 3
          | fourth :: _ =>
            if isContinuation fourth then
              .character (Char.ofNat ((first.toNat % 8) * 262144 + payload second * 4096 +
                payload third * 64 + payload fourth)) 4
            else .defect 3
        else .defect 2
    else .defect 1
  | _, _ => .defect 1

/-- The character that stands for bytes which are none. -/
def replacement : Char := '\uFFFD'

/-- Every byte sequence as text: each defect becomes one replacement character. -/
def decodeLossy : List UInt8 → List Char
  | [] => []
  | first :: rest =>
    match head first rest with
    | .character value size => value :: decodeLossy (rest.drop (size - 1))
    | .defect size | .incomplete size => replacement :: decodeLossy (rest.drop (size - 1))
termination_by bytes => bytes.length
decreasing_by all_goals simp only [List.length_drop, List.length_cons]; omega

inductive Flaw where
  /-- This many bytes, from this position on, are no character. -/
  | invalid (position size : Nat)
  /-- The input ends inside the character that starts at this position. -/
  | cutOff (position : Nat)
deriving DecidableEq, Repr

def Flaw.message : Flaw → String
  | .invalid position size => s!"invalid utf-8 sequence of {size} bytes from index {position}"
  | .cutOff position => s!"incomplete utf-8 byte sequence from index {position}"

/-- The text of a byte sequence that starts at `position` of the input, or its first flaw. -/
def decodeFrom (position : Nat) : List UInt8 → Except Flaw (List Char)
  | [] => .ok []
  | first :: rest =>
    match head first rest with
    | .character value size => do
      let text ← decodeFrom (position + size) (rest.drop (size - 1))
      return value :: text
    | .defect size => .error (.invalid position size)
    | .incomplete _ => .error (.cutOff position)
termination_by bytes => bytes.length
decreasing_by all_goals simp only [List.length_drop, List.length_cons]; omega

/-- The text of a byte sequence, or its first flaw. -/
def decode (bytes : ByteArray) : Except Flaw String :=
  (decodeFrom 0 bytes.data.toList).map String.ofList

/-- The text of a byte sequence, with replacement characters where it is flawed. -/
def decodeLenient (bytes : ByteArray) : String :=
  String.ofList (decodeLossy bytes.data.toList)

end WheelInstaller.Text.Utf8

/-! The character set of names in old archives: code page 437, whose lower half is ASCII. -/

namespace WheelInstaller.Text.CodePage437

/-- The code points of the bytes from 0x80 on. -/
def upperHalf : List Nat := [
  0x00C7, 0x00FC, 0x00E9, 0x00E2, 0x00E4, 0x00E0, 0x00E5, 0x00E7,
  0x00EA, 0x00EB, 0x00E8, 0x00EF, 0x00EE, 0x00EC, 0x00C4, 0x00C5,
  0x00C9, 0x00E6, 0x00C6, 0x00F4, 0x00F6, 0x00F2, 0x00FB, 0x00F9,
  0x00FF, 0x00D6, 0x00DC, 0x00A2, 0x00A3, 0x00A5, 0x20A7, 0x0192,
  0x00E1, 0x00ED, 0x00F3, 0x00FA, 0x00F1, 0x00D1, 0x00AA, 0x00BA,
  0x00BF, 0x2310, 0x00AC, 0x00BD, 0x00BC, 0x00A1, 0x00AB, 0x00BB,
  0x2591, 0x2592, 0x2593, 0x2502, 0x2524, 0x2561, 0x2562, 0x2556,
  0x2555, 0x2563, 0x2551, 0x2557, 0x255D, 0x255C, 0x255B, 0x2510,
  0x2514, 0x2534, 0x252C, 0x251C, 0x2500, 0x253C, 0x255E, 0x255F,
  0x255A, 0x2554, 0x2569, 0x2566, 0x2560, 0x2550, 0x256C, 0x2567,
  0x2568, 0x2564, 0x2565, 0x2559, 0x2558, 0x2552, 0x2553, 0x256B,
  0x256A, 0x2518, 0x250C, 0x2588, 0x2584, 0x258C, 0x2590, 0x2580,
  0x03B1, 0x00DF, 0x0393, 0x03C0, 0x03A3, 0x03C3, 0x00B5, 0x03C4,
  0x03A6, 0x0398, 0x03A9, 0x03B4, 0x221E, 0x03C6, 0x03B5, 0x2229,
  0x2261, 0x00B1, 0x2265, 0x2264, 0x2320, 0x2321, 0x00F7, 0x2248,
  0x00B0, 0x2219, 0x00B7, 0x221A, 0x207F, 0x00B2, 0x25A0, 0x00A0]

def character (byte : UInt8) : Char :=
  if byte < 0x80 then Char.ofNat byte.toNat
  else Char.ofNat (upperHalf.getD (byte.toNat - 0x80) 0)

def decode (bytes : ByteArray) : String :=
  String.ofList (bytes.data.toList.map character)

end WheelInstaller.Text.CodePage437

/-! Raw texts. Programs of the system work on bytes, whatever these encode, so their texts are lists
of characters of which each stands for the byte of its number. -/

namespace WheelInstaller

/-- A text whose characters stand for bytes. -/
abbrev Raw := List Char

namespace Raw

def ofBytes (bytes : ByteArray) : Raw :=
  bytes.data.toList.map Char.ofUInt8

def toBytes (text : Raw) : ByteArray :=
  text.foldl (fun bytes c => bytes.push c.toUInt8) .empty

def ofString (text : String) : Raw :=
  ofBytes text.toUTF8

def toString (text : Raw) : String :=
  if text.all fun c => c.toNat < 128 then String.ofList text
  else Text.Utf8.decodeLenient (toBytes text)

def ofNat (number : Nat) : Raw :=
  Nat.toDigits 10 number

/-- A number in decimal digits, with a sign if it is negative. -/
def ofInt (number : Int) : Raw :=
  if number < 0 then '-' :: ofNat number.natAbs else ofNat number.natAbs

def digitsValue (digits : Raw) : Nat :=
  digits.foldl (fun value c => 10 * value + (c.toNat - '0'.toNat)) 0

/-- The texts between separators, with those found before and the characters of the current one, the
latest first. -/
def splitFrom (separator : Char) (found : List Raw) (current : Raw) : Raw → List Raw
  | [] => (current.reverse :: found).reverse
  | c :: rest =>
    if c = separator then splitFrom separator (current.reverse :: found) [] rest
    else splitFrom separator found (c :: current) rest

def split (separator : Char) (text : Raw) : List Raw :=
  splitFrom separator [] [] text

/-- The lines of a text, of which the last one may lack its end. -/
def lines (lineEnd : Char) (text : Raw) : List Raw :=
  if text.isEmpty then []
  else split lineEnd (if text.getLast? = some lineEnd then text.dropLast else text)

/-- The texts in one, with a separator between neighbours. -/
def join (separator : Raw) (texts : List Raw) : Raw :=
  ((texts.map fun text => separator ++ text).flatten).drop separator.length

/-- The text before and after the first separator, if there is one. -/
def splitAt? (separator : Char) (text : Raw) : Option (Raw × Raw) :=
  let before := text.takeWhile (· ≠ separator)
  match text.drop before.length with
  | [] => none
  | _ :: after => some (before, after)

/-- The text without characters of a kind at its end. -/
def dropEndWhile (kind : Char → Bool) (text : Raw) : Raw :=
  (text.reverse.dropWhile kind).reverse

/-- White space, as programs know it. -/
def isSpace (c : Char) : Bool :=
  c = ' ' || ('\t' ≤ c && c ≤ '\r')

def classTest? (name : Raw) : Option (Char → Bool) :=
  match String.ofList name with
  | "alnum" => some Char.isAlphanum
  | "alpha" => some Char.isAlpha
  | "blank" => some fun c => c = ' ' || c = '\t'
  | "cntrl" => some fun c => c < ' ' || c = '\x7f'
  | "digit" => some Char.isDigit
  | "graph" => some fun c => '!' ≤ c && c ≤ '~'
  | "lower" => some Char.isLower
  | "print" => some fun c => ' ' ≤ c && c ≤ '~'
  | "punct" => some fun c => '!' ≤ c && c ≤ '~' && !c.isAlphanum
  | "space" => some isSpace
  | "upper" => some Char.isUpper
  | "xdigit" => some fun c => c.isDigit || ('a' ≤ c && c ≤ 'f') || ('A' ≤ c && c ≤ 'F')
  | _ => none

def order (first second : Raw) : Ordering :=
  List.compareLex compare first second

def isAtMost (first second : Raw) : Bool :=
  (order first second).isLE

end Raw
end WheelInstaller
