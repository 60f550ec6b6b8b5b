/-! Digests: short texts that stand for long ones. A text is padded to whole blocks of sixteen words,
and each block in turn changes a few words, which are the digest in the end. The constants are digits
of roots of the first primes and of sines, so that nobody could choose them. -/

namespace WheelInstaller.Bytes

/-- A way to make digests. -/
inductive Digest where
  | md5
  | sha1
  | sha224
  | sha256
  | sha384
  | sha512
deriving DecidableEq, Repr

namespace Digest

/-- The largest number whose power by an exponent is at most a bound, by bisection between numbers of
which the first one is known to be small enough and the second one to be too large. -/
def rootBetween (exponent bound : Nat) : (fuel low high : Nat) → Nat
  | 0, low, _ => low
  | fuel + 1, low, high =>
    if high ≤ low + 1 then low
    else
      let middle := (low + high) / 2
      if Nat.pow middle exponent ≤ bound then rootBetween exponent bound fuel middle high
      else rootBetween exponent bound fuel low middle

/-- The first primes. -/
def primes (count : Nat) : List Nat :=
  let isPrime (number : Nat) : Bool :=
    (List.range number).all fun divisor => divisor < 2 || number % divisor ≠ 0
  (((List.range 410).drop 2).filter isPrime).take count

/-- The first binary digits after the point of the roots of primes. -/
def rootDigits (width exponent count : Nat) : List (BitVec width) :=
  (primes count).map fun prime =>
    let bound := prime * Nat.pow 2 (width * exponent)
    BitVec.ofNat width (rootBetween exponent bound (width + 16) 0 (Nat.pow 2 (width + 10)))

/-- The first 32 binary digits after the point of the sine of a number, without its sign. The sum is
taken with 256 digits, of terms each of which comes from the one before it. -/
def sineDigits (number : Nat) : BitVec 32 :=
  let first : Int := number * Nat.pow 2 256
  let next (term : Int) (step : Nat) : Int :=
    -(term * (number * number : Nat)) / ((2 * step + 2) * (2 * step + 3) : Nat)
  let (sum, _) : Int × Int := (List.range 128).foldl (fun (sum, term) step =>
    (sum + next term step, next term step)) (first, first)
  BitVec.ofNat 32 (sum.natAbs / Nat.pow 2 224)

/-- The order of the bytes in a word. -/
inductive Endian where
  | little
  | big
deriving DecidableEq, Repr

def Endian.spread (endian : Endian) (count number : Nat) : List UInt8 :=
  let bytes := (List.range count).map fun place => (number / Nat.pow 256 place).toUInt8
  match endian with
  | .little => bytes
  | .big => bytes.reverse

def Endian.gather (endian : Endian) (bytes : List UInt8) : Nat :=
  let bytes := match endian with
    | .little => bytes.reverse
    | .big => bytes
  bytes.foldl (fun number byte => 256 * number + byte.toNat) 0

/-- The words of a text, from a place on. -/
def words (endian : Endian) (width : Nat) (bytes : ByteArray) (start count : Nat) :
    Array (BitVec width) :=
  Array.ofFn fun (place : Fin count) =>
    let first := start + place.val * (width / 8)
    BitVec.ofNat width (endian.gather (bytes.extract first (first + width / 8)).toList)

/-- A text made up to whole blocks: a bit that is set, bits that are not, and the length in bits. -/
def pad (endian : Endian) (width : Nat) (bytes : ByteArray) : ByteArray :=
  let block := 2 * width
  let room := width / 4
  let filled := (bytes.size + 1 + room) % block
  let gap := if filled = 0 then 0 else block - filled
  let filler := (0x80 : UInt8) :: List.replicate gap 0
  bytes ++ ⟨(filler ++ endian.spread room (8 * bytes.size)).toArray⟩

/-- Changes words by every block of a text in turn. -/
def absorb (endian : Endian) {width : Nat} (change : List (BitVec width) → Array (BitVec width) →
    List (BitVec width)) (start : List (BitVec width)) (bytes : ByteArray) : List (BitVec width) :=
  let padded := pad endian width bytes
  (List.range (padded.size / (2 * width))).foldl (fun current block =>
    let after := change current (words endian width padded (block * (2 * width)) 16)
    List.zipWith (· + ·) current after) start

def spreadWords (endian : Endian) {width : Nat} (words : List (BitVec width)) : ByteArray :=
  ⟨(words.flatMap fun word => endian.spread (width / 8) word.toNat).toArray⟩

/-- The constants of the first kind of digest. -/
def sineTable : Array (BitVec 32) :=
  Array.ofFn fun (place : Fin 64) => sineDigits (place.val + 1)

def changeFour (current : List (BitVec 32)) (block : Array (BitVec 32)) : List (BitVec 32) :=
  (List.range 64).foldl (fun current round =>
    match current with
    | [a, b, c, d] =>
      let (mixed, place, turns) := match round / 16 with
        | 0 => ((b &&& c) ||| (~~~b &&& d), round, [7, 12, 17, 22])
        | 1 => ((d &&& b) ||| (~~~d &&& c), 5 * round + 1, [5, 9, 14, 20])
        | 2 => (b ^^^ c ^^^ d, 3 * round + 5, [4, 11, 16, 23])
        | _ => (c ^^^ (b ||| ~~~d), 7 * round, [6, 10, 15, 21])
      let sum := mixed + a + sineTable.getD round 0 + block.getD (place % 16) 0
      [d, b + sum.rotateLeft (turns.getD (round % 4) 0), b, c]
    | current => current) current

/-- The words from which digests of four and five words start. -/
def fixedStart : List (BitVec 32) :=
  [0x67452301, 0xefcdab89, 0x98badcfe, 0x10325476, 0xc3d2e1f0]

/-- The words of a block and those that are made of them, each by the sixteen before it. -/
def extend {width : Nat} (make : Array (BitVec width) → Nat → BitVec width) (count : Nat)
    (block : Array (BitVec width)) : Array (BitVec width) :=
  ((List.range count).drop 16).foldl (fun made place => made.push (make made place)) block

def changeFive (current : List (BitVec 32)) (block : Array (BitVec 32)) : List (BitVec 32) :=
  let made := extend (fun made place =>
    let back (distance : Nat) : BitVec 32 := made.getD (place - distance) 0
    (back 3 ^^^ back 8 ^^^ back 14 ^^^ back 16).rotateLeft 1) 80 block
  (List.range 80).foldl (fun current round =>
    match current with
    | [a, b, c, d, e] =>
      let (mixed, constant) : BitVec 32 × BitVec 32 := match round / 20 with
        | 0 => ((b &&& c) ||| (~~~b &&& d), 0x5a827999)
        | 1 => (b ^^^ c ^^^ d, 0x6ed9eba1)
        | 2 => ((b &&& c) ||| (b &&& d) ||| (c &&& d), 0x8f1bbcdc)
        | _ => (b ^^^ c ^^^ d, 0xca62c1d6)
      [a.rotateLeft 5 + mixed + e + constant + made.getD round 0, a, b.rotateLeft 30, c, d]
    | current => current) current

/-- How words are mixed in digests of eight words. -/
structure Mixing (width : Nat) where
  /-- The constants, one for each round. -/
  constants : Array (BitVec width)
  /-- How far the first word and the fifth word of the digest are turned. -/
  first : Nat × Nat × Nat
  fifth : Nat × Nat × Nat
  /-- How far earlier words of a block are turned, and shifted in the end. -/
  near : Nat × Nat × Nat
  far : Nat × Nat × Nat

/-- A word turned in three ways at once. -/
def turn {width : Nat} (word : BitVec width) : Nat × Nat × Nat → BitVec width
  | (first, second, third) =>
    word.rotateRight first ^^^ word.rotateRight second ^^^ word.rotateRight third

/-- A word turned in two ways and shifted. -/
def shift {width : Nat} (word : BitVec width) : Nat × Nat × Nat → BitVec width
  | (first, second, third) => word.rotateRight first ^^^ word.rotateRight second ^^^ (word >>> third)

/-- The change that a block makes in a digest of eight words. -/
def Mixing.change {width : Nat} (mixing : Mixing width) (current : List (BitVec width))
    (block : Array (BitVec width)) : List (BitVec width) :=
  let made := extend (fun made place =>
    let back (distance : Nat) : BitVec width := made.getD (place - distance) 0
    back 16 + shift (back 15) mixing.far + back 7 + shift (back 2) mixing.near)
    mixing.constants.size block
  (List.range mixing.constants.size).foldl (fun current round =>
    match current with
    | [a, b, c, d, e, f, g, h] =>
      let choice := (e &&& f) ^^^ (~~~e &&& g)
      let majority := (a &&& b) ^^^ (a &&& c) ^^^ (b &&& c)
      let sum := h + turn e mixing.fifth + choice + mixing.constants.getD round 0 +
        made.getD round 0
      [sum + turn a mixing.first + majority, a, b, c, d + sum, e, f, g]
    | current => current) current

/-- Mixing of words of 32 bits. -/
def mixing32 : Mixing 32 where
  constants := (rootDigits 32 3 64).toArray
  first := (2, 13, 22)
  fifth := (6, 11, 25)
  near := (17, 19, 10)
  far := (7, 18, 3)

/-- Mixing of words of 64 bits. -/
def mixing64 : Mixing 64 where
  constants := (rootDigits 64 3 80).toArray
  first := (28, 34, 39)
  fifth := (14, 18, 41)
  near := (19, 61, 6)
  far := (1, 8, 7)

def shortStart : List (BitVec 64) :=
  (rootDigits 64 2 16).drop 8

def ofBytes (digest : Digest) (bytes : ByteArray) : ByteArray :=
  match digest with
  | .md5 => spreadWords .little (absorb .little changeFour (fixedStart.take 4) bytes)
  | .sha1 => spreadWords .big (absorb .big changeFive fixedStart bytes)
  | .sha224 =>
    let start := shortStart.map fun word => word.setWidth 32
    (spreadWords .big (absorb .big mixing32.change start bytes)).extract 0 28
  | .sha256 => spreadWords .big (absorb .big mixing32.change (rootDigits 32 2 8) bytes)
  | .sha384 => (spreadWords .big (absorb .big mixing64.change shortStart bytes)).extract 0 48
  | .sha512 => spreadWords .big (absorb .big mixing64.change (rootDigits 64 2 8) bytes)

def size : Digest → Nat
  | .md5 => 16
  | .sha1 => 20
  | .sha224 => 28
  | .sha256 => 32
  | .sha384 => 48
  | .sha512 => 64

end Digest
end WheelInstaller.Bytes
