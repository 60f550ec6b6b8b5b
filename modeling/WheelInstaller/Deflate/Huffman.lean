/-! The bits of a compressed stream, each byte's least significant bit first. Reading either
gives a value and the bits after it, or stops: because the bits run out, or because no
compressor could have written them. -/

namespace WheelInstaller.Deflate

/-- What is left of a stream: the bits of a byte sequence from a position up to a limit, both
counted in bits. -/
structure Bits where
  bytes : ByteArray
  position : Nat
  limit : Nat

/-- Why decoding stops before the end of a stream. -/
inductive Stop where
  | exhausted
  | invalid
deriving DecidableEq, Repr

namespace Bits

/-- How many bits are left. -/
def left (bits : Bits) : Nat :=
  bits.limit - bits.position

def next (bits : Bits) : Bool :=
  (bits.bytes[bits.position / 8]?.getD 0).toNat.testBit (bits.position % 8)

/-- What is left after so many bits. -/
def skip (bits : Bits) (count : Nat) : Bits :=
  { bits with position := bits.position + count }

/-- What is left from the next byte border on. -/
def align (bits : Bits) : Bits :=
  { bits with position := (bits.position + 7) / 8 * 8 }

theorem left_skip (bits : Bits) (count : Nat) : (bits.skip count).left = bits.left - count := by
  simp only [left, skip]
  omega

theorem left_align (bits : Bits) : bits.align.left ≤ bits.left := by
  simp only [left, align]
  omega

end Bits

/-- The number in the next `width` bits, the least significant first. -/
def takeNumber : Nat → Bits → Except Stop (Nat × Bits)
  | 0, bits => .ok (0, bits)
  | width + 1, bits =>
    if bits.left = 0 then .error .exhausted
    else do
      let (high, rest) ← takeNumber width (bits.skip 1)
      return (bits.next.toNat + 2 * high, rest)

/-- Reading a number takes exactly its bits. -/
theorem left_of_takeNumber {width : Nat} {bits rest : Bits} {value : Nat}
    (read : takeNumber width bits = .ok (value, rest)) : rest.left + width = bits.left := by
  induction width generalizing bits value with
  | zero => cases read; rfl
  | succ width ih =>
    simp only [takeNumber, bind, Except.bind, pure, Except.pure] at read
    split at read
    · cases read
    · split at read
      · cases read
      · rename_i pair inner
        cases read
        have := ih inner
        have := bits.left_skip 1
        omega

end WheelInstaller.Deflate

/-! Canonical prefix codes. A code is given by the length of every symbol's code word; words of
one length are consecutive numbers in symbol order, and follow the shorter ones. -/

namespace WheelInstaller.Deflate

/-- A prefix code: how many words there are of each length, from length one on, and the symbols
in the order of their words. -/
structure PrefixCode where
  counts : List Nat
  symbols : Array Nat

namespace PrefixCode

/-- The longest word a code may have. -/
def longestWord : Nat := 15

/-- How many of the lengths are `length`. -/
def countOf (lengths : List Nat) (length : Nat) : Nat :=
  lengths.count length

/-- The symbols with words of one length, in symbol order. -/
def symbolsOf (lengths : List Nat) (length : Nat) : List Nat :=
  lengths.zipIdx.filterMap fun (wordLength, symbol) =>
    if wordLength = length then some symbol else none

/-- The code with these word lengths; length zero means that a symbol has no word. -/
def ofLengths (lengths : List Nat) : PrefixCode where
  counts := (List.range (max 1 (lengths.foldl max 0))).map fun length =>
    countOf lengths (length + 1)
  symbols := ((List.range longestWord).flatMap fun length =>
    symbolsOf lengths (length + 1)).toArray

/-- The words still free after those of each length are taken, out of `free` words one bit
shorter; `none` if there are not enough. -/
def wordsLeft (free : Nat) : List Nat → Option Nat
  | [] => some free
  | count :: longer =>
    if 2 * free < count then none else wordsLeft (2 * free - count) longer

/-- Every bit sequence starts with a word. -/
def isComplete (code : PrefixCode) : Bool :=
  wordsLeft 1 code.counts = some 0

/-- A code is usable if it is complete. A code of at most one word, of one bit, is usable too:
the other bit is then no word. -/
def isUsable (code : PrefixCode) : Bool :=
  code.isComplete || (code.counts.length ≤ 1 && (wordsLeft 1 code.counts).isSome)

/-- Reads on in a word. Among the words of the length reached, the first has number `first`, and
its symbol stands at `index`; `word` is the number of the bits read so far, doubled. -/
def readWord (symbols : Array Nat) :
    List Nat → (word first index : Nat) → Bits → Except Stop (Nat × Bits)
  | [], _, _, _, _ => .error .invalid
  | count :: longer, word, first, index, bits =>
    if bits.left = 0 then .error .exhausted
    else
      let word := word + bits.next.toNat
      let rest := bits.skip 1
      if word < first + count then .ok (symbols.getD (index + (word - first)) 0, rest)
      else readWord symbols longer (2 * word) (2 * (first + count)) (index + count) rest

/-- The next symbol of a stream. -/
def read (code : PrefixCode) (bits : Bits) : Except Stop (Nat × Bits) :=
  readWord code.symbols code.counts 0 0 0 bits

theorem left_of_readWord {symbols : Array Nat} {counts : List Nat} {word first index : Nat}
    {bits rest : Bits} {symbol : Nat}
    (found : readWord symbols counts word first index bits = .ok (symbol, rest)) :
    rest.left < bits.left := by
  induction counts generalizing word first index bits with
  | nil => cases found
  | cons count longer ih =>
    have := bits.left_skip 1
    simp only [readWord] at found
    split at found
    · cases found
    · split at found
      · cases found
        omega
      · have := ih found
        omega

/-- A symbol takes at least one bit. -/
theorem left_of_read {code : PrefixCode} {bits rest : Bits} {symbol : Nat}
    (found : code.read bits = .ok (symbol, rest)) : rest.left < bits.left :=
  left_of_readWord found

end PrefixCode
end WheelInstaller.Deflate
