import WheelInstaller.Deflate.Block

/-! The steps of decompression. A deflate stream is a sequence of blocks, each stored as it is, or
coded with prefix codes for literals, match lengths and match distances. A step reads the header of
a block, or what brings a few bytes. -/

namespace WheelInstaller.Deflate

/-- What a step of decoding adds to the output. -/
inductive Addition where
  | nothing
  | literal (byte : UInt8)
  /-- Bytes from further up in the output. -/
  | copy (length distance : Nat)

namespace Addition

/-- How many bytes an addition brings. -/
def size : Addition → Nat
  | .nothing => 0
  | .literal _ => 1
  | .copy length _ => length

/-- How far back in the output an addition reaches. -/
def reach : Addition → Nat
  | .nothing | .literal _ => 0
  | .copy _ distance => distance

/-- What is left of an addition after its first `count` bytes. -/
def drop (count : Nat) : Addition → Addition
  | .nothing => .nothing
  | .literal byte => if count = 0 then .literal byte else .nothing
  | .copy length distance => .copy (length - count) distance

theorem size_drop (count : Nat) (addition : Addition) :
    (addition.drop count).size = addition.size - count := by
  cases addition with
  | nothing => simp [drop, size]
  | literal byte =>
    simp only [drop]
    split <;> simp only [size] <;> omega
  | copy length distance => rfl

/-- Repeats `count` bytes that start `distance` bytes before the end of the output; the bytes
repeated may be among those just written. -/
def repeatBytes (distance : Nat) : Nat → ByteArray → ByteArray
  | 0, output => output
  | count + 1, output =>
    repeatBytes distance count (output.push (output[output.size - distance]?.getD 0))

/-- Puts out the first `count` bytes of an addition. -/
def put (count : Nat) (output : ByteArray) : Addition → ByteArray
  | .nothing => output
  | .literal byte => if count = 0 then output else output.push byte
  | .copy length distance => repeatBytes distance (min count length) output

end Addition

/-- Where in a stream decoding has got to. -/
inductive Mode where
  /-- Before a block. -/
  | header
  /-- In a stored block with so many bytes left, one of them at least. -/
  | stored (count : Nat) (final : Bool)
  /-- In a compressed block. -/
  | coded (codes : BlockCodes) (final : Bool)
  /-- After the final block. -/
  | complete

/-- Where decoding has got to at the end of a block. -/
def Mode.afterBlock (final : Bool) : Mode :=
  if final then .complete else .header

/-- Reads the start of a stored block: its length and the complement, from a byte border on. -/
def readStored (final : Bool) (bits : Bits) : Except Stop (Mode × Bits) := do
  let (length, rest) ← takeNumber 16 bits.align
  let (complement, rest) ← takeNumber 16 rest
  if length + complement ≠ 0xFFFF then .error .invalid
  else return (if length = 0 then .afterBlock final else .stored length final, rest)

theorem left_of_readStored {final : Bool} {mode : Mode} {bits rest : Bits}
    (found : readStored final bits = .ok (mode, rest)) : rest.left ≤ bits.left := by
  simp only [readStored, bind, Except.bind, pure, Except.pure] at found
  split at found
  · cases found
  · rename_i length taken
    have := left_of_takeNumber taken
    have := bits.left_align
    split at found
    · cases found
    · rename_i complement taken
      have := left_of_takeNumber taken
      split at found
      · cases found
      · cases found
        omega

/-- Reads what stands before the content of a block of the given kind. -/
def readStart (kind : Nat) (final : Bool) (bits : Bits) : Except Stop (Mode × Bits) :=
  if kind = 0 then readStored final bits
  else if kind = 1 then .ok (.coded fixedCodes final, bits)
  else if kind = 2 then do
    let (codes, rest) ← readCodes bits
    return (.coded codes final, rest)
  else .error .invalid

theorem left_of_readStart {kind : Nat} {final : Bool} {mode : Mode} {bits rest : Bits}
    (found : readStart kind final bits = .ok (mode, rest)) : rest.left ≤ bits.left := by
  simp only [readStart, bind, Except.bind, pure, Except.pure] at found
  split at found
  · exact left_of_readStored found
  · split at found
    · cases found
      exact Nat.le_refl _
    · split at found
      · split at found
        · cases found
        · rename_i codes read
          cases found
          exact left_of_readCodes read
      · cases found

def readHeader (bits : Bits) : Except Stop (Mode × Bits) := do
  let (header, rest) ← takeNumber 3 bits
  readStart (header / 2) (header % 2 = 1) rest

theorem left_of_readHeader {mode : Mode} {bits rest : Bits}
    (found : readHeader bits = .ok (mode, rest)) : rest.left < bits.left := by
  simp only [readHeader, bind, Except.bind] at found
  split at found
  · cases found
  · rename_i header taken
    have := left_of_takeNumber taken
    have := left_of_readStart found
    omega

/-- Reads the next literal, match or end mark of a compressed block. -/
def readSymbol (codes : BlockCodes) (final : Bool) (bits : Bits) :
    Except Stop (Addition × Mode × Bits) := do
  let (symbol, rest) ← codes.literals.read bits
  if symbol < endOfBlock then return (.literal symbol.toUInt8, .coded codes final, rest)
  else if symbol = endOfBlock then return (.nothing, .afterBlock final, rest)
  else
    let (length, rest) ← readByRule lengthRules (symbol - 257) rest
    let (distance, rest) ← readDistance codes.distances rest
    return (.copy length distance, .coded codes final, rest)

theorem left_of_readSymbol {codes : BlockCodes} {final : Bool} {addition : Addition} {mode : Mode}
    {bits rest : Bits} (found : readSymbol codes final bits = .ok (addition, mode, rest)) :
    rest.left < bits.left := by
  simp only [readSymbol, bind, Except.bind, pure, Except.pure] at found
  split at found
  · cases found
  · rename_i symbol read
    have := PrefixCode.left_of_read read
    split at found
    · cases found
      omega
    · split at found
      · cases found
        omega
      · split at found
        · cases found
        · rename_i length lengthRead
          have := left_of_readByRule lengthRead
          split at found
          · cases found
          · rename_i distance distanceRead
            have := left_of_readDistance distanceRead
            cases found
            omega

/-- One step of decoding. A step that the bits do not suffice for takes none of them. -/
def step (mode : Mode) (bits : Bits) : Except Stop (Addition × Mode × Bits) :=
  match mode with
  | .header => do
    let (mode, rest) ← readHeader bits
    return (.nothing, mode, rest)
  | .stored count final => do
    let (byte, rest) ← takeNumber 8 bits
    let mode := if count ≤ 1 then .afterBlock final else .stored (count - 1) final
    return (.literal byte.toUInt8, mode, rest)
  | .coded codes final => readSymbol codes final bits
  | .complete => .error .exhausted

/-- A step takes at least one bit. -/
theorem left_of_step {mode after : Mode} {addition : Addition} {bits rest : Bits}
    (found : step mode bits = .ok (addition, after, rest)) : rest.left < bits.left := by
  simp only [step, bind, Except.bind, pure, Except.pure] at found
  split at found
  · split at found
    · cases found
    · rename_i start read
      cases found
      exact left_of_readHeader read
  · split at found
    · cases found
    · rename_i byte taken
      cases found
      have := left_of_takeNumber taken
      omega
  · exact left_of_readSymbol found
  · cases found

end WheelInstaller.Deflate
