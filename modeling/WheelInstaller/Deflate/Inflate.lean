import WheelInstaller.Deflate.Step

/-! Decompression on request. Every request has room for so many bytes, and is answered once there is
no room for what comes next, or nothing more can be decoded from the bits at hand. The stream comes
in pieces, the next one with the first request after all bytes of the last were looked at. A request
in which the stream turns out to be wrong gives nothing. Bytes after the final block do not belong
to the stream. -/

namespace WheelInstaller.Deflate

/-- Why decoding does not go on. -/
inductive Pause where
  /-- The final block was complete. -/
  | complete
  /-- There is no room for what comes next. -/
  | full
  /-- More bits are needed. -/
  | exhausted
  /-- No stream goes on like this. -/
  | invalid
deriving DecidableEq, Repr

/-- Where a decoder has got to. -/
structure Decoder where
  mode : Mode := .header
  /-- What was read and is not put out yet. -/
  pending : Addition := .nothing
  bits : Bits
  output : ByteArray := .empty

/-- Decodes as far as the bits go and the output has at most `capacity` bytes. That a match goes back
beyond the start of the output shows only once there is room for it. -/
def decode (capacity : Nat) (mode : Mode) (pending : Addition) (bits : Bits) (output : ByteArray) :
    Decoder × Pause :=
  let room := capacity - output.size
  if 0 < room && output.size < pending.reach then (⟨mode, pending, bits, output⟩, .invalid)
  else
    let output := pending.put room output
    if room < pending.size then (⟨mode, pending.drop room, bits, output⟩, .full)
    else
      match found : step mode bits with
      | .ok (addition, after, rest) =>
        have := left_of_step found
        decode capacity after addition rest output
      | .error .invalid => (⟨mode, .nothing, bits, output⟩, .invalid)
      | .error .exhausted =>
        match mode with
        -- After the final block no bits are looked at.
        | .complete => (⟨.complete, .nothing, bits, output⟩, .complete)
        | mode => (⟨mode, .nothing, bits, output⟩, .exhausted)
termination_by bits.left

/-- Decoding puts no bits back. -/
theorem left_of_decode (capacity : Nat) (mode : Mode) (pending : Addition) (bits : Bits)
    (output : ByteArray) :
    (decode capacity mode pending bits output).1.bits.left ≤ bits.left := by
  fun_induction decode capacity mode pending bits output with
  | case3 mode pending bits output room _ later _ addition after rest found fewer ih =>
    exact Nat.le_trans ih (Nat.le_of_lt fewer)
  | _ => exact Nat.le_refl _

/-- A decoder that fills some room either takes bits or puts out some of what was pending. -/
theorem progress_of_decode {capacity : Nat} {mode : Mode} {pending : Addition} {bits : Bits}
    {output : ByteArray} {decoder : Decoder} (roomy : output.size < capacity)
    (found : decode capacity mode pending bits output = (decoder, .full)) :
    decoder.bits.left < bits.left ∨
      decoder.bits.left = bits.left ∧ decoder.pending.size < pending.size := by
  rw [decode] at found
  split at found
  · cases found
  · split at found
    · cases found
      refine .inr ⟨rfl, ?_⟩
      rw [Addition.size_drop]
      omega
    · split at found
      · rename_i addition after rest taken
        have := left_of_decode capacity after addition rest
          (pending.put (capacity - output.size) output)
        rw [found] at this
        exact .inl (Nat.lt_of_le_of_lt this (left_of_step taken))
      · cases found
      · split at found <;> cases found

/-- How much of a stream is taken in at a time, counted in bytes. -/
def pieceSize : Nat := 8192

/-- What requests were given, and why there was nothing for another one. -/
structure Inflated where
  pieces : List ByteArray
  pause : Pause

/-- Everything that was given. -/
def Inflated.output (inflated : Inflated) : ByteArray :=
  inflated.pieces.foldl (· ++ ·) .empty

/-- Every byte of the first `reached` was looked at, if only for some of its bits. -/
def Decoder.isDrained (decoder : Decoder) (reached : Nat) : Bool :=
  reached ≤ (decoder.bits.position + 7) / 8

/-- A decoder with the first `reached` bytes of a stream before it. -/
def Decoder.refill (decoder : Decoder) (compressed : ByteArray) (reached : Nat) : Decoder :=
  { decoder with bits := ⟨compressed, decoder.bits.position, 8 * reached⟩ }

/-- Answers requests with room for `buffer` bytes each, and for one byte at least. The first
`reached` bytes of the stream were taken in before. -/
def answer (compressed : ByteArray) (buffer reached : Nat) : Decoder → Inflated
  | ⟨mode, pending, bits, output⟩ =>
    let known := output.size
    match found : decode (known + max 1 buffer) mode pending bits output with
    | (_, .invalid) => ⟨[], .invalid⟩
    | (decoder, .complete) =>
      ⟨[decoder.output.extract known decoder.output.size], .complete⟩
    | (decoder, .exhausted) =>
      let given := decoder.output.extract known decoder.output.size
      if reached < compressed.size then
        let further := min compressed.size (reached + pieceSize)
        let rest := answer compressed buffer further (decoder.refill compressed further)
        ⟨given :: rest.pieces, rest.pause⟩
      else ⟨[given], .exhausted⟩
    | (decoder, .full) =>
      let given := decoder.output.extract known decoder.output.size
      if reached < compressed.size ∧ decoder.isDrained reached then
        let further := min compressed.size (reached + pieceSize)
        let rest := answer compressed buffer further (decoder.refill compressed further)
        ⟨given :: rest.pieces, rest.pause⟩
      else
        have := progress_of_decode (by omega) found
        let rest := answer compressed buffer reached decoder
        ⟨given :: rest.pieces, rest.pause⟩
termination_by decoder => (compressed.size - reached, decoder.bits.left, decoder.pending.size)
decreasing_by
  · apply Prod.Lex.left
    simp only [pieceSize]
    omega
  · apply Prod.Lex.left
    simp only [pieceSize]
    omega
  · apply Prod.Lex.right
    rcases this with fewer | ⟨same, less⟩
    · exact .left _ _ fewer
    · rw [same]
      exact .right _ less

/-- Decompresses a stream for requests with room for `buffer` bytes each. -/
def inflate (buffer : Nat) (compressed : ByteArray) : Inflated :=
  answer compressed buffer 0 { bits := ⟨compressed, 0, 0⟩ }

end WheelInstaller.Deflate
