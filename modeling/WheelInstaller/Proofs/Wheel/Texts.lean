import WheelInstaller.Proofs.Deflate.Inflate
import WheelInstaller.Proofs.Wheel.Content

/-! Entries read as texts. However an entry is delivered, no more than a bounded part of it is ever read or held, and
what is told of it depends on its bytes only. The text of an entry is the content that is extracted for it, though its
bytes are asked for in other portions. -/

namespace WheelInstaller

namespace EntryStream

open WheelInstaller.Stream (joined Delivers Reader)

section
variable {σ : Type} [Reader σ] {stream now : EntryStream σ} {held bytes chunk : ByteArray}
    {ending : Stream.Ending} {source : σ}

/-! ### The loop -/

theorem gather_of_read_error (stopped : Stream.read textBuffer stream.source = .error ending) :
    stream.gather held = ⟨held, stream, stream.conclude ending⟩ := by
  rw [gather]
  split
  next known => cases stopped.symm.trans known
  next known =>
    cases stopped.symm.trans known
    rfl

theorem gather_of_read_ok (found : Stream.read textBuffer stream.source = .ok (chunk, source)) :
    stream.gather held =
      if textLimit < held.size + chunk.size then
        ⟨held, stream.advance chunk source, .error (stream.oversize (stream.consumed + chunk.size))⟩
      else (stream.advance chunk source).gather (held ++ chunk) := by
  rw [gather]
  split
  next known =>
    cases found.symm.trans known
    rfl
  next known => cases found.symm.trans known

/-- The states that reading a text passes through: how far the entry is read, and the bytes that are held of it. -/
inductive Passes (stream : EntryStream σ) : EntryStream σ → ByteArray → Prop
  | start : Passes stream stream .empty
  | further {now : EntryStream σ} {held chunk : ByteArray} {source : σ} : Passes stream now held →
    Stream.read textBuffer now.source = .ok (chunk, source) → held.size + chunk.size ≤ textLimit →
      Passes stream (now.advance chunk source) (held ++ chunk)

theorem Passes.gather_eq (passes : stream.Passes now held) : now.gather held = stream.gather .empty := by
  induction passes with
  | start => rfl
  | further _ found short ih => rw [← ih, gather_of_read_ok found, if_neg (Nat.not_lt.mpr short)]

theorem Passes.size_le (passes : stream.Passes now held) : held.size ≤ textLimit := by
  cases passes with
  | start => exact Nat.zero_le _
  | further _ _ short => rwa [ByteArray.size_append]

theorem Passes.consumed_eq (passes : stream.Passes now held) : now.consumed = stream.consumed + held.size := by
  induction passes with
  | start => rfl
  | further _ _ _ ih => rw [ByteArray.size_append, ← Nat.add_assoc, ← ih, advance]

/-- What becomes of gathering the rest of an entry. -/
inductive Fate (stream : EntryStream σ) (held : ByteArray) : Gathered σ → Prop
  /-- The entry ends before it is too long. -/
  | whole {bytes : ByteArray} {ending : Stream.Ending} {last : σ} : Delivers textBuffer stream.source bytes ending →
    held.size + bytes.size ≤ textLimit →
      Fate stream held ⟨held ++ bytes, stream.advance bytes last, (stream.advance bytes last).conclude ending⟩
  /-- The entry is too long, if it ends at all; and that is noticed at once. -/
  | givenUp {kept passed : ByteArray} {last : σ} : kept.size ≤ textLimit → textLimit < held.size + passed.size →
    held.size + passed.size ≤ textLimit + textBuffer →
    (∀ bytes ending, Delivers textBuffer stream.source bytes ending → textLimit < held.size + bytes.size) →
      Fate stream held ⟨kept, stream.advance passed last, .error (stream.oversize (stream.consumed + passed.size))⟩

theorem Fate.further {gathered : Gathered σ} (found : Stream.read textBuffer stream.source = .ok (chunk, source))
    (fate : Fate (stream.advance chunk source) (held ++ chunk) gathered) : Fate stream held gathered := by
  cases fate with
  | @whole bytes ending last delivers short =>
    rw [ByteArray.size_append, Nat.add_assoc, ← ByteArray.size_append] at short
    rw [ByteArray.append_assoc, advance_advance]
    exact .whole ((Stream.delivers_of_read_ok found).mpr ⟨bytes, rfl, delivers⟩) short
  | @givenUp kept passed last small long near all =>
    rw [ByteArray.size_append, Nat.add_assoc, ← ByteArray.size_append] at long near
    have counted : (stream.advance chunk source).consumed + passed.size = stream.consumed + (chunk ++ passed).size := by
      rw [ByteArray.size_append, ← Nat.add_assoc, advance]
    rw [advance_advance, counted]
    refine .givenUp small long near fun bytes ending delivers => ?_
    obtain ⟨rest, rfl, remaining⟩ := (Stream.delivers_of_read_ok found).mp delivers
    have further := all rest ending remaining
    rwa [ByteArray.size_append, Nat.add_assoc, ← ByteArray.size_append] at further

theorem gather_fate (stream : EntryStream σ) (held : ByteArray) (small : held.size ≤ textLimit) :
    Fate stream held (stream.gather held) := by
  induction stream, held using gather.induct with
  | case1 stream held chunk source found _ long =>
    have near := (Stream.fits_of_read (by decide) found).2
    rw [gather_of_read_ok found, if_pos long]
    refine .givenUp small long (by omega) fun bytes ending delivers => ?_
    obtain ⟨rest, rfl, -⟩ := (Stream.delivers_of_read_ok found).mp delivers
    rw [ByteArray.size_append]
    omega
  | case2 stream held chunk source found _ next short ih =>
    rw [gather_of_read_ok found, if_neg short]
    exact .further found (ih (by rw [ByteArray.size_append]; omega))
  | case3 stream held ending stopped =>
    have delivers : Delivers textBuffer stream.source .empty ending :=
      (Stream.delivers_of_read_error stopped).mpr ⟨rfl, rfl⟩
    rw [gather_of_read_error stopped]
    have whole : Fate stream held ⟨held ++ .empty, stream.advance .empty stream.source, _⟩ :=
      .whole delivers (by simpa using small)
    rwa [ByteArray.append_empty] at whole

/-! ### The text -/

theorem fromUTF8?_eq_some_iff {text : String} : String.fromUTF8? bytes = some text ↔ text.toUTF8 = bytes := by
  unfold String.fromUTF8?
  constructor
  · intro decoded
    split at decoded
    · cases decoded
      rfl
    · cases decoded
  · rintro rfl
    rw [String.toUTF8_eq_toByteArray, dif_pos text.isValidUTF8]
    rfl

theorem fromUTF8?_eq_none_iff : String.fromUTF8? bytes = none ↔ ¬ bytes.IsValidUTF8 := by
  unfold String.fromUTF8?
  split <;> simp_all

theorem gatherText_of_declared (long : textLimit < stream.expected) :
    stream.gatherText = ⟨.empty, stream, .error (stream.oversize stream.expected)⟩ := if_pos long

theorem gatherText_fate (short : stream.expected ≤ textLimit) : Fate stream .empty stream.gatherText := by
  rw [gatherText, if_neg (Nat.not_lt.mpr short)]
  exact gather_fate stream .empty (Nat.zero_le _)

theorem gatherText_bounded (fresh : stream.consumed = 0) :
    stream.gatherText.held.size ≤ textLimit ∧ stream.gatherText.stream.consumed ≤ textLimit + textBuffer := by
  by_cases short : stream.expected ≤ textLimit
  · have fate := gatherText_fate short
    generalize stream.gatherText = gathered at fate ⊢
    cases fate with
    | whole _ fits =>
      simp only [ByteArray.size_empty, Nat.zero_add] at fits
      simp only [ByteArray.empty_append, advance, fresh]
      omega
    | givenUp small _ near =>
      simp only [ByteArray.size_empty, Nat.zero_add] at near
      simp only [advance, fresh]
      omega
  · rw [gatherText_of_declared (Nat.lt_of_not_le short)]
    simp [fresh]

theorem readText_eq : stream.readText =
    stream.gatherText.outcome.bind fun () =>
      match String.fromUTF8? stream.gatherText.held with
      | some text => .ok text
      | none => .error (.corrupt stream.archive (.notText stream.entry)) := rfl

theorem readText_of_endless (endless : ∀ bytes ending, ¬ Delivers textBuffer stream.source bytes ending) :
    ∃ size, stream.readText = .error (stream.oversize size) := by
  rw [readText_eq]
  by_cases short : stream.expected ≤ textLimit
  · have fate := gatherText_fate short
    generalize stream.gatherText = gathered at fate ⊢
    cases fate with
    | whole delivers => exact (endless _ _ delivers).elim
    | givenUp => exact ⟨_, rfl⟩
  · rw [gatherText_of_declared (Nat.lt_of_not_le short)]
    exact ⟨_, rfl⟩

/-- Being too long comes first, then being cut off, and what the bytes are comes last. -/
theorem readText_of_delivers (fresh : stream.consumed = 0) (delivers : Delivers textBuffer stream.source bytes ending) :
    if textLimit < stream.expected ∨ textLimit < bytes.size then ∃ size, stream.readText = .error (stream.oversize size)
    else stream.readText = (EntryStream.conclude { stream with consumed := bytes.size } ending).bind fun () =>
      match String.fromUTF8? bytes with
      | some text => .ok text
      | none => .error (.corrupt stream.archive (.notText stream.entry)) := by
  rw [readText_eq]
  by_cases short : stream.expected ≤ textLimit
  · have fate := gatherText_fate short
    generalize stream.gatherText = gathered at fate ⊢
    cases fate with
    | whole also fits =>
      obtain ⟨rfl, rfl⟩ := delivers.unique also
      simp only [ByteArray.size_empty, Nat.zero_add] at fits
      rw [if_neg (by omega)]
      simp [advance, conclude, truncation, fresh]
    | givenUp _ _ _ all =>
      have long := all bytes ending delivers
      simp only [ByteArray.size_empty, Nat.zero_add] at long
      rw [if_pos (.inr long)]
      exact ⟨_, rfl⟩
  · rw [gatherText_of_declared (Nat.lt_of_not_le short), if_pos (.inl (Nat.lt_of_not_le short))]
    exact ⟨_, rfl⟩

/-- What reading an entry as text tells of the bytes that it delivers before it ends. -/
structure Judges (stream : EntryStream σ) (bytes : ByteArray) : Prop where
  oversized : (∃ size, stream.readText = .error (stream.oversize size)) ↔ textLimit < stream.expected ∨
    textLimit < bytes.size
  truncated : stream.expected ≤ textLimit → bytes.size ≤ textLimit →
    (stream.readText = .error (.truncated stream.entry stream.expected bytes.size) ↔ bytes.size < stream.expected)
  text : stream.expected ≤ bytes.size → bytes.size ≤ textLimit →
    ∀ text, stream.readText = .ok text ↔ text.toUTF8 = bytes
  garbled : stream.expected ≤ bytes.size → bytes.size ≤ textLimit →
    (stream.readText = .error (.corrupt stream.archive (.notText stream.entry)) ↔ ¬ bytes.IsValidUTF8)

theorem judges_of_delivers (fresh : stream.consumed = 0)
    (delivers : Delivers textBuffer stream.source bytes .finished) :
    stream.Judges bytes := by
  have told := readText_of_delivers fresh delivers
  -- Neither too long nor truncated, so that only the encoding is left to judge.
  have judged (long : ¬ (textLimit < stream.expected ∨ textLimit < bytes.size))
    (short : ¬ bytes.size < stream.expected) :
      stream.readText = match String.fromUTF8? bytes with
        | some text => .ok text
        | none => .error (.corrupt stream.archive (.notText stream.entry)) := by
    rw [if_neg long] at told
    simpa [conclude, short, Except.bind] using told
  constructor
  · by_cases long : textLimit < stream.expected ∨ textLimit < bytes.size
    · rw [if_pos long] at told
      exact iff_of_true told long
    · refine iff_of_false ?_ long
      rintro ⟨size, same⟩
      by_cases short : bytes.size < stream.expected
      · rw [if_neg long, same] at told
        simp [conclude, short, oversize, truncation, Except.bind] at told
      · rw [judged long short] at same
        cases decoded : String.fromUTF8? bytes <;> simp [decoded, oversize] at same
  · intro declared delivered
    have long : ¬ (textLimit < stream.expected ∨ textLimit < bytes.size) := by omega
    by_cases short : bytes.size < stream.expected
    · rw [if_neg long] at told
      exact iff_of_true (by simpa [conclude, short, truncation, Except.bind] using told) short
    · refine iff_of_false (fun same => ?_) short
      rw [judged long short] at same
      cases decoded : String.fromUTF8? bytes <;> simp [decoded] at same
  · intro enough delivered text
    rw [judged (by omega) (by omega), ← fromUTF8?_eq_some_iff]
    cases String.fromUTF8? bytes <;> simp
  · intro enough delivered
    rw [judged (by omega) (by omega), ← fromUTF8?_eq_none_iff]
    cases String.fromUTF8? bytes <;> simp

theorem readText_eq_ok {text : String} (read : stream.readText = .ok text) :
    Delivers textBuffer stream.source text.toUTF8 .finished ∧ stream.expected ≤ stream.consumed + text.toUTF8.size := by
  rw [readText_eq] at read
  by_cases short : stream.expected ≤ textLimit
  · have fate := gatherText_fate short
    generalize stream.gatherText = gathered at fate read
    cases fate with
    | @whole bytes ending last delivers _ =>
      cases concluded : (stream.advance bytes last).conclude ending with
      | error => simp [concluded, Except.bind] at read
      | ok =>
        obtain ⟨rfl, whole⟩ := conclude_eq_ok concluded
        simp only [concluded, Except.bind, ByteArray.empty_append] at read
        cases decoded : String.fromUTF8? bytes with
        | none => simp [decoded] at read
        | some content =>
          rw [decoded] at read
          cases read
          rw [fromUTF8?_eq_some_iff.mp decoded]
          exact ⟨delivers, whole⟩
    | givenUp => cases read
  · rw [gatherText_of_declared (Nat.lt_of_not_le short)] at read
    cases read

end

theorem bytes_of_readText {stream : EntryStream} {text : String} (read : stream.readText = .ok text) :
    text.toUTF8 = stream.source.bytes ∧ stream.source.ending = .finished ∧ stream.expected ≤ stream.consumed +
    stream.source.bytes.size := by
  obtain ⟨delivers, whole⟩ := readText_eq_ok read
  obtain ⟨bytes, ending⟩ := delivers.unique (Stream.Source.delivers (by decide) stream.source)
  exact ⟨bytes.symm, ending, bytes ▸ whole⟩

end EntryStream

namespace Container.Index

theorem complete_of_inflatedEnding {record : Record} {inflated : Deflate.Inflated}
    (finished : inflatedEnding record inflated = .finished) : inflated.pause = .complete := by
  unfold inflatedEnding at finished
  split at finished
  · assumption
  all_goals cases finished

/-- A member that comes to its end comes to it with the same content whatever the portions that it is asked for in. -/
theorem Located.finished_of_finished {found : Located} {buffer : Nat} {file : ByteArray}
    (finished : (found.source buffer file).ending = .finished) (other : Nat) :
    (found.source other file).ending = .finished ∧ found.content other file = found.content buffer file := by
  unfold source at finished ⊢
  unfold content
  dsimp only at finished ⊢
  split at finished
  next compressed =>
    rw [if_pos compressed, if_pos compressed, if_pos compressed]
    have unpacks := (Deflate.inflate_iff buffer _).mp ⟨complete_of_inflatedEnding finished, rfl⟩
    obtain ⟨complete, same⟩ := (Deflate.inflate_iff other _).mpr unpacks
    refine ⟨?_, same⟩
    rw [← finished]
    simp only [inflatedSource, inflatedEnding, complete, same, complete_of_inflatedEnding finished]
  next stored =>
    rw [if_neg stored, if_neg stored, if_neg stored]
    exact ⟨finished, rfl⟩

end Container.Index

namespace Wheel

variable {path : Path} {file : ByteArray} {index : Container.Index} {entry : Entry} {text : String}

theorem source_of_readEntry (read : readEntry path index entry = .ok text) :
    ∃ found, locateEntry path index index.file entry = .ok found ∧
      (entryStream path entry found EntryStream.copyBuffer index.file).source.bytes = text.toUTF8 ∧
      (entryStream path entry found EntryStream.copyBuffer index.file).source.ending = .finished ∧
      entry.size ≤ text.toUTF8.size := by
  unfold readEntry openEntry at read
  cases located : locateEntry path index index.file entry with
  | error => simp [located, Except.map, bind, Except.bind] at read
  | ok found =>
    simp only [located, Except.map, bind, Except.bind] at read
    obtain ⟨text, finished, whole⟩ := EntryStream.bytes_of_readText read
    obtain ⟨ending, same⟩ := Container.Index.Located.finished_of_finished finished EntryStream.copyBuffer
    refine ⟨found, rfl, ?_, ending, ?_⟩
    · rw [text]
      exact (found.bytes_source (by decide) _).trans (same.trans (found.bytes_source (by decide) _).symm)
    · rw [text]
      simpa [entryStream] using whole

theorem decodes_of_readEntry (opened : openContainer path (.ok file) = .ok index)
    (read : readEntry path index entry = .ok text) :
    Decodes path file entry text.toUTF8 := by
  obtain ⟨found, located, bytes, ending, whole⟩ := source_of_readEntry read
  rw [file_of_openContainer opened] at located bytes ending
  have content : text.toUTF8 = found.content EntryStream.copyBuffer file :=
    bytes.symm.trans (found.bytes_source (by decide) file)
  refine ⟨⟨index, found, opened, locateAt_of_locateEntry located, content, ?_⟩, whole⟩
  rw [content]
  exact Container.Index.Located.checksum_of_finished ending

end Wheel
end WheelInstaller
