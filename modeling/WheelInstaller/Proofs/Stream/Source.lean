import WheelInstaller.Stream.Source

/-! What a reader delivers, as one. For a source that is the same whatever the chunks it is asked for in, and however
often it is interrupted. -/

namespace WheelInstaller

namespace Stream

def joined (chunks : List ByteArray) : ByteArray :=
  chunks.foldr (· ++ ·) .empty

def Delivery.bytes : Delivery → ByteArray
  | .chunk bytes => bytes
  | .interrupted => .empty

@[simp] theorem joined_nil : joined [] = .empty := rfl

@[simp] theorem joined_cons (chunk : ByteArray) (rest : List ByteArray) :
    joined (chunk :: rest) = chunk ++ joined rest := rfl

theorem foldl_append (start : ByteArray) (chunks : List ByteArray) :
    chunks.foldl (· ++ ·) start = start ++ joined chunks := by
  induction chunks generalizing start with
  | nil => simp
  | cons chunk rest ih => simp [ih, ByteArray.append_assoc]

section
variable {σ : Type} [Reader σ] {limit : Nat} {reader rest : σ} {bytes other chunk : ByteArray} {ending last : Ending}

/-- A reader that is asked for at most `limit` bytes each time delivers these bytes, and then ends so. -/
inductive Delivers (limit : Nat) : σ → ByteArray → Ending → Prop
  | ended {reader : σ} {ending : Ending} : Reader.ask limit reader = .ended ending → Delivers limit reader .empty ending
  | interrupted {reader rest : σ} {bytes : ByteArray} {ending : Ending} :
    Reader.ask limit reader = .interrupted rest → Delivers limit rest bytes ending → Delivers limit reader bytes ending
  | bytes {reader rest : σ} {chunk bytes : ByteArray} {ending : Ending} :
    Reader.ask limit reader = .bytes chunk rest → Delivers limit rest bytes ending →
    Delivers limit reader (chunk ++ bytes) ending

theorem delivers_of_read_error (stopped : read limit reader = .error last) :
    Delivers limit reader bytes ending ↔ bytes = .empty ∧ ending = last := by
  induction reader using read_induction σ limit with
  | bytes asked => cases (read_of_bytes asked).symm.trans stopped
  | interrupted asked ih =>
    have stopped := (read_of_interrupted asked).symm.trans stopped
    refine ⟨fun delivers => ?_, fun same => .interrupted asked ((ih stopped).mpr same)⟩
    cases delivers with
    | interrupted known further =>
      cases asked.symm.trans known
      exact (ih stopped).mp further
    | ended known | bytes known => cases asked.symm.trans known
  | ended asked =>
    cases (read_of_ended asked).symm.trans stopped
    constructor
    · intro delivers
      cases delivers with
      | ended known =>
        cases asked.symm.trans known
        exact ⟨rfl, rfl⟩
      | interrupted known | bytes known => cases asked.symm.trans known
    · rintro ⟨rfl, rfl⟩
      exact .ended asked

theorem delivers_of_read_ok (found : read limit reader = .ok (chunk, rest)) :
    Delivers limit reader bytes ending ↔ ∃ further, bytes = chunk ++ further ∧ Delivers limit rest further ending := by
  induction reader using read_induction σ limit with
  | bytes asked =>
    cases (read_of_bytes asked).symm.trans found
    constructor
    · intro delivers
      cases delivers with
      | bytes known further =>
        cases asked.symm.trans known
        exact ⟨_, rfl, further⟩
      | ended known | interrupted known => cases asked.symm.trans known
    · rintro ⟨further, rfl, delivers⟩
      exact .bytes asked delivers
  | interrupted asked ih =>
    have found := (read_of_interrupted asked).symm.trans found
    refine ⟨fun delivers => ?_, fun same => .interrupted asked ((ih found).mpr same)⟩
    cases delivers with
    | interrupted known further =>
      cases asked.symm.trans known
      exact (ih found).mp further
    | ended known | bytes known => cases asked.symm.trans known
  | ended asked => cases (read_of_ended asked).symm.trans found

theorem Delivers.unique (delivers : Delivers limit reader bytes ending) (also : Delivers limit reader other last) :
    other = bytes ∧ last = ending := by
  induction delivers generalizing other with
  | ended asked =>
    cases also with
    | ended known =>
      cases asked.symm.trans known
      exact ⟨rfl, rfl⟩
    | interrupted known | bytes known => cases asked.symm.trans known
  | interrupted asked _ ih =>
    cases also with
    | interrupted known further =>
      cases asked.symm.trans known
      exact ih further
    | ended known | bytes known => cases asked.symm.trans known
  | bytes asked _ ih =>
    cases also with
    | bytes known further =>
      cases asked.symm.trans known
      obtain ⟨rfl, rfl⟩ := ih further
      exact ⟨rfl, rfl⟩
    | ended known | interrupted known => cases asked.symm.trans known

end

namespace Source

/-- All that a source still delivers. -/
def bytes (source : Source) : ByteArray :=
  joined (source.deliveries.map Delivery.bytes)

theorem ask_leaves (limit : Nat) (source : Source) :
    match source.ask limit with
    | .bytes chunk rest => source.bytes = chunk ++ rest.bytes ∧ rest.ending = source.ending
    | .interrupted rest => source.bytes = rest.bytes ∧ rest.ending = source.ending
    | .ended ending => source.bytes = .empty ∧ ending = source.ending := by
  obtain ⟨deliveries, ending⟩ := source
  unfold ask bytes
  rcases deliveries with _ | ⟨⟨bytes⟩ | _, rest⟩
  · exact ⟨rfl, rfl⟩
  · dsimp only
    by_cases empty : bytes.isEmpty
    · have none : bytes = .empty := by
        rw [← ByteArray.size_eq_zero_iff]
        simpa [ByteArray.isEmpty] using empty
      rw [if_pos empty]
      exact ⟨by simp [Delivery.bytes, none], rfl⟩
    · rw [if_neg empty]
      by_cases short : bytes.size ≤ limit
      · rw [if_pos short]
        exact ⟨rfl, rfl⟩
      · rw [if_neg short]
        refine ⟨?_, rfl⟩
        simp only [List.map_cons, joined_cons, Delivery.bytes]
        rw [← ByteArray.append_assoc, ByteArray.extract_append_extract, Nat.min_eq_left (Nat.zero_le limit),
          Nat.max_eq_right (by omega), ByteArray.extract_zero_size]
  · exact ⟨by simp [Delivery.bytes], rfl⟩

/-- Whatever it is asked for, a source delivers the bytes of its chunks and then ends. -/
theorem delivers {limit : Nat} (positive : 0 < limit) (source : Source) :
    Delivers limit source source.bytes source.ending := by
  have leaves := source.ask_leaves limit
  cases asked : source.ask limit with
  | bytes chunk rest =>
    rw [asked] at leaves
    have : rest.weight < source.weight := weight_of_bytes positive asked
    rw [leaves.1, ← leaves.2]
    exact .bytes asked (delivers positive rest)
  | interrupted rest =>
    rw [asked] at leaves
    have : rest.weight < source.weight := weight_of_interrupted asked
    rw [leaves.1, ← leaves.2]
    exact .interrupted asked (delivers positive rest)
  | ended ending =>
    rw [asked] at leaves
    rw [leaves.1, ← leaves.2]
    exact .ended asked
termination_by source.weight

theorem joined_cut (size : Nat) (bytes : ByteArray) (start count : Nat) :
    joined ((cut size bytes start count).map Delivery.bytes) = bytes.extract start (start + count * size) := by
  induction count generalizing start with
  | zero => simp [cut]
  | succ count ih =>
    simp only [cut, List.map_cons, joined_cons, Delivery.bytes, ih, ByteArray.extract_append_extract]
    congr 1
    · omega
    · have : (count + 1) * size = size + count * size := by rw [Nat.succ_mul, Nat.add_comm]
      omega

theorem joined_chunks {size : Nat} (positive : 0 < size) (bytes : ByteArray) :
    joined ((chunks size bytes).map Delivery.bytes) = bytes := by
  unfold chunks
  rw [joined_cut, Nat.zero_add]
  have enough : bytes.size ≤ (bytes.size + size - 1) / size * size := by
    have := Nat.div_add_mod' (bytes.size + size - 1) size
    have := Nat.mod_lt (bytes.size + size - 1) positive
    omega
  rw [← Nat.max_eq_left enough, ByteArray.extract_zero_max_size]

end Source

/-- A reader that delivers one byte over and over, and is interrupted before each portion. -/
structure Repeating where
  byte : UInt8
  pausing : Bool

namespace Repeating

/-- What comes of asking for at most `limit` bytes. -/
def ask (limit : Nat) (reader : Repeating) : Reply Repeating :=
  if reader.pausing then .interrupted { reader with pausing := false }
  else .bytes ⟨Array.replicate limit reader.byte⟩ { reader with pausing := true }

instance : Reader Repeating where
  ask := ask
  fits := by
    intro limit reader rest chunk positive asked
    unfold ask at asked
    split at asked
    · cases asked
    · cases asked
      exact ⟨by simpa [ByteArray.size] using positive, by simp [ByteArray.size]⟩
  patient limit := by
    have fewer {rest reader : Repeating} (asked : ask limit reader = .interrupted rest) :
      rest.pausing.toNat < reader.pausing.toNat := by
      unfold ask at asked
      split at asked
      next pausing =>
        cases asked
        simp [pausing]
      · cases asked
    exact Subrelation.wf fewer (measure fun reader : Repeating => reader.pausing.toNat).wf

theorem endless {limit : Nat} {reader : Repeating} {bytes : ByteArray} {ending : Ending} :
    ¬ Delivers limit reader bytes ending := by
  intro delivers
  induction delivers with
  | ended asked =>
    change ask limit _ = _ at asked
    unfold ask at asked
    split at asked <;> cases asked
  | interrupted _ _ ih => exact ih
  | bytes _ _ ih => exact ih

end Repeating

end Stream

end WheelInstaller
