/-! Byte sources. Whoever wants bytes asks for a few of them at a time, and asks again after an
interruption. A source ends in one of three ways, if it ends at all. -/

namespace WheelInstaller.Stream

/-- How a source ends. -/
inductive Ending where
  /-- All bytes were delivered. -/
  | finished
  /-- More bytes should have followed. -/
  | cutShort
  /-- The bytes turned out to be wrong. -/
  | failed (reason : String)
deriving DecidableEq, Repr

/-- What comes of asking for bytes. -/
inductive Reply (σ : Type) where
  /-- Some bytes, and what is left after them. -/
  | bytes (chunk : ByteArray) (rest : σ)
  | interrupted (rest : σ)
  | ended (ending : Ending)

/-- What can be asked for bytes. If there is room for some then some come, but no more than there is
room for; and no matter how often it is interrupted in a row, that has an end. -/
class Reader (σ : Type) where
  ask : (limit : Nat) → σ → Reply σ
  fits {limit : Nat} {reader rest : σ} {chunk : ByteArray} :
    0 < limit → ask limit reader = .bytes chunk rest → 0 < chunk.size ∧ chunk.size ≤ limit
  patient (limit : Nat) : WellFounded fun rest reader => ask limit reader = .interrupted rest

section
variable {σ : Type} [Reader σ]

/-- The next bytes, at most `limit` of them, with what is left after them; or how it ends. -/
def read (limit : Nat) : σ → Except Ending (ByteArray × σ) :=
  -- The kernel evaluates this form, but no recursion whose termination it is only told about.
  (Reader.patient limit).fix fun reader next =>
    match asked : Reader.ask limit reader with
    | .bytes chunk rest => .ok (chunk, rest)
    | .interrupted rest => next rest asked
    | .ended ending => .error ending

variable {limit : Nat} {reader rest : σ} {chunk : ByteArray} {ending : Ending}

theorem read_of_bytes (asked : Reader.ask limit reader = .bytes chunk rest) :
    read limit reader = .ok (chunk, rest) := by
  rw [read, WellFounded.fix_eq]
  split <;> cases asked.symm.trans ‹_›
  rfl

theorem read_of_interrupted (asked : Reader.ask limit reader = .interrupted rest) :
    read limit reader = read limit rest := by
  rw [read, WellFounded.fix_eq]
  split <;> cases asked.symm.trans ‹_›
  rfl

theorem read_of_ended (asked : Reader.ask limit reader = .ended ending) :
    read limit reader = .error ending := by
  rw [read, WellFounded.fix_eq]
  split <;> cases asked.symm.trans ‹_›
  rfl

variable (σ limit) in
/-- What holds where bytes come or the end is met, and goes back over an interruption, holds of
every reader. -/
@[elab_as_elim] theorem read_induction {motive : σ → Prop}
    (bytes : ∀ {reader chunk rest}, Reader.ask limit reader = .bytes chunk rest → motive reader)
    (interrupted : ∀ {reader rest}, Reader.ask limit reader = .interrupted rest → motive rest →
      motive reader)
    (ended : ∀ {reader ending}, Reader.ask limit reader = .ended ending → motive reader)
    (reader : σ) : motive reader := by
  refine (Reader.patient limit).induction reader fun reader ih => ?_
  cases asked : Reader.ask limit reader with
  | bytes => exact bytes asked
  | interrupted rest => exact interrupted asked (ih rest asked)
  | ended => exact ended asked

/-- Where there is room for bytes some are read, and no more than there is room for. -/
theorem fits_of_read (positive : 0 < limit) (found : read limit reader = .ok (chunk, rest)) :
    0 < chunk.size ∧ chunk.size ≤ limit := by
  induction reader using read_induction σ limit with
  | bytes asked =>
    cases (read_of_bytes asked).symm.trans found
    exact Reader.fits positive asked
  | interrupted asked ih => exact ih ((read_of_interrupted asked).symm.trans found)
  | ended asked => cases (read_of_ended asked).symm.trans found

end

/-- What a request for bytes can meet. -/
inductive Delivery where
  | chunk (bytes : ByteArray)
  | interrupted

/-- What a source still delivers, if that is known beforehand. -/
structure Source where
  deliveries : List Delivery
  ending : Ending

namespace Source

/-- What comes of asking for at most `limit` bytes. A chunk that is longer is delivered in parts, and
one without bytes is as good as an interruption. -/
def ask (limit : Nat) (source : Source) : Reply Source :=
  match source.deliveries with
  | [] => .ended source.ending
  | .interrupted :: rest => .interrupted { source with deliveries := rest }
  | .chunk bytes :: rest =>
    if bytes.isEmpty then .interrupted { source with deliveries := rest }
    else if bytes.size ≤ limit then .bytes bytes { source with deliveries := rest }
    else
      let left := bytes.extract limit bytes.size
      .bytes (bytes.extract 0 limit) { source with deliveries := .chunk left :: rest }

theorem fits_of_ask {limit : Nat} (positive : 0 < limit) {source rest : Source} {chunk : ByteArray}
    (asked : source.ask limit = .bytes chunk rest) : 0 < chunk.size ∧ chunk.size ≤ limit := by
  unfold ask at asked
  split at asked
  · cases asked
  · cases asked
  next bytes _ _ =>
    split at asked
    · cases asked
    next some =>
      have some : bytes.size ≠ 0 := by simpa [ByteArray.isEmpty] using some
      split at asked
      · cases asked
        omega
      · cases asked
        rw [ByteArray.size_extract]
        omega

/-- How many readings a delivery is good for at most. -/
def deliveryWeight : Delivery → Nat
  | .chunk bytes => bytes.size + 1
  | .interrupted => 1

/-- A bound on the number of readings that deliveries are good for. -/
def totalWeight : List Delivery → Nat
  | [] => 0
  | delivery :: rest => deliveryWeight delivery + totalWeight rest

/-- A bound on the number of readings that a source is good for. -/
def weight (source : Source) : Nat :=
  totalWeight source.deliveries

theorem weight_of_interrupted {limit : Nat} {source rest : Source}
    (asked : source.ask limit = .interrupted rest) : rest.weight < source.weight := by
  unfold ask at asked
  split at asked
  · cases asked
  next known =>
    cases asked
    simp [weight, known, totalWeight, deliveryWeight]
  next known =>
    split at asked
    · cases asked
      simp only [weight, known, totalWeight, deliveryWeight]
      omega
    · split at asked <;> cases asked

theorem weight_of_bytes {limit : Nat} (positive : 0 < limit) {source rest : Source}
    {chunk : ByteArray} (asked : source.ask limit = .bytes chunk rest) :
    rest.weight < source.weight := by
  unfold ask at asked
  split at asked
  · cases asked
  · cases asked
  next known =>
    split at asked
    · cases asked
    · split at asked
      · cases asked
        simp only [weight, known, totalWeight, deliveryWeight]
        omega
      · cases asked
        simp only [weight, known, totalWeight, deliveryWeight, ByteArray.size_extract]
        omega

instance : Reader Source where
  ask := ask
  fits positive asked := fits_of_ask positive asked
  patient _ := Subrelation.wf weight_of_interrupted (measure weight).wf

/-- Cuts the bytes from `start` on into `count` chunks of a size. -/
def cut (size : Nat) (bytes : ByteArray) (start : Nat) : Nat → List Delivery
  | 0 => []
  | count + 1 => .chunk (bytes.extract start (start + size)) :: cut size bytes (start + size) count

/-- The deliveries of bytes that are asked for with room for `size` bytes each time. -/
def chunks (size : Nat) (bytes : ByteArray) : List Delivery :=
  cut size bytes 0 ((bytes.size + size - 1) / size)

/-- Reading uses a source up. -/
theorem weight_of_read {limit : Nat} (positive : 0 < limit) {source rest : Source}
    {bytes : ByteArray} (found : read limit source = .ok (bytes, rest)) :
    rest.weight < source.weight := by
  induction source using read_induction Source limit with
  | bytes asked =>
    cases (read_of_bytes asked).symm.trans found
    exact weight_of_bytes positive asked
  | interrupted asked ih =>
    exact Nat.lt_trans (ih ((read_of_interrupted asked).symm.trans found))
      (weight_of_interrupted asked)
  | ended asked => cases (read_of_ended asked).symm.trans found

end Source
end WheelInstaller.Stream
