import WheelInstaller.Deflate.Inflate
import WheelInstaller.Proofs.Deflate.Reading
import WheelInstaller.Proofs.Stream.Source

/-! What a stream unpacks to, told without requests, room or pieces: step by step over the whole stream. Requests for
any number of bytes come to the same end, and give the same bytes between them. -/

namespace WheelInstaller.Deflate

/-! ### Additions -/

namespace Addition

variable {addition : Addition} {count : Nat}

/-- Puts out an addition. -/
def all (addition : Addition) (output : ByteArray) : ByteArray :=
  addition.put addition.size output

theorem repeatBytes_add (distance count more : Nat) (output : ByteArray) :
    repeatBytes distance (count + more) output = repeatBytes distance more (repeatBytes distance count output) := by
  induction count generalizing output with
  | zero => rw [Nat.zero_add, repeatBytes]
  | succ count ih => rw [Nat.succ_add, repeatBytes, repeatBytes, ih]

theorem all_drop (addition : Addition) (count : Nat) (output : ByteArray) :
    (addition.drop count).all (addition.put count output) = addition.all output := by
  cases addition with
  | nothing => rfl
  | literal byte => by_cases none : count = 0 <;> simp [all, drop, put, size, none]
  | copy length distance =>
    simp only [all, drop, put, size, Nat.min_self, ← repeatBytes_add]
    congr 1
    omega

theorem put_of_size_le (enough : addition.size ≤ count) (output : ByteArray) :
    addition.put count output = addition.all output := by
  cases addition with
  | nothing => rfl
  | literal byte =>
    have some : count ≠ 0 := by simp only [size] at enough; omega
    simp [all, put, size, some]
  | copy length distance =>
    have short : length ≤ count := enough
    rw [all, put, put, size, Nat.min_self, Nat.min_eq_right short]

@[simp] theorem put_zero (addition : Addition) (output : ByteArray) : addition.put 0 output = output := by
  cases addition <;> simp [put, repeatBytes]

@[simp] theorem drop_zero (addition : Addition) : addition.drop 0 = addition := by
  cases addition <;> simp [drop]

theorem reach_drop (addition : Addition) (count : Nat) : (addition.drop count).reach ≤ addition.reach := by
  cases addition with
  | nothing => exact Nat.le_refl _
  | literal byte => by_cases none : count = 0 <;> simp [drop, reach, none]
  | copy length distance => exact Nat.le_refl _

theorem put_extends (addition : Addition) (count : Nat) (output : ByteArray) :
    ∃ more, addition.put count output = output ++ more := by
  have push (byte : UInt8) (output : ByteArray) : output.push byte = output ++ ByteArray.empty.push byte := by
    apply ByteArray.ext
    simp
  have repeats (distance count : Nat) (output : ByteArray) : ∃ more,
    repeatBytes distance count output = output ++ more := by
    induction count generalizing output with
    | zero => exact ⟨.empty, by simp [repeatBytes]⟩
    | succ count ih =>
      obtain ⟨more, further⟩ := ih (output.push (output[output.size - distance]?.getD 0))
      rw [push, ByteArray.append_assoc, ← push] at further
      exact ⟨_, further⟩
  cases addition with
  | nothing => exact ⟨.empty, by simp [put]⟩
  | literal byte =>
    by_cases none : count = 0
    · exact ⟨.empty, by simp [none]⟩
    · exact ⟨_, by rw [put, if_neg none, push]⟩
  | copy length distance => exact repeats _ _ _

/-- An addition that reaches back brings something. -/
def Sound (addition : Addition) : Prop :=
  addition.size = 0 → addition.reach = 0

end Addition

/-! ### Streams -/

/-- The bits unpack to this, with so much put out already. -/
inductive Unpacks : Mode → Bits → ByteArray → ByteArray → Prop where
  | complete (bits : Bits) (output : ByteArray) : Unpacks .complete bits output output
  | step {mode after : Mode} {addition : Addition} {bits rest : Bits} {output result : ByteArray}
      (found : step mode bits = .ok (addition, after, rest)) (inside : addition.reach ≤ output.size)
      (further : Unpacks after rest (addition.all output) result) : Unpacks mode bits output result

variable {mode after : Mode} {pending addition : Addition} {bits rest : Bits} {output result : ByteArray} {limit : Nat}

theorem Unpacks.unique {other : ByteArray} (unpacks : Unpacks mode bits output result)
    (also : Unpacks mode bits output other) :
    other = result := by
  induction unpacks with
  | complete => cases also with
    | complete => rfl
    | step found => cases found
  | step found inside further ih => cases also with
    | complete => cases found
    | step again within onward =>
      cases found.symm.trans again
      exact ih onward

/-- What is pending and then the bits unpack to this. -/
def Due (mode : Mode) (pending : Addition) (bits : Bits) (output result : ByteArray) : Prop :=
  pending.reach ≤ output.size ∧ Unpacks mode bits (pending.all output) result

theorem due_complete : Due .complete .nothing bits output result ↔ output = result := by
  constructor
  · rintro ⟨-, unpacks⟩
    cases unpacks with
    | complete => rfl
    | step found => cases found
  · rintro rfl
    exact ⟨Nat.zero_le _, .complete _ _⟩

theorem due_step (found : step mode bits = .ok (addition, after, rest)) (inside : pending.reach ≤ output.size) :
    Due mode pending bits output result ↔ Due after addition rest (pending.all output) result := by
  constructor
  · rintro ⟨-, unpacks⟩
    cases unpacks with
    | complete => cases found
    | step again within further =>
      cases found.symm.trans again
      exact ⟨within, further⟩
  · rintro ⟨within, further⟩
    exact ⟨inside, .step found within further⟩

theorem not_due {stop : Stop} (found : step mode bits = .error stop) (unfinished : mode ≠ .complete) :
    ¬ Due mode pending bits output result := by
  rintro ⟨-, unpacks⟩
  cases unpacks with
  | complete => exact unfinished rfl
  | step taken => cases found.symm.trans taken

theorem due_drop {count : Nat} (inside : 0 < count → pending.reach ≤ output.size) :
    Due mode pending bits output result ↔ Due mode (pending.drop count) bits (pending.put count output) result := by
  unfold Due
  rw [Addition.all_drop]
  refine and_congr_left fun _ => ?_
  by_cases none : count = 0
  · simp [none]
  · have within := inside (Nat.pos_of_ne_zero none)
    obtain ⟨more, further⟩ := pending.put_extends count output
    refine iff_of_true within (Nat.le_trans (pending.reach_drop count) ?_)
    rw [further, ByteArray.size_append]
    omega

/-! ### Decoders -/

/-- What the decoder still has to do is what was due. -/
structure Leaves (mode : Mode) (pending : Addition) (bits : Bits) (output : ByteArray) (decoder : Decoder) : Prop where
  before : bits.Before decoder.bits
  onward : ∃ given, decoder.output = output ++ given
  sound : decoder.pending.Sound
  due : ∀ limit result, bits.limit ≤ limit → (Due mode pending (bits.upTo limit) output result ↔
    Due decoder.mode decoder.pending (decoder.bits.upTo limit) decoder.output result)

/-- What a pause of a decoder means for the stream. -/
def Pauses (mode : Mode) (pending : Addition) (bits : Bits) (output : ByteArray) : Decoder × Pause → Prop
  | (_, .invalid) => ∀ limit result, bits.limit ≤ limit → ¬ Due mode pending (bits.upTo limit) output result
  | (decoder, .full) => Leaves mode pending bits output decoder
  | (decoder, .complete) =>
      Leaves mode pending bits output decoder ∧ decoder.mode = .complete ∧ decoder.pending = .nothing
  | (decoder, .exhausted) => Leaves mode pending bits output decoder ∧ decoder.mode ≠ .complete ∧
      step decoder.mode decoder.bits = .error .exhausted

theorem Pauses.further {room : Nat} {paused : Decoder × Pause}
    (pauses : Pauses after addition rest (pending.put room output) paused) (enough : pending.size ≤ room)
    (found : step mode bits = .ok (addition, after, rest)) (inside : pending.reach ≤ output.size) :
    Pauses mode pending bits output paused := by
  rw [Addition.put_of_size_le enough] at pauses
  obtain ⟨bytes, same⟩ := before_of_step found
  have leaves {decoder : Decoder} (leaves : Leaves after addition rest (pending.all output) decoder) :
      Leaves mode pending bits output decoder := by
    refine ⟨⟨leaves.before.1.trans bytes, leaves.before.2.trans same⟩, ?_, leaves.sound, fun limit result more => ?_⟩
    · obtain ⟨given, further⟩ := leaves.onward
      obtain ⟨more, put⟩ := pending.put_extends pending.size output
      exact ⟨more ++ given, by rw [further, ← ByteArray.append_assoc, ← put]; rfl⟩
    · rw [due_step (step_upTo found more) inside]
      exact leaves.due limit result (same ▸ more)
  obtain ⟨decoder, pause⟩ := paused
  cases pause with
  | complete => exact ⟨leaves pauses.1, pauses.2⟩
  | full => exact leaves pauses
  | exhausted => exact ⟨leaves pauses.1, pauses.2⟩
  | invalid =>
    intro limit result more due
    exact pauses limit result (same ▸ more) ((due_step (step_upTo found more) inside).mp due)

theorem leaves_put {room : Nat} (enough : pending.size ≤ room) (inside : pending.reach ≤ output.size) :
    Leaves mode pending bits output ⟨mode, .nothing, bits, pending.put room output⟩ where
  before := ⟨rfl, rfl⟩
  onward := pending.put_extends _ _
  sound _ := rfl
  due _ _ _ := by
    rw [Addition.put_of_size_le enough]
    exact ⟨fun due => ⟨Nat.zero_le _, due.2⟩, fun due => ⟨inside, due.2⟩⟩

theorem leaves_drop {room : Nat} (inside : 0 < room → pending.reach ≤ output.size) (short : room < pending.size) :
    Leaves mode pending bits output ⟨mode, pending.drop room, bits, pending.put room output⟩ where
  before := ⟨rfl, rfl⟩
  onward := pending.put_extends _ _
  sound none := by
    rw [Addition.size_drop] at none
    omega
  due _ _ _ := due_drop inside

theorem pauses_decode (capacity : Nat) (sound : pending.Sound) :
    Pauses mode pending bits output (decode capacity mode pending bits output) := by
  have within {pending : Addition} {output : ByteArray} {room : Nat}
      (within : ¬ (decide (0 < room) && decide (output.size < pending.reach)) = true) :
      0 < room → pending.reach ≤ output.size := by
    simpa using within
  have inside {pending : Addition} {output : ByteArray} {room : Nat} (sound : pending.Sound)
      (inside : 0 < room → pending.reach ≤ output.size) (enough : ¬ room < pending.size) :
      pending.reach ≤ output.size := by
    by_cases some : 0 < room
    · exact inside some
    · rw [sound (by omega)]
      exact Nat.zero_le _
  fun_induction decode capacity mode pending bits output with
  | case1 mode pending bits output room beyond =>
    rintro limit result - ⟨inside, -⟩
    simp only [Bool.and_eq_true, decide_eq_true_eq] at beyond
    omega
  | case2 mode pending bits output room beyond _ short => exact leaves_drop (within beyond) short
  | case3 mode pending bits output room beyond _ enough addition after rest found _ ih =>
    exact (ih (reach_of_step found)).further (Nat.le_of_not_lt enough) found (inside sound (within beyond) enough)
  | case4 mode pending bits output room beyond _ enough found =>
    intro limit result more
    exact not_due (invalid_upTo found more) (by rintro rfl; cases found)
  | case5 pending bits output room beyond _ enough =>
    exact ⟨leaves_put (Nat.le_of_not_lt enough) (inside sound (within beyond) enough), rfl, rfl⟩
  | case6 pending bits output room beyond _ enough mode found unfinished =>
    refine ⟨leaves_put (Nat.le_of_not_lt enough) (inside sound (within beyond) enough), fun ended => ?_, found⟩
    subst ended
    exact unfinished rfl rfl HEq.rfl

/-! ### Requests -/

/-- The decoder is within the first `reached` bytes of the stream. -/
structure Decoder.Within (decoder : Decoder) (compressed : ByteArray) (reached : Nat) : Prop where
  bytes : decoder.bits.bytes = compressed
  limit : decoder.bits.limit = 8 * reached
  reached : reached ≤ compressed.size
  sound : decoder.pending.Sound

/-- What the decoder still has to do unpacks to this, with the whole stream at hand. -/
def Decoder.Due (decoder : Decoder) (result : ByteArray) : Prop :=
  Deflate.Due decoder.mode decoder.pending (decoder.bits.upTo (8 * decoder.bits.bytes.size)) decoder.output result

/-- Requests come to the end of a stream with this result. -/
def Inflated.Gives (inflated : Inflated) (output result : ByteArray) : Prop :=
  inflated.pause = .complete ∧ output ++ inflated.output = result

section Answers

variable {decoder next : Decoder} {compressed : ByteArray} {reached further : Nat} {rest : Inflated}

theorem Decoder.Within.more (within : decoder.Within compressed reached) :
    decoder.bits.limit ≤ 8 * decoder.bits.bytes.size := by
  rw [within.limit, within.bytes]
  exact Nat.mul_le_mul_left 8 within.reached

theorem Leaves.within (leaves : Leaves decoder.mode decoder.pending decoder.bits decoder.output next)
    (within : decoder.Within compressed reached) : next.Within compressed reached :=
  ⟨leaves.before.1.trans within.bytes, leaves.before.2.trans within.limit, within.reached, leaves.sound⟩

theorem Leaves.due_iff (leaves : Leaves decoder.mode decoder.pending decoder.bits decoder.output next)
    (within : decoder.Within compressed reached) : decoder.Due result ↔ next.Due result := by
  unfold Decoder.Due
  rw [leaves.due _ _ within.more, leaves.before.1]

theorem Leaves.gives_iff (leaves : Leaves decoder.mode decoder.pending decoder.bits decoder.output next) :
    Inflated.Gives ⟨next.output.extract decoder.output.size next.output.size :: rest.pieces, rest.pause⟩
    decoder.output result ↔
      rest.Gives next.output result := by
  obtain ⟨given, same⟩ := leaves.onward
  unfold Inflated.Gives Inflated.output
  rw [same, Stream.foldl_append, Stream.foldl_append, Stream.joined_cons, ByteArray.size_append,
    ByteArray.extract_append_eq_right rfl rfl, ByteArray.empty_append, ByteArray.empty_append, ByteArray.append_assoc]

theorem Decoder.Within.refill (within : decoder.Within compressed reached) (inside : further ≤ compressed.size) :
    (decoder.refill compressed further).Within compressed further :=
  ⟨rfl, rfl, inside, within.sound⟩

theorem Decoder.Within.due_refill (within : decoder.Within compressed reached) :
    (decoder.refill compressed further).Due result ↔ decoder.Due result := by
  unfold Decoder.Due Decoder.refill Bits.upTo
  rw [within.bytes]

theorem Decoder.Within.pauses {capacity : Nat} {paused : Decoder × Pause} (within : decoder.Within compressed reached)
    (found : decode capacity decoder.mode decoder.pending decoder.bits decoder.output = paused) :
    Pauses decoder.mode decoder.pending decoder.bits decoder.output paused :=
  found ▸ pauses_decode capacity within.sound

/-- Requests come to the end of a stream just if it unpacks, and give what it unpacks to. -/
theorem gives_answer (buffer : Nat) (within : decoder.Within compressed reached) :
    (answer compressed buffer reached decoder).Gives decoder.output result ↔ decoder.Due result := by
  fun_induction answer compressed buffer reached decoder with
  | case1 reached mode pending bits output known next found =>
    exact iff_of_false nofun (within.pauses found _ _ within.more)
  | case2 reached mode pending bits output known next found =>
    obtain ⟨leaves, ended, nothing⟩ := within.pauses found
    rw [leaves.due_iff within, Decoder.Due, ended, nothing, due_complete]
    have whole : _ ↔ Inflated.Gives ⟨[], .complete⟩ next.output result := leaves.gives_iff
    exact whole.trans (by simp [Inflated.Gives, Inflated.output])
  | case3 reached mode pending bits output known next found given more further rest ih =>
    obtain ⟨leaves, -, -⟩ := within.pauses found
    have still := leaves.within within
    rw [leaves.due_iff within, ← still.due_refill, ← ih (still.refill (Nat.min_le_left _ _))]
    exact leaves.gives_iff
  | case4 reached mode pending bits output known next found given all =>
    obtain ⟨leaves, unfinished, exhausted⟩ := within.pauses found
    have still := leaves.within within
    rw [leaves.due_iff within]
    -- All of the stream is before the decoder, so what it lacks does not follow.
    have whole : 8 * next.bits.bytes.size = next.bits.limit := by
      rw [still.limit, still.bytes]
      have := still.reached
      omega
    refine iff_of_false nofun ?_
    rw [Decoder.Due, whole]
    exact not_due exhausted unfinished
  | case5 reached mode pending bits output known next found given more further rest ih =>
    have leaves := within.pauses found
    have still := leaves.within within
    rw [leaves.due_iff within, ← still.due_refill, ← ih (still.refill (Nat.min_le_left _ _))]
    exact leaves.gives_iff
  | case6 reached mode pending bits output known next found given more _ rest ih =>
    have leaves := within.pauses found
    rw [leaves.due_iff within, ← ih (leaves.within within)]
    exact leaves.gives_iff

/-- Requests for any number of bytes come to the end of a stream just if it unpacks, and give what it unpacks to. -/
theorem inflate_iff (buffer : Nat) (compressed : ByteArray) :
    (inflate buffer compressed).pause = .complete ∧ (inflate buffer compressed).output = result ↔
      Unpacks .header ⟨compressed, 0, 8 * compressed.size⟩ .empty result := by
  have within : Decoder.Within ⟨.header, .nothing, ⟨compressed, 0, 0⟩, .empty⟩ compressed 0 :=
    ⟨rfl, rfl, Nat.zero_le _, fun _ => rfl⟩
  have gives : Inflated.Gives _ _ result ↔ _ := gives_answer buffer within
  unfold Inflated.Gives at gives
  rw [ByteArray.empty_append] at gives
  exact gives.trans (and_iff_right (Nat.zero_le _))

end Answers

end WheelInstaller.Deflate
