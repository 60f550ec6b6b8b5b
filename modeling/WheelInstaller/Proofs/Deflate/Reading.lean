import WheelInstaller.Deflate.Step

/-! Reading does not depend on how much of a stream is at hand. What a reader makes of some bits it makes of any more
of them, unless it says that the bits do not suffice. -/

namespace WheelInstaller.Deflate

variable {α β : Type}

/-- The same bits, but up to another limit. -/
def Bits.upTo (bits : Bits) (limit : Nat) : Bits :=
  { bits with limit }

/-- What is left of the same stream up to the same limit. -/
def Bits.Before (bits rest : Bits) : Prop :=
  rest.bytes = bits.bytes ∧ rest.limit = bits.limit

/-- What is read stays the same with more bits at hand; and so does that nothing can be read. -/
structure Stable (read : Bits → Except Stop (α × Bits)) : Prop where
  before : ∀ {bits rest : Bits} {value : α}, read bits = .ok (value, rest) → bits.Before rest
  ok : ∀ {bits rest : Bits} {value : α} {limit : Nat}, read bits = .ok (value, rest) → bits.limit ≤ limit →
    read (bits.upTo limit) = .ok (value, rest.upTo limit)
  invalid : ∀ {bits : Bits} {limit : Nat}, read bits = .error .invalid → bits.limit ≤ limit →
    read (bits.upTo limit) = .error .invalid

namespace Stable

variable {read other : Bits → Except Stop (α × Bits)}

theorem value (value : α) : Stable fun bits => .ok (value, bits) where
  before found := by cases found; exact ⟨rfl, rfl⟩
  ok found _ := by cases found; rfl
  invalid found := nomatch found

theorem refused {stop : Stop} : Stable fun _ => (.error stop : Except Stop (α × Bits)) where
  before found := nomatch found
  ok found := nomatch found
  invalid found _ := found

theorem bind {next : α × Bits → Except Stop (β × Bits)} (stable : Stable read)
    (further : ∀ value, Stable fun rest => next (value, rest)) : Stable fun bits => read bits >>= next where
  before {bits rest value} found := by
    cases first : read bits with
    | error => simp [first, Bind.bind, Except.bind] at found
    | ok pair =>
      simp only [first, Bind.bind, Except.bind] at found
      obtain ⟨bytes, limit⟩ := stable.before first
      obtain ⟨sameBytes, sameLimit⟩ := (further pair.1).before found
      exact ⟨sameBytes.trans bytes, sameLimit.trans limit⟩
  ok {bits rest value limit} found more := by
    cases first : read bits with
    | error => simp [first, Bind.bind, Except.bind] at found
    | ok pair =>
      simp only [first, Bind.bind, Except.bind] at found ⊢
      rw [stable.ok first more]
      exact (further pair.1).ok found ((stable.before first).2 ▸ more)
  invalid {bits limit} found more := by
    cases first : read bits with
    | error =>
      simp only [first, Bind.bind, Except.bind] at found ⊢
      cases found
      rw [stable.invalid first more]
    | ok pair =>
      simp only [first, Bind.bind, Except.bind] at found ⊢
      rw [stable.ok first more]
      exact (further pair.1).invalid found ((stable.before first).2 ▸ more)

theorem ite {condition : Prop} [Decidable condition] (stable : condition → Stable read)
    (also : ¬ condition → Stable other) :
    Stable fun bits => if condition then read bits else other bits := by
  by_cases holds : condition
  · simpa only [if_pos holds] using stable holds
  · simpa only [if_neg holds] using also holds

theorem after {γ : Type} {next : γ → Bits → Except Stop (α × Bits)} (outcome : Except Stop γ)
    (stable : ∀ value, Stable (next value)) : Stable fun bits => outcome >>= fun value => next value bits :=
  match outcome with
  | .error _ => refused
  | .ok value => stable value

theorem align (stable : Stable read) : Stable fun bits => read bits.align where
  before found := by
    have onward := stable.before found
    exact onward
  ok found more := by
    have still := stable.ok found more
    exact still
  invalid found more := by
    have still := stable.invalid found more
    exact still

end Stable

def takeBit (bits : Bits) : Except Stop (Bool × Bits) :=
  if bits.left = 0 then .error .exhausted else .ok (bits.next, bits.skip 1)

theorem stable_takeBit : Stable takeBit where
  before {bits rest value} found := by
    unfold takeBit at found
    split at found
    · cases found
    · cases found
      exact ⟨rfl, rfl⟩
  ok {bits rest value limit} found more := by
    unfold takeBit at found ⊢
    split at found
    · cases found
    next some =>
      cases found
      have still : (bits.upTo limit).left ≠ 0 := by
        simp only [Bits.left, Bits.upTo] at some ⊢
        omega
      rw [if_neg still]
      rfl
  invalid found := by
    unfold takeBit at found
    split at found <;> cases found

theorem takeNumber_succ (width : Nat) (bits : Bits) : takeNumber (width + 1) bits = do
    let (bit, rest) ← takeBit bits
    let (high, rest) ← takeNumber width rest
    return (bit.toNat + 2 * high, rest) := by
  rw [takeNumber, takeBit]
  split <;> rfl

theorem stable_takeNumber (width : Nat) : Stable (takeNumber width) := by
  induction width with
  | zero => exact .value 0
  | succ width ih =>
    rw [funext (takeNumber_succ width)]
    exact stable_takeBit.bind fun _ => ih.bind fun _ => .value _

theorem readWord_cons (symbols : Array Nat) (count : Nat) (longer : List Nat) (word first index : Nat) (bits : Bits) :
    PrefixCode.readWord symbols (count :: longer) word first index bits =
      takeBit bits >>= fun (bit, rest) =>
        if word + bit.toNat < first + count then .ok (symbols.getD (index + (word + bit.toNat - first)) 0, rest)
        else PrefixCode.readWord symbols longer (2 * (word + bit.toNat))
        (2 * (first + count)) (index + count) rest := by
  rw [PrefixCode.readWord, takeBit]
  split <;> rfl

theorem stable_readWord (symbols : Array Nat) (counts : List Nat) (word first index : Nat) :
    Stable (PrefixCode.readWord symbols counts word first index) := by
  induction counts generalizing word first index with
  | nil => exact .refused
  | cons count longer ih =>
    rw [funext (readWord_cons symbols count longer word first index)]
    exact stable_takeBit.bind fun _ => .ite (fun _ => .value _) fun _ => ih _ _ _

theorem stable_read (code : PrefixCode) : Stable code.read :=
  stable_readWord _ _ _ _ _

theorem stable_readByRule (rules : List (Nat × Nat)) (symbol : Nat) : Stable (readByRule rules symbol) := by
  unfold readByRule
  cases rules[symbol]? with
  | none => exact .refused
  | some rule => exact (stable_takeNumber _).bind fun _ => .value _

theorem stable_readDistance (code : PrefixCode) : Stable (readDistance code) :=
  (stable_read code).bind fun symbol => stable_readByRule _ symbol

theorem stable_readTriples (count : Nat) : Stable (readTriples count) := by
  induction count with
  | zero => exact .value []
  | succ count ih => exact (stable_takeNumber 3).bind fun _ => ih.bind fun _ => .value _

theorem stable_readRun (symbol : Nat) (previous : Option Nat) : Stable (readRun symbol previous) := by
  refine .ite (fun _ => .value _) fun _ => .ite (fun _ => ?_) fun _ => .ite (fun _ => ?_) fun _ => ?_
  · refine (stable_takeNumber 2).bind fun _ => ?_
    cases previous with
    | none => exact .refused
    | some length => exact .value _
  · exact (stable_takeNumber 3).bind fun _ => .value _
  · exact (stable_takeNumber 7).bind fun _ => .value _

theorem stable_readLengths (code : PrefixCode) (rounds missing : Nat) (latest : List Nat) :
    Stable (readLengths code rounds missing latest) := by
  induction rounds generalizing missing latest with
  | zero =>
    cases missing with
    | zero => exact .value latest.reverse
    | succ missing => exact .refused
  | succ rounds ih =>
    cases missing with
    | zero => exact .value latest.reverse
    | succ missing =>
      exact (stable_read code).bind fun symbol => (stable_readRun symbol _).bind fun run =>
        .ite (fun _ => .refused) fun _ => ih _ _

theorem stable_readCodes : Stable readCodes :=
  (stable_takeNumber 14).bind fun _ => .ite (fun _ => .refused) fun _ => (stable_readTriples _).bind fun stored =>
    .after (lengthCode stored) fun code => (stable_readLengths code _ _ _).bind fun _ =>
      .ite (fun _ => .refused) fun _ => .ite (fun _ => .value _) fun _ => .refused

theorem stable_readStored (final : Bool) : Stable (readStored final) :=
  Stable.align ((stable_takeNumber 16).bind fun _ => (stable_takeNumber 16).bind fun _ =>
    .ite (fun _ => .refused) fun _ => .value _)

theorem stable_readStart (kind : Nat) (final : Bool) : Stable (readStart kind final) :=
  .ite (fun _ => stable_readStored final) fun _ => .ite (fun _ => .value _) fun _ =>
    .ite (fun _ => stable_readCodes.bind fun _ => .value _) fun _ => .refused

theorem stable_readHeader : Stable readHeader :=
  (stable_takeNumber 3).bind fun _ => stable_readStart _ _

/-- What a step makes, with the bits after it last. -/
def regroup : Addition × Mode × Bits → (Addition × Mode) × Bits
  | (addition, mode, rest) => ((addition, mode), rest)

theorem regroup_eq_ok {outcome : Except Stop (Addition × Mode × Bits)} {addition : Addition}
    {mode : Mode} {rest : Bits} :
    regroup <$> outcome = .ok ((addition, mode), rest) ↔ outcome = .ok (addition, mode, rest) := by
  cases outcome with
  | error => exact ⟨nofun, nofun⟩
  | ok made =>
    obtain ⟨_, _, _⟩ := made
    constructor <;> rintro ⟨⟩ <;> rfl

theorem regroup_eq_error {outcome : Except Stop (Addition × Mode × Bits)} {stop : Stop} :
    regroup <$> outcome = .error stop ↔ outcome = .error stop := by
  cases outcome with
  | error => constructor <;> rintro ⟨⟩ <;> rfl
  | ok => exact ⟨nofun, nofun⟩

theorem stable_readSymbol (codes : BlockCodes) (final : Bool) : Stable fun bits =>
    regroup <$> readSymbol codes final bits := by
  simp only [readSymbol, map_bind, apply_ite (Functor.map regroup), map_pure]
  refine (stable_read _).bind fun symbol => ?_
  dsimp only [regroup]
  by_cases literal : symbol < endOfBlock
  · simp only [if_pos literal]
    exact .value _
  by_cases ended : symbol = endOfBlock
  · simp only [if_neg literal, if_pos ended]
    exact .value _
  simp only [if_neg literal, if_neg ended]
  refine (stable_readByRule _ _).bind fun length => ?_
  dsimp only
  exact (stable_readDistance _).bind fun distance => .value (Addition.copy length distance, Mode.coded codes final)

theorem stable_step (mode : Mode) : Stable fun bits => regroup <$> step mode bits := by
  cases mode with
  | header =>
    simp only [step, map_bind, map_pure]
    exact stable_readHeader.bind fun mode => .value (Addition.nothing, mode)
  | stored count final =>
    simp only [step, map_bind, map_pure]
    refine (stable_takeNumber 8).bind fun byte => ?_
    dsimp only [regroup]
    exact .value _
  | coded codes final => exact stable_readSymbol codes final
  | complete => exact .refused

section Step

variable {mode after : Mode} {addition : Addition} {bits rest : Bits} {limit : Nat}

theorem before_of_step (found : step mode bits = .ok (addition, after, rest)) : bits.Before rest :=
  (stable_step mode).before (regroup_eq_ok.mpr found)

theorem step_upTo (found : step mode bits = .ok (addition, after, rest)) (more : bits.limit ≤ limit) :
    step mode (bits.upTo limit) = .ok (addition, after, rest.upTo limit) :=
  regroup_eq_ok.mp ((stable_step mode).ok (regroup_eq_ok.mpr found) more)

theorem invalid_upTo (found : step mode bits = .error .invalid) (more : bits.limit ≤ limit) :
    step mode (bits.upTo limit) = .error .invalid :=
  regroup_eq_error.mp ((stable_step mode).invalid (regroup_eq_error.mpr found) more)

theorem length_of_readByRule {symbol length : Nat} (found : readByRule lengthRules symbol bits = .ok (length, rest)) :
    0 < length := by
  have shortest : ∀ rule ∈ lengthRules, 0 < rule.1 := by decide
  unfold readByRule at found
  cases named : lengthRules[symbol]? with
  | none => simp [named] at found
  | some rule =>
    have positive := shortest rule (List.mem_of_getElem? named)
    simp only [named, bind, Except.bind, pure, Except.pure] at found
    split at found
    · cases found
    · cases found
      omega

theorem reach_of_step (found : step mode bits = .ok (addition, after, rest)) (nothing : addition.size = 0) :
    addition.reach = 0 := by
  cases addition with
  | nothing => rfl
  | literal byte => rfl
  | copy length distance =>
    exfalso
    -- Matches only come from symbols, and every match length is positive.
    have coded {codes : BlockCodes} {final : Bool}
      (read : readSymbol codes final bits = .ok (.copy length distance, after, rest)) :
        0 < length := by
      simp only [readSymbol, bind, Except.bind, pure, Except.pure] at read
      split at read
      · cases read
      split at read
      · cases read
      split at read
      · cases read
      split at read
      · cases read
      next taken =>
        split at read
        · cases read
        · cases read
          exact length_of_readByRule taken
    simp only [Addition.size] at nothing
    cases mode with
    | header =>
      simp only [step, bind, Except.bind, pure, Except.pure] at found
      split at found <;> cases found
    | stored count final =>
      simp only [step, bind, Except.bind, pure, Except.pure] at found
      split at found <;> cases found
    | coded codes final => exact absurd (coded found) (by omega)
    | complete => cases found

end Step

end WheelInstaller.Deflate
