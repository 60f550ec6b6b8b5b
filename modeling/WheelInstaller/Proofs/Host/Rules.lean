import WheelInstaller.Host.Program
import WheelInstaller.Proofs.Path.Components

/-! Assertions about programs. A host answers by rules, in more than one way if they leave it a choice;
what is asserted of a program holds under every answer that they allow. -/

namespace WheelInstaller.Host

variable {σ α β γ δ ε : Type}

namespace Program

theorem bind_done (program : Program α) : program.bind .done = program := by
  induction program with
  | done value => rfl
  | ask request rest ih => simp [bind, ih]

theorem bind_assoc (program : Program α) (first : α → Program β) (second : β → Program γ) :
    (program.bind first).bind second = program.bind fun value => (first value).bind second := by
  induction program with
  | done value => rfl
  | ask request rest ih => simp [bind, ih]

instance : LawfulMonad Program :=
  .mk' Program bind_done (fun _ _ => rfl) bind_assoc

theorem run_bind {respond : (request : Request) → σ → request.Answer × σ} (program : Program α)
    (next : α → Program β) (state : σ) :
    (program >>= next).run respond state =
      (next (program.run respond state).1).run respond (program.run respond state).2 := by
  change (program.bind next).run respond state = _
  induction program generalizing state with
  | done value => rfl
  | ask request rest ih => exact ih _ _

theorem run_andThen {respond : (request : Request) → σ → request.Answer × σ} (first : Attempt ε α)
    (next : α → Attempt ε β) (state : σ) :
    (first >>= next).run.run respond state =
      match first.run.run respond state with
      | (.ok value, after) => (next value).run.run respond after
      | (.error error, after) => (.error error, after) := by
  change (first.run >>= ExceptT.bindCont next).run respond state = _
  rw [run_bind]
  cases first.run.run respond state with
  | mk outcome after => cases outcome <;> rfl

theorem run_next {respond : (request : Request) → σ → request.Answer × σ} {first : Attempt ε α}
    {state mid : σ} {value : α} (ran : first.run.run respond state = (.ok value, mid)) (next : α → Attempt ε β) :
    (first >>= next).run.run respond state = (next value).run.run respond mid := by
  rw [run_andThen, ran]

theorem run_attemptAs {respond : (request : Request) → σ → request.Answer × σ} (wrap : δ → ε)
    (program : Program (Except δ α)) (state : σ) :
    (attemptAs wrap program).run.run respond state =
      ((program.run respond state).1.mapError wrap, (program.run respond state).2) := by
  change (program >>= fun outcome => pure (outcome.mapError wrap)).run respond state = _
  rw [run_bind]
  rfl

theorem run_attemptAs_of {respond : (request : Request) → σ → request.Answer × σ} (wrap : δ → ε) {work : Attempt δ α}
    {state after : σ} {told : Except δ α} (ran : work.run.run respond state = (told, after)) :
    (attemptAs wrap work).run.run respond state = (told.mapError wrap, after) :=
  (run_attemptAs wrap work.run state).trans (by rw [ran])

end Program

/-- What a host may answer in a state, with the state after that, and what it may be asked for. -/
structure Rules (σ : Type) where
  replies : (request : Request) → σ → request.Answer → σ → Prop
  permits : Request → σ → Prop := fun _ _ => True

namespace Rules

variable (rules : Rules σ)

/-- Only what is permitted is asked for, and the end is as asserted. -/
def Safe (post : α → σ → Prop) : Program α → σ → Prop
  | .done value, state => post value state
  | .ask request next, state =>
    rules.permits request state ∧
      ∀ answer after, rules.replies request state answer after → Safe post (next answer) after

/-- The assertion holds at every instant, of the state and what is left of the program. -/
def Throughout (holds : Program α → σ → Prop) : Program α → σ → Prop
  | .done value, state => holds (.done value) state
  | .ask request next, state =>
    holds (.ask request next) state ∧
      ∀ answer after, rules.replies request state answer after → Throughout holds (next answer) after

variable {rules}

theorem Safe.weaken {post other : α → σ → Prop} {program : Program α} {state : σ} (safe : rules.Safe post program state)
    (implies : ∀ value after, post value after → other value after) : rules.Safe other program state := by
  induction program generalizing state with
  | done value => exact implies value state safe
  | ask request next ih => exact ⟨safe.1, fun answer after replies => ih answer (safe.2 answer after replies)⟩

theorem Safe.and {post other : α → σ → Prop} {program : Program α} {state : σ} (safe : rules.Safe post program state)
    (also : rules.Safe other program state) :
    rules.Safe (fun value after => post value after ∧ other value after) program state := by
  induction program generalizing state with
  | done value => exact ⟨safe, also⟩
  | ask request next ih =>
    exact ⟨safe.1, fun answer after replies => ih answer (safe.2 answer after replies) (also.2 answer after replies)⟩

theorem Throughout.weaken {holds other : Program α → σ → Prop} {program : Program α} {state : σ}
    (throughout : rules.Throughout holds program state)
    (implies : ∀ rest now, holds rest now → other rest now) : rules.Throughout other program state := by
  induction program generalizing state with
  | done value => exact implies _ state throughout
  | ask request next ih =>
    exact ⟨implies _ state throughout.1, fun answer after replies => ih answer (throughout.2 answer after replies)⟩

theorem Throughout.and {holds other : Program α → σ → Prop} {program : Program α} {state : σ}
    (throughout : rules.Throughout holds program state) (also : rules.Throughout other program state) :
    rules.Throughout (fun rest now => holds rest now ∧ other rest now) program state := by
  induction program generalizing state with
  | done value => exact ⟨throughout, also⟩
  | ask request next ih =>
    exact ⟨⟨throughout.1, also.1⟩, fun answer after replies => ih answer (throughout.2 answer after replies)
      (also.2 answer after replies)⟩

/-- What is asserted of a program is at every instant asserted of what is left of it. -/
theorem Safe.throughout {post : α → σ → Prop} {program : Program α} {state : σ} (safe : rules.Safe post program state) :
    rules.Throughout (rules.Safe post) program state := by
  induction program generalizing state with
  | done value => exact safe
  | ask request next ih => exact ⟨safe, fun answer after replies => ih answer (safe.2 answer after replies)⟩

theorem safe_bind {post : β → σ → Prop} {program : Program α} {next : α → Program β} {state : σ} :
    rules.Safe post (program >>= next) state ↔
      rules.Safe (fun value after => rules.Safe post (next value) after) program state := by
  change rules.Safe post (program.bind next) state ↔ _
  induction program generalizing state with
  | done value => exact Iff.rfl
  | ask request rest ih =>
    simp only [Program.bind, Safe]
    exact and_congr_right fun _ => forall₂_congr fun answer after => imp_congr_right fun _ => ih answer

@[simp] theorem safe_pure {post : α → σ → Prop} {value : α} {state : σ} :
    rules.Safe post (pure value : Program α) state ↔ post value state :=
  Iff.rfl

@[simp] theorem safe_request {request : Request} {post : request.Answer → σ → Prop} {state : σ} :
    rules.Safe post (Program.request request) state ↔
      rules.permits request state ∧ ∀ answer after, rules.replies request state answer after → post answer after :=
  Iff.rfl

/-! Programs that can fail stop at the first failure. -/

/-- What is asserted of a success, and what of a failure. -/
def Ends (good : α → σ → Prop) (bad : ε → σ → Prop) : Except ε α → σ → Prop
  | .ok value, state => good value state
  | .error error, state => bad error state

section Attempts

variable {good : β → σ → Prop} {mid : α → σ → Prop} {bad : ε → σ → Prop} {state : σ}

theorem Safe.andThen {first : Attempt ε α} {next : α → Attempt ε β} (safe : rules.Safe (Ends mid bad) first.run state)
    (further : ∀ value after, mid value after → rules.Safe (Ends good bad) (next value).run after) :
    rules.Safe (Ends good bad) (first >>= next).run state := by
  change rules.Safe (Ends good bad) (ExceptT.bind first next) state
  unfold ExceptT.bind ExceptT.mk
  rw [safe_bind]
  refine safe.weaken fun outcome after ended => ?_
  cases outcome with
  | ok value => exact further value after ended
  | error error => exact ended

theorem Safe.lift {program : Program α} (safe : rules.Safe mid program state) :
    rules.Safe (Ends mid bad) (liftM program : ExceptT ε Program α).run state := by
  change rules.Safe (Ends mid bad) (program >>= fun value => pure (.ok value)) state
  rw [safe_bind]
  exact safe

theorem Safe.wrapped {wrap : δ → ε} {program : Program (Except δ α)}
    (safe : rules.Safe (Ends mid fun error => bad (wrap error)) program state) :
    rules.Safe (Ends mid bad) (attemptAs wrap program).run state := by
  change rules.Safe (Ends mid bad) (program >>= fun outcome => pure (outcome.mapError wrap)) state
  rw [safe_bind]
  refine safe.weaken fun outcome after ended => ?_
  cases outcome <;> exact ended

theorem Safe.settled {outcome : Except ε α} (ended : Ends mid bad outcome state) :
    rules.Safe (Ends mid bad) (settled outcome).run state :=
  ended

theorem Safe.returned {value : α} (ended : mid value state) : rules.Safe (Ends mid bad)
    (pure value : Attempt ε α).run state :=
  ended

theorem Ends.imp {other : α → σ → Prop} {worse : ε → σ → Prop} {outcome : Except ε α}
    (ended : Ends mid bad outcome state)
    (success : ∀ value, outcome = .ok value → mid value state → other value state)
    (failure : ∀ error, outcome = .error error → bad error state → worse error state) :
    Ends other worse outcome state := by
  cases outcome with
  | ok value => exact success value rfl ended
  | error error => exact failure error rfl ended

/-- What holds of the items that are done and of those that are left is handed on from item to item. -/
theorem Safe.foldlM (holds : List α → List α → β → σ → Prop) {step : β → α → Attempt ε β} {items : List α} {value : β}
    (begun : holds [] items value state)
    (each : ∀ done item left value state, items = done ++ item :: left → holds done (item :: left) value state →
      rules.Safe (Ends (holds (done ++ [item]) left) bad) (step value item).run state) :
    rules.Safe (Ends (holds items []) bad) (items.foldlM step value).run state := by
  have loop (done left : List α) (value : β) (state : σ) (cut : items = done ++ left)
    (now : holds done left value state) :
      rules.Safe (Ends (holds items []) bad) (left.foldlM step value).run state := by
    induction left generalizing done value state with
    | nil =>
      rw [List.append_nil] at cut
      exact cut ▸ now
    | cons item left ih =>
      rw [List.foldlM_cons]
      exact (each done item left value state cut now).andThen fun value state now =>
        ih (done ++ [item]) value state (by simp [cut]) now
  exact loop [] items value state rfl begun

theorem Safe.succeeding {other : α → σ → Prop} {program : Program (Except ε α)}
    (safe : rules.Safe (Ends mid bad) program state)
    (implies : ∀ value after, mid value after → other value after) : rules.Safe (Ends other bad) program state := by
  apply safe.weaken
  intro outcome after ended
  cases outcome with
  | ok value => exact implies value after ended
  | error error => exact ended

theorem Safe.failing {worse : ε → σ → Prop} {program : Program (Except ε α)}
    (safe : rules.Safe (Ends mid bad) program state)
    (implies : ∀ error after, bad error after → worse error after) : rules.Safe (Ends mid worse) program state := by
  apply safe.weaken
  intro outcome after ended
  cases outcome with
  | ok value => exact ended
  | error error => exact implies error after ended

end Attempts

/-- What is asserted under some rules holds under others, as long as these keep to an invariant and answer
like the first. -/
theorem Safe.carry {plain : Rules Unit} (invariant : σ → Prop) {post : α → Unit → Prop}
    {program : Program α} {state : σ} (safe : plain.Safe post program ()) (holds : invariant state)
    (keeps : ∀ request state, plain.permits request () → invariant state → rules.permits request state ∧
      ∀ answer after, rules.replies request state answer after →
        plain.replies request () answer () ∧ invariant after) :
    rules.Safe (fun value after => post value () ∧ invariant after) program state := by
  induction program generalizing state with
  | done value => exact ⟨safe, holds⟩
  | ask request next ih =>
    obtain ⟨permitted, kept⟩ := keeps request state safe.1 holds
    refine ⟨permitted, fun answer after replies => ?_⟩
    obtain ⟨known, holds⟩ := kept answer after replies
    exact ih answer (safe.2 answer () known) holds

/-- The same answers, but less may be asked for. -/
def requiring (rules : Rules σ) (permits : Request → σ → Prop) : Rules σ :=
  { rules with permits }

section Instants

variable {permits : Request → σ → Prop} {holds : Program β → σ → Prop} {mid : α → σ → Prop} {state : σ}

/-- What holds whenever something is asked for holds at every instant until the next part. -/
theorem throughout_bind {program : Program α} {next : α → Program β}
    (safe : (rules.requiring permits).Safe mid program state)
    (early : ∀ request state rest, permits request state → holds (.ask request rest) state)
    (late : ∀ value after, mid value after → rules.Throughout holds (next value) after) :
    rules.Throughout holds (program >>= next) state := by
  change rules.Throughout holds (program.bind next) state
  induction program generalizing state with
  | done value => exact late value state safe
  | ask request rest ih =>
    exact ⟨early request state _ safe.1, fun answer after replies => ih answer (safe.2 answer after replies)⟩

theorem throughout_andThen {holds : Program (Except ε β) → σ → Prop} {bad : ε → σ → Prop} {first : Attempt ε α}
    {next : α → Attempt ε β} (safe : (rules.requiring permits).Safe (Ends mid bad) first.run state)
    (early : ∀ request state rest, permits request state → holds (.ask request rest) state)
    (failed : ∀ error after, bad error after → holds (.done (.error error)) after)
    (late : ∀ value after, mid value after → rules.Throughout holds (next value).run after) :
    rules.Throughout holds (first >>= next).run state := by
  change rules.Throughout holds (ExceptT.bind first next) state
  unfold ExceptT.bind ExceptT.mk
  refine throughout_bind safe early fun outcome after ended => ?_
  cases outcome with
  | ok value => exact late value after ended
  | error error => exact failed error after ended

end Instants

/-- How a program can end if it is answered as the rules say. -/
inductive Runs (rules : Rules σ) : Program α → σ → α → σ → Prop where
  | done {value : α} {state : σ} : Runs rules (.done value) state value state
  | ask {request : Request} {next : request.Answer → Program α} {answer : request.Answer}
    {state mid after : σ} {value : α}
      (replies : rules.replies request state answer mid) (rest : Runs rules (next answer) mid value after) :
      Runs rules (.ask request next) state value after

theorem Safe.runs {post : α → σ → Prop} {program : Program α} {state after : σ} {value : α}
    (safe : rules.Safe post program state) (runs : rules.Runs program state value after) : post value after := by
  induction runs with
  | done => exact safe
  | ask replies _ ih => exact ih (safe.2 _ _ replies)

theorem Throughout.runs {holds : Program α → σ → Prop} {program : Program α} {state after : σ} {value : α}
    (throughout : rules.Throughout holds program state) (runs : rules.Runs program state value after) :
    holds (.done value) after := by
  induction runs with
  | done => exact throughout
  | ask replies _ ih => exact ih (throughout.2 _ _ replies)

theorem Runs.bind {program : Program α} {next : α → Program β} {state mid after : σ} {value : α} {last : β}
    (runs : rules.Runs program state value mid) (rest : rules.Runs (next value) mid last after) :
    rules.Runs (program >>= next) state last after := by
  change rules.Runs (program.bind next) state last after
  induction runs with
  | done => exact rest
  | ask replies _ ih => exact .ask replies (ih rest)

theorem runs_of_run {respond : (request : Request) → σ → request.Answer × σ} {program : Program α}
    {state after : σ} {value : α}
    (replies : ∀ request state, rules.replies request state (respond request state).1 (respond request state).2)
    (ran : program.run respond state = (value, after)) : rules.Runs program state value after := by
  induction program generalizing state with
  | done =>
    cases ran
    exact .done
  | ask request next ih => exact .ask (replies request state) (ih _ ran)

theorem run_of_safe {respond : (request : Request) → σ → request.Answer × σ} {post : α → σ → Prop}
    {program : Program α} {state : σ} (replies : ∀ request state, rules.replies request state (respond request state).1
      (respond request state).2) (safe : rules.Safe post program state) :
    post (program.run respond state).1 (program.run respond state).2 :=
  safe.runs (runs_of_run replies rfl)

end Rules
end WheelInstaller.Host

/-! ### Any answers

What programs ask for, whatever they are answered. Of the answers only this is taken for granted: the
listing of a directory tells paths one name below it, and an opened file is one that stands for its path. -/

namespace WheelInstaller.Host

variable {α β δ ε : Type}

/-- The request changes no file. -/
def Request.Looks : Request → Prop
  | .readFile _ | .exists _ | .isDirectory _ | .readDirectory _ | .canonicalize _ | .flush _ | .isCancelled
  | .register _ | .release _ => True
  | .write _ _ | .rename _ _ | .copy _ _ | .createDirectories _ | .removeFile _ | .removeDirectory _
  | .createFile _ | .append _ _ | .setMode _ _ | .commandOutput _ _ | .cleanUp => False

/-- The request looks at files, and notes nothing. -/
def Request.Reads : Request → Prop
  | .register _ | .release _ => False
  | request => request.Looks

theorem Request.Reads.looks {request : Request} (reads : request.Reads) : request.Looks := by
  cases request <;> first | exact reads | exact reads.elim

/-- What listings tell, and which files are opened for a path. -/
def Honest (handle : Path → OpenFile → Prop) : (request : Request) → request.Answer → Prop
  | .readDirectory path, .ok children => ∀ child ∈ children, ∃ name, path.Extends [name] child
  | .createFile path, .ok file => handle path file
  | _, _ => True

/-- A host that answers anything honest, and may be asked for what is allowed. -/
def asking (handle : Path → OpenFile → Prop) (allowed : Request → Prop) : Rules Unit where
  replies request _ answer _ := Honest handle request answer
  permits request _ := allowed request

/-- The program only asks for what is allowed, and what it tells is good. -/
def Asks (handle : Path → OpenFile → Prop) (allowed : Request → Prop) (good : α → Prop) (program : Program α) : Prop :=
  (asking handle allowed).Safe (fun value _ => good value) program ()

/-- The same for a program that can fail: if it does not, what it tells is good. -/
def Tries (handle : Path → OpenFile → Prop) (allowed : Request → Prop) (good : α → Prop) (work : Attempt ε α) : Prop :=
  (asking handle allowed).Safe (Rules.Ends (fun value _ => good value) fun _ _ => True) work.run ()

variable {handle : Path → OpenFile → Prop} {allowed more : Request → Prop} {good : β → Prop} {mid : α → Prop}

theorem Asks.bind {program : Program α} {next : α → Program β} (asks : Asks handle allowed mid program)
    (further : ∀ value, mid value → Asks handle allowed good (next value)) :
    Asks handle allowed good (program >>= next) :=
  Rules.safe_bind.mpr (Rules.Safe.weaken asks fun value _ holds => further value holds)

theorem Tries.bind {work : Attempt ε α} {next : α → Attempt ε β} (tries : Tries handle allowed mid work)
    (further : ∀ value, mid value → Tries handle allowed good (next value)) :
    Tries handle allowed good (work >>= next) :=
  Rules.Safe.andThen tries fun value _ holds => further value holds

theorem Asks.next {program : Program α} {next : α → Program β} (asks : Asks handle allowed (fun _ => True) program)
    (further : ∀ value, Asks handle allowed good (next value)) : Asks handle allowed good (program >>= next) :=
  asks.bind fun value _ => further value

theorem Tries.next {work : Attempt ε α} {next : α → Attempt ε β} (tries : Tries handle allowed (fun _ => True) work)
    (further : ∀ value, Tries handle allowed good (next value)) : Tries handle allowed good (work >>= next) :=
  tries.bind fun value _ => further value

theorem Tries.lift {program : Program α} (asks : Asks handle allowed mid program) :
    Tries handle allowed mid (liftM program : ExceptT ε Program α) :=
  Rules.Safe.lift asks

theorem Tries.wrapped {wrap : δ → ε} {work : Attempt δ α} (tries : Tries handle allowed mid work) :
    Tries handle allowed mid (attemptAs wrap work) :=
  Rules.Safe.wrapped tries

theorem Tries.settled {outcome : Except ε α} (holds : ∀ value, outcome = .ok value → mid value) :
    Tries handle allowed mid (settled outcome) := by
  apply Rules.Safe.settled
  cases outcome with
  | ok value => exact holds value rfl
  | error => trivial

theorem Tries.returned {value : α} (holds : mid value) : Tries handle allowed mid (pure value : Attempt ε α) := holds

theorem Tries.thrown {error : ε} : Tries handle allowed mid (throw error : Attempt ε α) := trivial

theorem Tries.asked {program : Program (Except ε α)}
    (asks : Asks handle allowed (fun answer => ∀ value, answer = .ok value → mid value) program) :
    Tries handle allowed mid (attempt program) := by
  refine Rules.Safe.weaken asks fun answer _ holds => ?_
  cases answer with
  | ok value => exact holds value rfl
  | error => trivial

theorem Asks.allowing {holds : α → Prop} {program : Program α} (asks : Asks handle allowed holds program)
    (implies : ∀ request, allowed request → more request) : Asks handle more holds program := by
  unfold Asks at asks ⊢
  induction program with
  | done => exact asks
  | ask request next ih => exact ⟨implies request asks.1, fun answer _ honest => ih answer (asks.2 answer () honest)⟩

theorem Tries.allowing {work : Attempt ε α} (tries : Tries handle allowed mid work)
    (implies : ∀ request, allowed request → more request) : Tries handle more mid work := by
  have asks : Asks handle allowed
    (fun outcome => Rules.Ends (fun value _ => mid value) (fun _ _ => True) outcome ()) work.run := tries
  exact asks.allowing implies

theorem Asks.request {wanted : Request} {holds : wanted.Answer → Prop} (permitted : allowed wanted)
    (told : ∀ answer, Honest handle wanted answer → holds answer) :
    Asks handle allowed holds (Program.request wanted) :=
  ⟨permitted, fun answer _ honest => told answer honest⟩

end WheelInstaller.Host
