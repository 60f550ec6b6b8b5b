import WheelInstaller.Proofs.Host.World

/-! A doubtful host: it may fail in whatever it is asked for, and it may not see what is there. -/

namespace WheelInstaller.Host

/-- The host does not see what is there. -/
def Request.Denial : (request : Request) → request.Answer → Prop
  | .exists _, answer | .isDirectory _, answer => answer = false
  | _, _ => False

/-- Every request is carried out or fails, and what is there may be denied. -/
def doubtful : Rules World where
  replies request world answer after := world.Replies request answer after ∨ request.Denial answer ∧ after = world

variable {world : World}

theorem doubtful_perform (request : Request) (world : World) :
    doubtful.replies request world (world.perform request).1 (world.perform request).2 :=
  .inl (.inl (.inl rfl))

theorem files_of_doubtful {request : Request} {answer : request.Answer} {after : World} (looks : request.Looks)
    (replies : doubtful.replies request world answer after) : after.files = world.files := by
  rcases replies with replies | ⟨-, rfl⟩
  · exact World.files_of_looks looks replies
  · rfl

theorem readDirectory_of_doubtful {path : Path} {children : List Path} {after : World}
    (replies : doubtful.replies (.readDirectory path) world (.ok children) after) :
    after = world ∧ ∃ names, world.files.readDirectory path = .ok names ∧ children = names.map (path / ·) := by
  rcases replies with replies | ⟨denied, -⟩
  · exact replies.listed.imp_right fun told => told children rfl
  · exact denied.elim

theorem isDirectory_of_doubtful {path : Path} {answer : Bool} {after : World}
    (replies : doubtful.replies (.isDirectory path) world answer after) :
    after = world ∧ (answer = true → world.files.isDirectory path = true) := by
  rcases replies with replies | ⟨denied, same⟩
  · obtain ⟨told, same⟩ := replies.isDirectory
    exact ⟨same, fun directory => told.symm.trans directory⟩
  · exact ⟨same, fun directory => absurd (directory.symm.trans denied) nofun⟩

theorem write_of_doubtful {path : Path} {content : ByteArray} {answer : Except HostError Unit} {after : World}
    (replies : doubtful.replies (.write path content) world answer after) :
    (∃ part outcome, part.data.toList <+: content.data.toList ∧
      (FileSystem.writeFile path part).run world.files = (outcome, after.files) ∧
      (answer = .ok () → part = content ∧ outcome = .ok ())) ∨
      (∃ error, answer = .error error) ∧ after = world := by
  rcases replies with replies | ⟨denied, -⟩
  · rcases World.acted_or_falters (FileSystem.writeFile path content) replies nofun with acted | ⟨⟨error, rfl⟩, falters⟩
    · rcases acted with ran | ran | _
      · exact .inl ⟨content, _, List.prefix_rfl, ran, fun _ => ⟨rfl, rfl⟩⟩
      · exact .inl ⟨content, _, List.prefix_rfl, ran, nofun⟩
      · exact .inr ⟨⟨_, rfl⟩, rfl⟩
    · cases falters with
      | write begun ran => exact .inl ⟨_, _, begun, ran, nofun⟩
  · exact denied.elim

theorem safe_any {α : Type} {σ : Type} {rules : Rules σ} (open_ : ∀ request state, rules.permits request state)
    (program : Program α) (state : σ) : rules.Safe (fun _ _ => True) program state := by
  induction program generalizing state with
  | done => trivial
  | ask wanted next ih => exact ⟨open_ wanted state, fun answer after _ => ih answer after⟩

theorem safe_of_uses {α : Type} {program : Program α} (uses : program.Uses Request.Looks) :
    doubtful.Safe (fun _ after => after.files = world.files) program world := by
  have loop (now : World) (same : now.files = world.files) :
      doubtful.Safe (fun _ after => after.files = world.files) program now := by
    induction program generalizing now with
    | done => exact same
    | ask wanted next ih =>
      exact ⟨trivial, fun answer after replies => ih answer (uses.2 answer) after
        ((files_of_doubtful uses.1 replies).trans same)⟩
  exact loop world rfl

end WheelInstaller.Host

/-! ### Giving up

Programs that give up at the first refusal. Where such a program succeeds nothing was refused, and it
has done what it does on the plain host.
-/

namespace WheelInstaller.Host

open Rules (Ends Safe)

variable {α β ε : Type} {world : World}

/-- The host that carries out whatever it is asked for. -/
def serving : Rules World where
  replies request world answer after := (answer, after) = world.perform request

theorem orderly_serving : serving.Orderly :=
  fun _ _ _ _ replies => .inl (.inl replies)

theorem serving_perform (request : Request) (world : World) :
    serving.replies request world (world.perform request).1 (world.perform request).2 :=
  rfl

/-- A refusal is the end, with an error, and whether the caller still waits is never asked. -/
def Program.Heeds : Program (Except ε α) → Prop
  | .done _ => True
  | .ask request next =>
    request ≠ .isCancelled ∧ ∀ answer, (request.Refusal answer → ∃ error, next answer = .done (.error error)) ∧
      (next answer).Heeds

theorem Program.Heeds.andThen {first : Attempt ε α} {next : α → Attempt ε β} (heeds : first.run.Heeds)
    (further : ∀ value, (next value).run.Heeds) : (first >>= next).run.Heeds := by
  change (Program.bind first.run (ExceptT.bindCont next)).Heeds
  generalize first.run = program at heeds ⊢
  induction program with
  | done outcome =>
    cases outcome with
    | ok value => exact further value
    | error => trivial
  | ask request rest ih =>
    refine ⟨heeds.1, ?_⟩
    intro answer
    obtain ⟨refused, others⟩ := heeds.2 answer
    refine ⟨?_, ih answer others⟩
    intro refusal
    obtain ⟨error, ended⟩ := refused refusal
    refine ⟨error, ?_⟩
    dsimp only
    rw [ended]
    rfl

theorem Program.Heeds.safe {program : Program (Except ε α)} (heeds : program.Heeds) (world : World) :
    host.Safe (Ends (fun value after => program.run World.perform world = (.ok value, after)) fun _ _ =>
      True) program world := by
  induction program generalizing world with
  | done outcome =>
    cases outcome with
    | ok => exact rfl
    | error => trivial
  | ask request next ih =>
    refine ⟨trivial, fun answer after replies => ?_⟩
    obtain ⟨refused, others⟩ := heeds.2 answer
    rcases replies with (done | ⟨waiting, -⟩) | ⟨refusal, -⟩
    · obtain ⟨rfl, rfl⟩ := Prod.ext_iff.mp done
      exact ih _ others _
    · exact absurd waiting heeds.1
    · obtain ⟨error, ended⟩ := refused refusal
      rw [ended]
      trivial

end WheelInstaller.Host
