import WheelInstaller.Proofs.FileSystem.Present
import WheelInstaller.Proofs.Host.Doubtful
import WheelInstaller.Proofs.Install.Quiet

/-! Failures that are told to leave nothing behind. They come before the target is filled; and unless the target had to
be cleared, or a directory above it had to be made, they leave everything as it was. Here links may be anywhere. -/

namespace WheelInstaller

open Host Host.Rules

namespace Install

variable {request : Request} {world : World}

/-- To prepare the target takes more than one step: a directory above it is missing, or something in it has to go. -/
def Request.Laborious (request : Request) (files : FileSystem) : Prop :=
  ¬ files.Near request.directory ∨
    request.overwrite = true ∧ ∃ names, files.readDirectory request.directory = .ok names ∧ names ≠ []

/-- The files are as they were, or it took more than one step to prepare the target, and that failed. -/
def Spares (request : Request) (before : FileSystem) (error : InstallError) (after : FileSystem) : Prop :=
  after = before ∨ (∃ cause, error = .target request.directory cause) ∧ request.Laborious before

theorem safe_withoutSource_looking (source : Option Path) (paths : List Path) :
    doubtful.Safe (fun kept after => after.files = world.files ∧ (paths = [] → kept = []))
      (withoutSource source paths) world := by
  induction paths generalizing world with
  | nil => exact safe_pure.mpr ⟨rfl, fun _ => rfl⟩
  | cons path rest ih =>
    have reading := (uses_isSource source path).imp fun _ => Host.Request.Reads.looks
    refine safe_bind.mpr ((safe_of_uses reading).weaken fun isArchive now same => ?_)
    refine safe_bind.mpr (ih.weaken fun others after ⟨still, _⟩ => ?_)
    exact safe_pure.mpr ⟨still.trans same, nofun⟩

theorem spares_of_unmade {error : HostError} {after : World}
    (replies : doubtful.replies (.createDirectories request.directory) world (.error error) after) :
    Spares request world.files (.target request.directory (.host error)) after.files := by
  by_cases near : world.files.Near request.directory
  · left
    rcases replies with replies | ⟨denied, -⟩
    · cases World.acted (FileSystem.makeDirectories request.directory) replies nofun nofun with
      | failed ran => exact FileSystem.makeDirectories_unmade near ran
      | refused => rfl
    · exact denied.elim
  · exact .inr ⟨⟨_, rfl⟩, .inl near⟩

/-- Whatever else fails in the target, it was known to take more than one step. -/
theorem spares_inTarget {α : Type} {before : FileSystem} (laborious : request.Laborious before)
    (work : Attempt StepError α) (now : World) :
    doubtful.Safe (Ends (fun _ _ => True) fun error after => Spares request before error after.files)
      (inTarget request work).run now := by
  refine Safe.wrapped ((safe_any (fun _ _ => trivial) work.run now).weaken fun outcome after _ => ?_)
  cases outcome with
  | ok => trivial
  | error => exact .inr ⟨⟨_, rfl⟩, laborious⟩

/-- Whatever fails while the target is prepared. -/
theorem safe_prepareTarget_spares :
    doubtful.Safe (Ends (fun _ _ => True) fun error after => Spares request world.files error after.files)
      (prepareTarget request).run world := by
  unfold prepareTarget
  refine ⟨trivial, fun answer seen replies => ?_⟩
  have same := files_of_doubtful (by trivial) replies
  cases answer with
  | false =>
    refine ⟨trivial, fun answer made replies => ?_⟩
    cases answer with
    | ok => exact ⟨trivial, fun _ _ _ => trivial⟩
    | error cause => exact same ▸ spares_of_unmade replies
  | true =>
    refine ⟨trivial, fun answer found replies => ?_⟩
    have same := (files_of_doubtful (by trivial) replies).trans same
    cases answer with
    | false => exact .inl same
    | true =>
      have reading := (uses_sourceIdentity request).imp fun _ => Host.Request.Reads.looks
      refine Safe.andThen (Safe.lift ((safe_of_uses reading).weaken fun _ _ still => still.trans same))
        fun source now same => ?_
      refine ⟨trivial, fun answer listed replies => ?_⟩
      have still := files_of_doubtful (by trivial) replies
      cases answer with
      | error => exact .inl (still.trans same)
      | ok children =>
        have told := (readDirectory_of_doubtful replies).2
        rw [same] at told
        obtain ⟨names, known, rfl⟩ := told
        refine Safe.andThen (Safe.lift (safe_withoutSource_looking source _)) fun existing rest ⟨kept, empty⟩ => ?_
        have kept := kept.trans (still.trans same)
        split
        next => exact trivial
        next full =>
          split
          next => exact .inl kept
          next allowed =>
            have some : names ≠ [] := by
              rintro rfl
              exact full (List.isEmpty_iff.mpr (empty rfl))
            -- Only here can anything be lost: the target is to be cleared.
            have laborious : request.Laborious world.files := .inr ⟨by simpa using allowed, names, known, some⟩
            exact (spares_inTarget laborious _ rest).andThen fun _ _ _ => trivial

section Later

variable {σ : Type} {rules : Rules σ} {state : σ}

/-- Whatever stops a step is told as a partial failure. -/
theorem safe_step_partial {α : Type} (open_ : ∀ wanted state, rules.permits wanted state) (step : Step)
    (work : Attempt StepError α) (state : σ) :
    rules.Safe (Ends (fun _ _ => True) fun error _ => error.leftPartialTree = true) (inStep step work).run state := by
  refine Safe.wrapped ((safe_any open_ _ _).weaken fun outcome after _ => ?_)
  cases outcome with
  | ok => trivial
  | error => rfl

theorem safe_fillTarget_partial (open_ : ∀ wanted state, rules.permits wanted state) (request : Request)
    (opened : Opened) (state : σ) :
    rules.Safe (Ends (fun _ _ => True) fun error _ => error.leftPartialTree = true)
    (fillTarget request opened).run state := by
  have step {α : Type} (step : Step) (work : Attempt StepError α) (state : σ) := safe_step_partial open_ step work state
  unfold fillTarget
  refine (step _ _ _).andThen fun _ _ _ => ?_
  refine Safe.andThen (Safe.lift (safe_any open_ _ _)) fun _ _ _ => ?_
  refine (step _ _ _).andThen fun _ _ _ => (step _ _ _).andThen fun _ _ _ => (step _ _ _).andThen fun _ _ _ => ?_
  refine (step _ _ _).andThen fun _ _ _ => (step _ _ _).andThen fun _ _ _ => (step _ _ _).andThen fun _ _ _ => ?_
  exact (step _ _ _).andThen fun _ _ _ => Safe.returned trivial

theorem safe_finish_partial (open_ : ∀ wanted state, rules.permits wanted state) (request : Request) (noted : List Path)
    (summary : Summary) (state : σ) :
    rules.Safe (Ends (fun _ _ => True) fun error _ => error.leftPartialTree = true)
    (finish request noted summary).run state := by
  unfold finish
  refine (safe_step_partial open_ _ _ _).andThen fun _ _ _ => ?_
  exact Safe.andThen (Safe.lift (safe_any open_ _ _)) fun _ _ _ => Safe.returned trivial

end Later

/-- A failure that is told to leave nothing behind does so, unless the target could not be prepared in one step. -/
theorem run_spares (request : Request) (world : World) :
    doubtful.Safe (fun outcome after => ∀ error, outcome = .error error → error.leftPartialTree = false →
      Spares request world.files error after.files) (run request).run world := by
  have whole : doubtful.Safe (Ends (fun _ _ => True) fun error after =>
      error.leftPartialTree = false → Spares request world.files error after.files) (run request).run world := by
    rw [run_eq]
    have reading : ∀ answer after, doubtful.replies (.readFile request.archive) world answer after →
      after.files = world.files :=
      fun _ _ replies => files_of_doubtful (by trivial) replies
    have opening : doubtful.Safe (Ends (fun _ now => now.files = world.files) fun error after =>
        error.leftPartialTree = false → Spares request world.files error after.files)
        (openWheel request).run world := by
      refine (safe_openWheel trivial reading).weaken fun outcome after ended =>
        ended.imp (fun opened _ known => ?_) fun error _ known _ => .inl ?_
      · obtain ⟨-, content, same, -⟩ := known
        exact same
      · obtain ⟨rfl | ⟨content, same⟩, -⟩ := known
        · rfl
        · exact same
    refine opening.andThen fun opened now same => ?_
    refine Safe.andThen (safe_prepareTarget_spares.weaken fun outcome after ended =>
      ended.imp (fun _ _ done => done) fun error _ spares _ => ?_) fun prepared filled _ => ?_
    · rwa [same] at spares
    have open_ (wanted : Host.Request) (now : World) : doubtful.permits wanted now := trivial
    have rest := (safe_fillTarget_partial open_ request opened filled).andThen fun filled after _ =>
      safe_finish_partial open_ request (prepared ++ [request.sitePackages] ++ filled.1) filled.2 after
    refine rest.weaken fun outcome after ended => ended.imp (fun _ _ done => done) fun error _ told spared => ?_
    simp [told] at spared
  refine whole.weaken fun outcome after ended error failed => ?_
  rw [failed] at ended
  exact ended

end Install
end WheelInstaller
