import WheelInstaller.Proofs.FileSystem.Present
import WheelInstaller.Proofs.Install.Retention

/-! Entering the target when nothing in it has to go. Either it is there, with nothing in it but perhaps the archive, or
it is made. -/

namespace WheelInstaller.Install

open Host Host.Rules FileSystem

variable {request : Request} {world after : World} {noted : List Path} {certain : Prop}

/-- Nothing is in the target, unless it leads to the archive. -/
def Request.Vacant (request : Request) (files : FileSystem) : Prop :=
  ∀ name rest, files.get? (request.directory.locate files.home ++ name :: rest) = none ∨
    request.SourceAt files (request.directory / name)

/-- How the target was entered, and what was noted of it. -/
inductive Entered (request : Request) (before : World) : List Path → World → Prop where
  | already (there : before.files.isDirectory request.directory = true) (vacant : request.Vacant before.files) :
      Entered request before [] before
  | made {after : World} (absent : before.files.exists? request.directory = false)
      (done : (FileSystem.makeDirectories request.directory).run before.files = (.ok (), after.files))
      (noted : after.registry = before.registry.add request.directory) :
        Entered request before [request.directory] after

/-- Entering the target failed. Directories above it may have been made. -/
def Failed (request : Request) (before after : World) : Prop :=
  after.registry = before.registry ∧ (after.files = before.files ∨
    before.files.exists? request.directory = false ∧
      ∃ error, (FileSystem.makeDirectories request.directory).run before.files = (.error error, after.files))

theorem safe_prepareTarget_steady {good : List Path → World → Prop} {bad : World → Prop} (plain : world.files.Plain)
    (sure : request.ArchiveInside world.files.home → certain) (refused : bad world)
    (failed : ∀ after, world.files.exists? request.directory = false → Failed request world after → bad after)
    (made : ∀ after, world.files.exists? request.directory = false →
      (FileSystem.makeDirectories request.directory).run world.files = (.ok (), after.files) →
      after.registry = world.registry.add request.directory → good [request.directory] after)
    (listed : ∀ existing, world.files.isDirectory request.directory = true → Existing request world.files existing →
      (∀ path ∈ existing, ¬ request.SourceAt world.files path) →
      (existing = [] → good [] world) ∧ (request.overwrite = true →
        (steady certain).Safe (Ends (fun _ => good []) fun _ => bad) (clearTarget request existing).run world)) :
    (steady certain).Safe (Ends good fun _ => bad) (prepareTarget request).run world := by
  unfold prepareTarget
  refine ⟨trivial, fun answer after replies => ?_⟩
  obtain ⟨there, rfl⟩ := replies.1.exists
  cases answer with
  | false =>
    refine ⟨trivial, fun answer after replies => ?_⟩
    have silent : (Host.Request.createDirectories request.directory).Silent := trivial
    have registry := replies.1.registry silent
    rcases replies.1.createDirectories_run with ⟨rfl, done⟩ | ⟨refused, rfl, stopped⟩
    · refine ⟨trivial, fun _ noted replies => ?_⟩
      cases replies.1.register
      exact made _ there.symm done (congrArg (·.add request.directory) registry)
    · exact failed after there.symm ⟨registry, stopped.imp_right fun stopped => ⟨there.symm, stopped⟩⟩
  | true =>
    refine ⟨trivial, fun answer seen replies => ?_⟩
    obtain ⟨directory, rfl⟩ := replies.1.isDirectory
    cases answer with
    | false => exact refused
    | true =>
      refine Safe.andThen (Safe.lift safe_sourceIdentity_steady) fun source same ⟨here, known⟩ => ?_
      subst here
      refine ⟨trivial, fun answer seen replies => ?_⟩
      obtain ⟨rfl, told⟩ := replies.1.readDirectory plain
      cases answer with
      | error => exact refused
      | ok children =>
        obtain ⟨-, tells⟩ := told children rfl
        have discerns : ∀ path ∈ children, request.SourceAt seen.files path → certain := by
          rw [tells]
          intro path member source
          obtain ⟨name, listed, rfl⟩ := List.mem_map.mp member
          exact sure (source.inside plain (plain.proper (mem_children.mp listed) name (by simp)))
        refine Safe.andThen (Safe.lift (safe_withoutSource_steady known discerns))
          fun existing same ⟨here, filtered⟩ => ?_
        subst here
        -- The archive is the only thing that is left out.
        have kept (path : Path) : path ∈ existing ↔
          path ∈ (same.files.children (request.directory.locate same.files.home)).map
            (request.directory / ·) ∧ ¬ request.SourceAt same.files path := by
          simp only [filtered, tells, List.mem_filter, decide_eq_true_eq]
        have inside := existing_of_listing plain (fun path member => ((kept path).mp member).1) fun path member =>
          or_iff_not_imp_right.mpr fun apart => (kept path).mpr ⟨member, apart⟩
        obtain ⟨vacant, clearing⟩ := listed existing directory.symm inside fun path member => ((kept path).mp member).2
        split
        next none => exact vacant (List.isEmpty_iff.mp none)
        next =>
          split
          next => exact refused
          next allowed =>
            exact Safe.andThen (Safe.wrapped (clearing (by simpa using allowed))) fun _ _ cleared => cleared

theorem safe_prepareTarget_entered (plain : world.files.Plain) (sure : request.ArchiveInside world.files.home → certain)
    (spares : request.overwrite = true → world.files.exists? request.directory = false) :
    (steady certain).Safe (Ends (fun noted after => Entered request world noted after) fun _ after =>
      Failed request world after)
      (prepareTarget request).run world := by
  refine safe_prepareTarget_steady plain sure ⟨rfl, .inl rfl⟩ (fun after _ failed => failed)
    (fun after absent done noted => .made absent done noted) fun existing there known apart => ⟨?_, fun allowed => ?_⟩
  · rintro rfl
    exact .already there fun name rest =>
      (empty_of_existing plain known (.refl plain) (by simp) name rest).imp_right And.left
  · cases (exists?_of_isDirectory there).symm.trans (spares allowed)

/-- How the target can be entered without making anything on the way up. -/
def Request.Fit (request : Request) (files : FileSystem) : Prop :=
  files.exists? request.directory = true ∨ request.directory.Straight ∨ files.Near request.directory

/-- The target is there, and nothing but what is above it is new. -/
structure Roomy (request : Request) (before after : FileSystem) : Prop where
  grows : before.Grows (· <+: request.directory.locate before.home) after
  there : after.isDirectory request.directory = true
  vacant : request.Vacant after

theorem Entered.roomy (entered : Entered request world noted after) (plain : world.files.Plain)
    (told : request.directory.components ≠ []) (fit : request.Fit world.files) :
    Roomy request world.files after.files := by
  cases entered with
  | already there vacant => exact ⟨.refl plain, there, vacant⟩
  | made absent done =>
    have fit := fit.resolve_left (by simp [absent])
    obtain ⟨free, grows⟩ := makeDirectories_fresh plain absent told fit done
    refine ⟨grows, (makeDirectories_run plain done).2 rfl told, fun name rest => .inl ?_⟩
    rw [grows.home]
    have beyond : world.files.get? (request.directory.locate world.files.home ++ name :: rest) = none :=
      get?_below (by simp [free]) (by simp)
    rcases grows.get? (request.directory.locate world.files.home ++ name :: rest) with same | ⟨above, -, -⟩
    · exact same.trans beyond
    · have longer := above.length_le
      simp only [List.length_append, List.length_cons] at longer
      omega

section Names

variable {files : FileSystem} (vacant : request.Vacant files) (plain : files.Plain)
  (retained : ∃ path, request.retainedPath = .ok path) {name : String} {rest : Location}
include vacant plain retained

/-- Whatever is in the target is under the name of the archive, and the archive is recognized there. -/
theorem Request.Vacant.archive (occupied : files.get? (request.directory.locate files.home ++ name :: rest) ≠ none) :
    request.archiveName = .ok name ∧ request.SourceAt files (request.directory / name) := by
  obtain ⟨path, retained⟩ := retained
  rcases vacant name rest with none | source
  · exact absurd none occupied
  · have proper := plain.proper occupied name (by simp)
    exact ⟨(source.named plain proper retained).1, source⟩

theorem Request.Vacant.free (other : request.archiveName ≠ .ok name) :
    files.get? (request.directory.locate files.home ++ name :: rest) = none := by
  by_contra occupied
  exact other (vacant.archive plain retained occupied).1

end Names

theorem archiveName_ne_sitePackages : request.archiveName ≠ .ok "site-packages" :=
  fun named => (archiveName_apart named).1 rfl

theorem archiveName_ne_summary : request.archiveName ≠ .ok Summary.fileName :=
  fun named => (archiveName_apart named).2.1 rfl

theorem archiveName_ne_draft : request.archiveName ≠ .ok s!"{Summary.fileName}.tmp" :=
  fun named => (archiveName_apart named).2.2 rfl

end WheelInstaller.Install
