import WheelInstaller.Proofs.FileSystem.Reach
import WheelInstaller.Proofs.Install.Entrance
import WheelInstaller.Proofs.Install.Filling

/-! What was there stays. Unless it may overwrite, an installation only adds to what there is, however it ends. -/

namespace WheelInstaller

namespace FileSystem

/-- What was there is still there. -/
structure Keeps (before after : FileSystem) : Prop where
  plain : after.Plain
  home : after.home = before.home
  get? : ∀ location node, before.get? location = some node → after.get? location = some node

namespace Keeps

variable {before middle after : FileSystem}

theorem refl (plain : before.Plain) : Keeps before before :=
  ⟨plain, rfl, fun _ _ => id⟩

theorem of_eq (plain : before.Plain) (same : after = before) : Keeps before after :=
  same ▸ refl (same ▸ plain)

theorem trans (first : Keeps before middle) (second : Keeps middle after) : Keeps before after :=
  ⟨second.plain, second.home.trans first.home, fun location node found =>
    second.get? location node (first.get? location node found)⟩

theorem of_grows {made : Location → Prop} (grows : before.Grows made after) : Keeps before after :=
  ⟨grows.plain, grows.home, fun _ _ => grows.kept⟩

theorem status (keeps : Keeps before after) (plain : before.Plain) {path : Path} {location : Location} {node : Node}
    (found : before.status true path = .ok (location, node)) : after.status true path = .ok (location, node) :=
  status_persists plain keeps.plain keeps.home (fun _ node there => ⟨node, keeps.get? _ node there, id⟩) found
    (keeps.get? location node (status_sound plain found).2)

end Keeps

end FileSystem

namespace Install

open Host Host.Rules FileSystem

variable {request : Request} {opened : Opened} {world : World} {before files : FileSystem}
    {location : Location} {node : Node}
variable {certain : Prop}

theorem Request.Vacant.spared (vacant : request.Vacant files) (plain : files.Plain) (known : opened.Known request)
    (found : files.get? location = some node) :
    ¬ opened.Fills request files location ∧ location ≠ request.summaryDraft.locate files.home ∧
      location ≠ request.summaryPath.locate files.home := by
  have retained : ∃ path, request.retainedPath = .ok path := ⟨_, known.retained⟩
  have occupied {name : String} {rest : Location}
    (same : location = request.directory.locate files.home ++ name :: rest) :
      request.archiveName = .ok name ∧ request.SourceAt files (request.directory / name) := by
    rw [same] at found
    exact vacant.archive plain retained fun none => by cases none.symm.trans found
  refine ⟨?_, fun same => ?_, fun same => ?_⟩
  · rintro (stores | initializes | ⟨same, unknown⟩)
    · obtain ⟨names, -, same⟩ := stores.place known
      exact archiveName_ne_sitePackages (occupied same).1
    · obtain ⟨names, -, same⟩ := initializes.place
      exact archiveName_ne_sitePackages (occupied same).1
    · obtain ⟨name, named, proper, path⟩ := retainedPath_eq_ok known.retained
      rw [path, Path.locate_div proper] at same
      have source := (occupied same).2
      have here := source.locate plain
      obtain ⟨canonical, _, archive, -⟩ := source
      exact unknown ⟨by rw [same, ← here, Path.locate_div proper], canonical, archive⟩
  · exact archiveName_ne_draft (occupied (same.trans locate_draft)).1
  · exact archiveName_ne_summary (occupied (same.trans locate_summary)).1

theorem Failed.keeps {after : World} (failed : Failed request world after) (plain : world.files.Plain) :
    Keeps world.files after.files := by
  obtain ⟨-, same | ⟨-, error, done⟩⟩ := failed
  · exact .of_eq plain same
  · exact .of_grows (makeDirectories_run plain done).1

/-- The target was entered with nothing in its way, and is being filled. -/
structure Underfilled (request : Request) (opened : Opened) (before now : FileSystem) : Prop where
  known : opened.Known request
  entered : ∃ middle, Roomy request before middle ∧
    Changes (opened.Makes request middle.home) (opened.Fills request middle) middle now

namespace Underfilled

variable {now : FileSystem} (underfilled : Underfilled request opened before now)
include underfilled

theorem keeps : Keeps before now := by
  obtain ⟨known, middle, roomy, changes⟩ := underfilled
  refine Keeps.trans (.of_grows roomy.grows) ⟨changes.plain, changes.home, fun location node found => ?_⟩
  exact changes.kept (roomy.vacant.spared roomy.grows.plain known found).1 found

theorem apart (found : before.get? location = some node) :
    location ≠ request.summaryDraft.locate now.home ∧ location ≠ request.summaryPath.locate now.home := by
  obtain ⟨known, middle, roomy, changes⟩ := underfilled
  rw [changes.home]
  exact (roomy.vacant.spared roomy.grows.plain known (roomy.grows.kept found)).2

theorem keeps_of_summarizes {summary : Summary} {after : FileSystem}
    (summarizes : Summarizes request summary now after) :
    Keeps before after := by
  refine ⟨summarizes.plain, summarizes.home.trans underfilled.keeps.home, fun location node found => ?_⟩
  have apart := underfilled.apart found
  rw [summarizes.get?, if_neg apart.2, if_neg apart.1]
  exact underfilled.keeps.get? location node found

theorem keeps_of_drafts {after : FileSystem} (drafts : Drafts request now after) :
    Keeps before after := by
  rcases drafts with same | draft
  · exact same ▸ underfilled.keeps
  · refine ⟨draft.plain, draft.home.trans underfilled.keeps.home, fun location node found => ?_⟩
    exact (draft.other (underfilled.apart found).1).trans (underfilled.keeps.get? location node found)

end Underfilled

/-- Whatever becomes of an installation that may not overwrite, all that was there is kept. -/
theorem safe_run_keeps (plain : world.files.Plain) (told : request.directory.components ≠ [])
    (sure : request.ArchiveInside world.files.home → certain)
    (spares : request.overwrite = true → world.files.exists? request.directory = false)
    (fit : request.Fit world.files) :
    (steady certain).Safe (Ends (fun _ after => Keeps world.files after.files) fun _ after =>
      Keeps world.files after.files)
      (run request).run world := by
  have preparing : (steady certain).Safe (Ends (fun _ after => Roomy request world.files after.files)
      fun _ after => Keeps world.files after.files) (prepareTarget request).run world :=
    (safe_prepareTarget_entered plain sure spares).weaken fun _ _ ended =>
      ended.imp (fun _ _ entered => entered.roomy plain told fit) fun _ _ failed => failed.keeps plain
  refine safe_run orderly_steady (fun _ _ => trivial)
    (fun opened _ _ now => Underfilled request opened world.files now.files) (.refl plain) (fun _ _ _ => preparing)
    (fun opened content noted now from_ roomy => ?_)
    fun opened content noted summary now from_ underfilled => ?_
  · have filled {after : FileSystem}
      (changes : Changes (opened.Makes request now.files.home) (opened.Fills request now.files)
        now.files after) : Underfilled request opened world.files after := ⟨from_.known, _, roomy, changes⟩
    have sure (inside : request.ArchiveInside now.files.home) : certain := sure (roomy.grows.home ▸ inside)
    exact (safe_fillTarget_changes from_.known roomy.grows.plain sure rfl).weaken fun _ _ ended =>
      ended.imp (fun _ _ => filled) fun _ _ changes => (filled changes).keeps
  · exact (orderly_steady.safe_of_host (fun _ _ => trivial) (safe_finish underfilled.keeps.plain)).weaken
      fun _ _ ended =>
      ended.imp (fun _ _ done => underfilled.keeps_of_summarizes done.2) fun _ _ done =>
        underfilled.keeps_of_drafts done.2

/-- Without a leave to overwrite, nothing that was there is lost or changed, and every path to it still leads there.
Only a target that is told as if by going up through directories that are not there must not be trusted so. -/
theorem run_keeps (world : World) (plain : world.files.Plain) (told : request.directory.text ≠ "")
    (spares : request.overwrite = false) (fit : request.Fit world.files) :
    (steady (request.ArchiveInside world.files.home)).Safe (fun _ after =>
      (∀ location node, world.files.get? location = some node → after.files.get? location = some node) ∧
        ∀ path location node, world.files.status true path = .ok (location, node) →
          after.files.status true path = .ok (location, node)) (run request).run world := by
  have keeps := safe_run_keeps plain (Path.components_ne_nil told) id (by simp [spares]) fit
  refine keeps.weaken fun outcome after ended => ?_
  have kept : Keeps world.files after.files := by
    cases outcome with
    | ok => exact ended
    | error => exact ended
  exact ⟨kept.get?, fun path location node => kept.status plain⟩

/-- An installation into a directory that is not there yet, and one that fails when its directory is filled. -/
theorem run_keeps_both :
    let Kept (before after : FileSystem) : Prop :=
      (∀ location node, before.get? location = some node → after.get? location = some node) ∧
        ∀ path location node, before.status true path = .ok (location, node) →
          after.status true path = .ok (location, node)
    (innerWorld.files.Plain ∧ freshRequest.directory.text ≠ "" ∧ freshRequest.overwrite = false ∧
        freshRequest.Fit innerWorld.files ∧
        (steady (freshRequest.ArchiveInside innerWorld.files.home)).Runs (run freshRequest).run innerWorld
          (.ok Wheel.smallSummary) freshWorld ∧
        Kept innerWorld.files freshWorld.files) ∧
      firstWorld.files.Plain ∧ lackingRequest.directory.text ≠ "" ∧ lackingRequest.overwrite = false ∧
        lackingRequest.Fit firstWorld.files ∧
        (steady (lackingRequest.ArchiveInside firstWorld.files.home)).Runs (run lackingRequest).run firstWorld
          (.error lackingError) failedWorld ∧
        Kept firstWorld.files failedWorld.files := by
  -- For any request first: the program would be run otherwise.
  have whole {request : Request} {world after : World} {outcome : Except InstallError Summary}
      (plain : world.files.Plain) (told : request.directory.text ≠ "") (spares : request.overwrite = false)
      (fit : request.Fit world.files)
      (runs : (steady (request.ArchiveInside world.files.home)).Runs (run request).run world outcome after) :=
    (run_keeps world plain told spares fit).runs runs
  have inner : innerWorld.files.Plain := ⟨by decide, rfl⟩
  have plain : firstWorld.files.Plain := ⟨by decide, rfl⟩
  have fresh : freshRequest.Fit innerWorld.files := .inr (.inl (by decide))
  have lacking : lackingRequest.Fit firstWorld.files := .inr (.inl (by decide))
  have succeeds := runs_of_run (steady_perform (freshRequest.ArchiveInside innerWorld.files.home)) run_fresh
  have fails := runs_of_run (steady_perform (lackingRequest.ArchiveInside firstWorld.files.home)) run_lacking
  exact ⟨⟨inner, by decide, rfl, fresh, succeeds, whole inner (by decide) rfl fresh succeeds⟩,
    plain, by decide, rfl, lacking, fails, whole plain (by decide) rfl lacking fails⟩

end Install
end WheelInstaller
