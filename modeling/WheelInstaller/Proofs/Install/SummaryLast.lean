import WheelInstaller.Proofs.Install.Result

/-! Whoever finds a summary finds either what was there before, or a complete installation; whatever fails, and
whenever it stops. -/

namespace WheelInstaller.Install

open Host FileSystem

variable {request : Request} {files before now after : FileSystem} {home : Location}

/-- Nothing is left to be done but to take notes, and to tell the summary. -/
def Concludes (summary : Summary) : Program (Except InstallError Summary) → Prop
  | .done outcome => outcome = .ok summary
  | .ask (.register _) next | .ask (.release _) next => ∀ answer, Concludes summary (next answer)
  | .ask _ _ => False

/-- A summary that is found was there before, or there is nothing left to be done. -/
structure SummaryLate (request : Request) (before : FileSystem) (rest : Program (Except InstallError Summary))
    (now : World) : Prop where
  found : now.files.exists? request.summaryPath = true → now.files = before ∨
    ∃ summary, Concludes summary rest ∧ now.files.readFile request.summaryPath = .ok summary.render.toUTF8
  failed : ∀ step cause, rest = .done (.error (.partialFailure step cause)) →
    now.files.exists? request.summaryPath = false

theorem SummaryLate.of_unseen {rest : Program (Except InstallError Summary)} {now : World}
    (unseen : now.files.exists? request.summaryPath = false) : SummaryLate request before rest now :=
  ⟨fun seen => absurd (unseen.symm.trans seen) (by decide), fun _ _ _ => unseen⟩

/-! ### Stages without a summary -/

theorem unseen_of_absent (plain : before.Plain) (absent : before.get? (request.summaryPath.locate before.home) = none) :
    before.exists? request.summaryPath = false := by
  by_contra seen
  exact get?_of_exists? plain (by simpa using seen) absent

section Unseen

variable (direct : request.Direct) (plain : before.Plain)
include direct plain

theorem unseen_of_no_target (absent : before.exists? request.directory = false) :
    before.exists? request.summaryPath = false := by
  by_contra seen
  rw [Bool.not_eq_false] at seen
  have directory := isDirectory_of_div plain direct.filled properName_summary seen
  rw [exists?_of_isDirectory directory] at absent
  cases absent

theorem unseen_of_made (absent : before.exists? request.directory = false)
    (grows : before.Grows (request.directory.Passes before.home) now) : now.exists? request.summaryPath = false := by
  rw [← unseen_of_no_target direct plain absent]
  apply exists?_congr plain grows.plain direct.straight_summary grows.home
  refine (grows.get? _).resolve_right ?_
  rintro ⟨passes, -⟩
  have above := (direct.straight.passes passes).length_le
  rw [locate_summary, List.length_append, List.length_singleton] at above
  omega

theorem unseen_of_underway (underway : Underway request before now) :
    now = before ∨ now.exists? request.summaryPath = false := by
  cases underway with
  | untouched => exact .inl rfl
  | made absent grows => exact .inr (unseen_of_made direct plain absent grows)
  | clearing allowed directory shrinks unfinished =>
    exact .inr (unseen_of_absent shrinks.plain (shrinks.home ▸ unfinished))

theorem unseen_of_prepared (prepared : Prepared request before after)
    (retained : ∃ path, request.retainedPath = .ok path) :
    after.exists? request.summaryPath = false := by
  cases prepared with
  | made absent grows => exact unseen_of_made direct plain absent grows
  | cleared directory shrinks empty =>
    apply unseen_of_absent shrinks.plain
    rw [shrinks.home, locate_summary]
    rcases empty Summary.fileName [] with none | ⟨source, -⟩
    · exact none
    · obtain ⟨path, retained⟩ := retained
      exact absurd rfl (archiveName_apart (source.named plain properName_summary retained).1).2.1

theorem unseen_of_filled {opened : Opened} (known : opened.Known request)
    (unseen : before.exists? request.summaryPath = false) (changes : Changes (opened.Makes request before.home)
      (fun location => opened.Holds before.home location ∨ request.Initializes before.home location) before after) :
    after.exists? request.summaryPath = false := by
  rw [← unseen]
  apply exists?_congr plain changes.plain direct.straight_summary changes.home
  have named : request.archiveName ≠ .ok Summary.fileName := fun named => (archiveName_apart named).2.1 rfl
  rw [locate_summary]
  obtain ⟨unmade, unwritten⟩ := not_filled known direct.straight (by decide) named
  exact changes.same unwritten unmade

end Unseen

/-! ### Writing the summary -/

theorem concludes_commit {summary : Summary} (paths : List Path) :
    Concludes summary (do commit paths; return summary : Attempt InstallError Summary).run := by
  induction paths with
  | nil => rfl
  | cons path rest ih => exact fun _ => ih

theorem throughout_of_concludes {summary : Summary} {program : Program (Except InstallError Summary)} {world : World}
    (concludes : Concludes summary program) :
    host.Throughout (fun rest now => Concludes summary rest ∧ now.files = world.files) program world := by
  have loop (now : World) (same : now.files = world.files) :
      host.Throughout (fun rest now => Concludes summary rest ∧ now.files = world.files) program now := by
    induction program generalizing now with
    | done outcome => exact ⟨concludes, same⟩
    | ask wanted next ih =>
      refine ⟨⟨concludes, same⟩, fun answer after replies => ?_⟩
      cases wanted with
      | register path | release path =>
        exact ih answer (concludes answer) after ((World.files_of_looks (by trivial) replies).trans same)
      | _ => exact concludes.elim
  exact loop world rfl

theorem throughout_finish (direct : request.Direct) {noted : List Path} {summary : Summary} {world : World}
    (plain : world.files.Plain) (unseen : world.files.exists? request.summaryPath = false) :
    host.Throughout (SummaryLate request before) (finish request noted summary).run world := by
  have apart : request.summaryPath.locate world.files.home ≠ request.summaryDraft.locate world.files.home := by
    rw [locate_summary, locate_draft]
    exact fun same => absurd (List.append_cancel_left same) (by decide)
  unfold finish
  refine ⟨.of_unseen unseen, fun _ begun replies => ?_⟩
  have same := World.files_of_looks (by trivial) replies
  rw [← same] at plain unseen apart
  refine ⟨.of_unseen unseen, fun answer drafted replies => ?_⟩
  rcases replies.write plain with ⟨rfl, draft⟩ | ⟨error, rfl, drafts⟩
  · have still : drafted.files.exists? request.summaryPath = false := by
      rw [← unseen]
      exact exists?_congr plain draft.plain direct.straight_summary draft.home (draft.other apart)
    refine ⟨.of_unseen still, fun answer ended replies => ?_⟩
    rw [← draft.home] at apart
    have found := draft.same
    rw [← draft.home] at found
    rcases replies.rename draft.plain found apart.symm with ⟨rfl, done, home, -, moved⟩ | ⟨error, rfl, same⟩
    · have final (rest : Program (Except InstallError Summary)) (now : World)
          (state : Concludes summary rest ∧ now.files = ended.files) : SummaryLate request before rest now := by
        obtain ⟨concludes, same⟩ := state
        refine ⟨fun seen => .inr ⟨summary, concludes, ?_⟩, ?_⟩
        · rw [same] at seen ⊢
          apply readFile_of_exists? done seen
          rw [moved, home, if_pos rfl]
        · rintro step cause rfl
          cases concludes
      refine (throughout_of_concludes ?_).weaken final
      exact fun _ => concludes_commit _
    · exact .of_unseen (same ▸ still)
  · exact .of_unseen (Drafts.unseen drafts direct plain unseen)

theorem throughout_run_late (world : World) (direct : request.Direct) (plain : world.files.Plain) :
    host.Throughout (SummaryLate request world.files) (run request).run world := by
  -- What may be asked for while there is no new summary.
  let permits (_ : Host.Request) (now : World) : Prop :=
    now.files = world.files ∨ now.files.exists? request.summaryPath = false
  have early (wanted : Host.Request) (now : World) (rest : wanted.Answer → Program (Except InstallError Summary))
      (permitted : permits wanted now) : SummaryLate request world.files (.ask wanted rest) now := by
    refine ⟨fun seen => .inl (permitted.resolve_right fun unseen => absurd (unseen.symm.trans seen) (by decide)), ?_⟩
    intro step cause same
    cases same
  have ended {error : InstallError} {now : World}
    (stopped : now.files = world.files ∨ now.files.exists? request.summaryPath = false)
      (notStep : error.Early) : SummaryLate request world.files (.done (.error error)) now := by
    refine ⟨fun seen => .inl (stopped.resolve_right fun unseen => absurd (unseen.symm.trans seen) (by decide)), ?_⟩
    rintro step cause same
    cases same
    cases notStep
  have orderly := orderly_requiring permits
  rw [run_eq]
  have opening : (host.requiring permits).Safe _ (openWheel request).run world :=
    safe_openWheel (.inl rfl) fun _ _ replies => World.Replies.readFile replies
  refine Rules.throughout_andThen opening early ?_ ?_
  · rintro error now ⟨rfl | ⟨content, rfl, -⟩, notStep⟩
    · exact ended (.inl rfl) notStep
    · exact ended (.inl rfl) notStep
  · rintro opened now ⟨known, content, ⟨rfl, -⟩, -⟩
    have retained : ∃ path, request.retainedPath = .ok path := ⟨_, known.retained⟩
    have underway (later : FileSystem) (underway : Underway request now.files later) :=
      unseen_of_underway direct plain underway
    refine Rules.throughout_andThen (safe_prepareTarget orderly plain (fun _ => direct.straight) retained fun _ later =>
      underway later.files) early ?_ ?_
    · rintro error later ⟨stopped, notStep⟩
      exact ended (underway later.files stopped) notStep
    · intro noted later prepared
      have unseen := unseen_of_prepared direct plain prepared retained
      have plain := prepared.plain
      refine Rules.throughout_andThen (orderly.safe_of_tries plain (confined_fillTarget known) fun _ _ changes =>
        .inr (unseen_of_filled direct plain known unseen changes)) early ?_ ?_
      · exact fun _ _ changes => .of_unseen (unseen_of_filled direct plain known unseen changes)
      · rintro ⟨kept, summary⟩ last ⟨-, changes⟩
        exact throughout_finish direct changes.plain (unseen_of_filled direct plain known unseen changes)

/-! ### The whole -/

/-- What finding a summary means while an installation goes on: the files are as before, or the archive is installed. -/
structure SummaryLast (request : Request) (before : FileSystem) (rest : Program (Except InstallError Summary))
    (now : World) : Prop where
  found : now.files.exists? request.summaryPath = true → now.files = before ∨
    ∃ summary wheel mode file, Concludes summary rest ∧
      now.files.readFile request.summaryPath = .ok summary.render.toUTF8 ∧
      Installed request before summary now.files wheel mode file
  failed : ∀ step cause, rest = .done (.error (.partialFailure step cause)) →
    now.files.exists? request.summaryPath = false

theorem Concludes.ends {summary : Summary} {program : Program (Except InstallError Summary)} {world : World}
    {post : Except InstallError Summary → World → Prop} (concludes : Concludes summary program)
    (safe : host.Safe post program world) : ∃ after, post (.ok summary) after ∧ after.files = world.files := by
  induction program generalizing world with
  | done outcome =>
    cases concludes
    exact ⟨world, safe, rfl⟩
  | ask wanted next ih =>
    cases wanted with
    | register path | release path =>
      obtain ⟨after, holds, same⟩ := ih () (concludes ()) (safe.2 () _ (.inl (.inl rfl)))
      exact ⟨after, holds, same⟩
    | _ => exact concludes.elim

/-- At every instant, and however the installation ends. -/
theorem run_summary_last (world : World) (direct : request.Direct) (plain : world.files.Plain) :
    host.Throughout (SummaryLast request world.files) (run request).run world := by
  have late := throughout_run_late world direct plain
  have complete := Rules.Safe.throughout (yields_run plain direct)
  refine (late.and complete).weaken fun rest now ⟨late, complete⟩ => ⟨fun seen => ?_, late.failed⟩
  refine (late.found seen).imp_right fun ⟨summary, concludes, read⟩ => ?_
  obtain ⟨after, ⟨wheel, mode, file, installed⟩, same⟩ := concludes.ends complete
  exact ⟨summary, wheel, mode, file, concludes, read, same ▸ installed⟩

/-- An installation that fails at its last step, and one that succeeds. -/
theorem run_summary_last_both :
    (lackingRequest.Direct ∧ firstWorld.files.Plain ∧
        host.Throughout (SummaryLast lackingRequest firstWorld.files) (run lackingRequest).run firstWorld ∧
        host.Runs (run lackingRequest).run firstWorld (.error lackingError) failedWorld ∧
        failedWorld.files.exists? lackingRequest.summaryPath = false) ∧
      overRequest.Direct ∧ failedWorld.files.Plain ∧
        host.Throughout (SummaryLast overRequest failedWorld.files) (run overRequest).run failedWorld ∧
        host.Runs (run overRequest).run failedWorld (.ok Wheel.smallSummary) overWorld ∧
        overWorld.files.exists? overRequest.summaryPath = true ∧
        ∃ summary wheel mode file, Concludes summary (.done (.ok Wheel.smallSummary)) ∧
          overWorld.files.readFile overRequest.summaryPath = .ok summary.render.toUTF8 ∧
          Installed overRequest failedWorld.files summary overWorld.files wheel mode file := by
  -- The instances are stated as a whole first: the program would be run otherwise.
  have whole {request : Request} {world after : World} {outcome : Except InstallError Summary} (direct : request.Direct)
      (plain : world.files.Plain) (runs : host.Runs (run request).run world outcome after) :
      host.Throughout (SummaryLast request world.files) (run request).run world ∧
        SummaryLast request world.files (.done outcome) after :=
    ⟨run_summary_last world direct plain, (run_summary_last world direct plain).runs runs⟩
  have fails := Rules.runs_of_run host_perform run_lacking
  have succeeds := Rules.runs_of_run host_perform run_over
  constructor
  · have direct : lackingRequest.Direct := by constructor <;> decide
    have plain : firstWorld.files.Plain := ⟨by decide, rfl⟩
    obtain ⟨always, last⟩ := whole direct plain fails
    exact ⟨direct, plain, always, fails, last.failed _ _ rfl⟩
  · have direct : overRequest.Direct := by constructor <;> decide
    have plain : failedWorld.files.Plain := ⟨by decide, rfl⟩
    obtain ⟨always, last⟩ := whole direct plain succeeds
    have seen : overWorld.files.exists? overRequest.summaryPath = true := by decide +kernel
    have changed : overWorld.files ≠ failedWorld.files := by decide +kernel
    exact ⟨direct, plain, always, succeeds, seen, (last.found seen).resolve_left changed⟩

end WheelInstaller.Install
