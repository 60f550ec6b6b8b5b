import WheelInstaller.Proofs.Install.Result
import WheelInstaller.Proofs.Install.SummaryLast

/-! Installing for a caller who stops waiting. The installation is told so at its next check and stops there without a
summary. After its last check it is not told any more: then it goes on to a complete installation with a summary, though
the caller only learns that the time was over. -/

namespace WheelInstaller

namespace Host

open Rules (Ends Safe)

/-- A host, whether the time is over, and what the checks for that were told, the last one first. -/
structure Watch where
  world : World
  late : Bool := false
  checks : List Bool := []

/-- Only a check is told whether the time is over. -/
def Request.Hears (late : Bool) (earlier checks : List Bool) : (request : Request) → request.Answer → Prop
  | .isCancelled, answer => answer = late ∧ checks = late :: earlier
  | _, _ => checks = earlier

/-- The time is over at some moment, between any two requests, and stays over. -/
def timed : Rules Watch where
  replies request watch answer after :=
    host.replies request watch.world answer after.world ∧ (watch.late = true → after.late = true) ∧
      request.Hears after.late watch.checks after.checks answer

/-- No check was told that the time is over before it was. -/
def Watch.Sound (watch : Watch) : Prop :=
  watch.late = false → ∀ check ∈ watch.checks, check = false

/-- No check was told that the time is over. -/
def Watch.Unheard (watch : Watch) : Prop :=
  ∀ check ∈ watch.checks, check = false

/-- The request does not check for the time. -/
def Request.Timeless : Request → Prop
  | .isCancelled => False
  | _ => True

variable {α ε : Type} {watch : Watch}

theorem checks_of_timeless {request : Request} {answer : request.Answer} {after : Watch} (timeless : request.Timeless)
    (replies : timed.replies request watch answer after) : after.checks = watch.checks := by
  cases request <;> first | exact timeless.elim | exact replies.2.2

theorem safe_timed {post : α → World → Prop} {program : Program α} (safe : host.Safe post program watch.world) :
    timed.Safe (fun value after => post value after.world) program watch := by
  induction program generalizing watch with
  | done => exact safe
  | ask request next ih => exact ⟨trivial, fun answer after replies => ih answer (safe.2 answer after.world replies.1)⟩

theorem safe_sound (program : Program α) (sound : watch.Sound) :
    timed.Safe (fun _ after => after.Sound) program watch := by
  induction program generalizing watch with
  | done => exact sound
  | ask request next ih =>
    refine ⟨trivial, fun answer after replies => ih answer fun waiting => ?_⟩
    have before : watch.late = false := Bool.eq_false_iff.mpr fun late => by simp [replies.2.1 late] at waiting
    have earlier : ∀ check ∈ watch.checks, check = false := sound before
    have heard := replies.2.2
    cases request with
    | isCancelled =>
      obtain ⟨-, checks⟩ := heard
      rw [checks, waiting]
      simpa using earlier
    | _ =>
      rw [show after.checks = watch.checks from heard]
      exact earlier

/-- Whatever an attempt does, it hears no more than there is to hear. -/
theorem safe_attempt_sound (work : Attempt ε α) (sound : watch.Sound) :
    timed.Safe (Ends (fun _ after => after.Sound) fun _ _ => True) work.run watch := by
  refine (safe_sound work.run sound).weaken fun outcome after still => ?_
  cases outcome with
  | ok => exact still
  | error => trivial

theorem runs_timed {program : Program α} {world after : World} {value : α} (waits : world.cancelled = false)
    (ran : program.run World.perform world = (value, after)) (earlier : List Bool) :
    ∃ checks, (∀ check ∈ checks, check = false) ∧
      timed.Runs program { world, checks := earlier } value { world := after, checks := checks ++ earlier } := by
  induction program generalizing world earlier with
  | done =>
    cases ran
    exact ⟨[], nofun, .done⟩
  | ask request next ih =>
    have still : (world.perform request).2.cancelled = false := (World.cancelled_perform request world).trans waits
    let heard : List Bool := match request with
      | .isCancelled => [false]
      | _ => []
    have waiting : ∀ check ∈ heard, check = false := by cases request <;> simp [heard]
    obtain ⟨checks, none, runs⟩ := ih _ still ran (heard ++ earlier)
    refine ⟨checks ++ heard, fun check member => (List.mem_append.mp member).elim (none check) (waiting check), ?_⟩
    have replies : timed.replies request { world, checks := earlier } (world.perform request).1
        { world := (world.perform request).2, checks := heard ++ earlier } := by
      refine ⟨host_perform request world, nofun, ?_⟩
      cases request with
      | isCancelled => exact ⟨waits, rfl⟩
      | _ => rfl
    rw [List.append_assoc]
    exact .ask replies runs

end Host

namespace Install

open Host Host.Rules FileSystem

variable {request : Request} {opened : Opened} {world : World} {watch : Watch}

/-! ### The last check -/

theorem safe_checkCancelled_unheard (sound : watch.Sound) :
    timed.Safe (Ends (fun _ after => after.Unheard) fun _ _ => True) checkCancelled.run watch := by
  refine ⟨trivial, fun cancelled after replies => ?_⟩
  obtain ⟨-, stays, heard, checks⟩ := replies
  cases cancelled with
  | true => trivial
  | false =>
    have waiting : watch.late = false := Bool.eq_false_iff.mpr fun late => by simp [stays late] at heard
    change ∀ check ∈ after.checks, check = false
    rw [checks, ← heard]
    simpa using sound waiting

theorem safe_readSummary_unheard {wheel : Wheel} {version : String} (unheard : watch.Unheard) :
    timed.Safe (Ends (fun _ after => after.Unheard) fun _ _ => True) (wheel.readSummary version).run watch := by
  have reading : timed.Safe (fun _ after => after.Unheard) (wheel.readSummary version).run watch := by
    refine safe_of_readSummary unheard fun path now still => ⟨trivial, fun answer after replies => ?_⟩
    have timeless : (Host.Request.readFile path).Timeless := trivial
    rwa [Watch.Unheard, checks_of_timeless timeless replies]
  refine reading.weaken fun outcome after still => ?_
  cases outcome with
  | ok => exact still
  | error => trivial

theorem safe_fillTarget_unheard (sound : watch.Sound) :
    timed.Safe (Ends (fun _ after => after.Unheard) fun _ _ => True) (fillTarget request opened).run watch := by
  unfold fillTarget
  refine (safe_attempt_sound _ sound).andThen fun _ now sound =>
    (safe_attempt_sound _ sound).andThen fun _ now sound => ?_
  refine (safe_attempt_sound _ sound).andThen fun _ now sound =>
    (safe_attempt_sound _ sound).andThen fun _ now sound => ?_
  refine (safe_attempt_sound _ sound).andThen fun _ now sound =>
    (safe_attempt_sound _ sound).andThen fun _ now sound => ?_
  refine (safe_attempt_sound _ sound).andThen fun _ now sound => ?_
  refine (Safe.wrapped (safe_checkCancelled_unheard sound)).andThen fun _ now unheard => ?_
  exact (Safe.wrapped (Safe.wrapped (safe_readSummary_unheard unheard))).andThen fun _ _ unheard =>
    Safe.returned unheard

theorem safe_commit_unheard (paths : List Path) (unheard : watch.Unheard) :
    timed.Safe (fun _ after => after.Unheard) (commit paths) watch := by
  induction paths generalizing watch with
  | nil => exact safe_pure.mpr unheard
  | cons path rest ih =>
    refine ⟨trivial, fun answer after replies => ih ?_⟩
    have timeless : (Host.Request.release path).Timeless := trivial
    rwa [Watch.Unheard, checks_of_timeless timeless replies]

theorem safe_finish_unheard {noted : List Path} {summary : Summary} (unheard : watch.Unheard) :
    timed.Safe (Ends (fun _ after => after.Unheard) fun _ _ => True) (finish request noted summary).run watch := by
  have still {wanted : Host.Request} {now after : Watch} {answer : wanted.Answer} (timeless : wanted.Timeless)
      (unheard : now.Unheard) (replies : timed.replies wanted now answer after) : after.Unheard := by
    rwa [Watch.Unheard, checks_of_timeless timeless replies]
  have writing : timed.Safe (Ends (fun _ after => after.Unheard) fun _ _ => True)
    (writeSummary request summary).run watch := by
    unfold writeSummary
    refine ⟨trivial, fun _ noted replies => ?_⟩
    have unheard := still (by trivial) unheard replies
    refine ⟨trivial, fun answer drafted replies => ?_⟩
    have unheard := still (by trivial) unheard replies
    cases answer with
    | error => trivial
    | ok =>
      refine ⟨trivial, fun answer renamed replies => ?_⟩
      have unheard := still (by trivial) unheard replies
      cases answer with
      | error => trivial
      | ok => exact ⟨trivial, fun _ after replies => still (by trivial) unheard replies⟩
  unfold finish
  refine (Safe.wrapped writing).andThen fun written now unheard => ?_
  exact Safe.andThen (Safe.lift (safe_commit_unheard _ unheard)) fun _ _ unheard => Safe.returned unheard

theorem safe_run_unheard (sound : watch.Sound) :
    timed.Safe (Ends (fun _ after => after.Unheard) fun _ _ => True) (run request).run watch := by
  rw [run_eq]
  refine (safe_attempt_sound _ sound).andThen fun opened now sound => ?_
  refine (safe_attempt_sound _ sound).andThen fun prepared now sound => ?_
  exact (safe_fillTarget_unheard sound).andThen fun filled now unheard => safe_finish_unheard unheard

/-! ### The summary -/

theorem safe_run_unseen (plain : world.files.Plain) (direct : request.Direct)
    (unseen : world.files.exists? request.summaryPath = false) :
    host.Safe (Ends (fun _ _ => True) fun _ after => after.files.exists? request.summaryPath = false)
      (run request).run world := by
  let hidden (now : World) : Prop := now.files.Plain ∧ now.files.exists? request.summaryPath = false
  have preparing (opened : Opened) (content : ByteArray) (from_ : opened.From request world.files content) :
      host.Safe (Ends (fun _ => hidden) fun _ after => after.files.exists? request.summaryPath = false)
        (prepareTarget request).run world := by
    have retained : ∃ path, request.retainedPath = .ok path := ⟨_, from_.known.retained⟩
    refine (safe_prepareTarget orderly_host plain (fun _ => direct.straight) retained fun _ _ _ => trivial).weaken
      fun _ after ended => ended.imp (fun _ _ prepared => ?_) fun _ _ stopped => ?_
    · exact ⟨prepared.plain, unseen_of_prepared direct plain prepared retained⟩
    · rcases unseen_of_underway direct plain stopped.1 with same | gone
      · rwa [same]
      · exact gone
  refine safe_run orderly_host (fun _ _ => trivial) (fun _ _ _ => hidden) unseen preparing
    (fun opened content noted now from_ ⟨plain, unseen⟩ => ?_)
    fun opened content noted summary now from_ ⟨plain, unseen⟩ => ?_
  · have filling := orderly_host.safe_of_tries plain (confined_fillTarget from_.known) fun _ _ _ => trivial
    exact filling.weaken fun _ after ended => ended.imp
      (fun _ _ filled => ⟨filled.2.plain, unseen_of_filled direct plain from_.known unseen filled.2⟩)
      fun _ _ changes => unseen_of_filled direct plain from_.known unseen changes
  · refine (safe_finish plain).weaken fun _ after ended => ended.imp (fun _ _ _ => trivial) fun _ _ failed => ?_
    exact failed.2.unseen direct plain unseen

/-- If the time is told to be over, there is a summary only if that was so after the last check; and then the
installation is complete. -/
theorem runWithin_timeout (span : Duration) (world : World) (plain : world.files.Plain) (direct : request.Direct)
    (unseen : world.files.exists? request.summaryPath = false) :
    timed.Safe (fun outcome after => outcome = .error (.timeout span) →
      after.world.files.exists? request.summaryPath = true →
        (∃ earlier, after.checks = true :: earlier ∧ ∀ check ∈ earlier, check = false) ∧
        ∃ summary wheel mode file, Installed request world.files summary after.world.files wheel mode file)
      (runWithin span request).run { world } := by
  let start : Watch := { world }
  have sound : start.Sound := fun _ => by simp [start]
  have ends : host.Safe _ (run request).run start.world :=
    Safe.and (yields_run plain direct) (safe_run_unseen plain direct unseen)
  have running := (safe_timed ends).and (safe_run_unheard sound)
  refine safe_bind.mpr (running.weaken fun outcome now ended => ?_)
  obtain ⟨⟨left, hidden⟩, unheard⟩ := ended
  refine ⟨trivial, fun cancelled after replies => ?_⟩
  obtain ⟨replies, -, heard, checks⟩ := replies
  have here := replies.isCancelled
  -- What the caller learns does not tell how the installation ended.
  cases outcome with
  | ok summary =>
    cases cancelled with
    | false => exact nofun
    | true =>
      rw [← heard] at checks
      rw [← here] at left
      exact fun _ _ => ⟨⟨now.checks, checks, unheard⟩, summary, left⟩
  | error error =>
    have gone : after.world.files.exists? request.summaryPath = false := here ▸ hidden
    cases cancelled <;> exact fun _ seen => nomatch gone.symm.trans seen

/-- The time for an installation into a new directory is over right after its last check. -/
theorem runWithin_timeout_late :
    innerWorld.files.Plain ∧ freshRequest.Direct ∧ innerWorld.files.exists? freshRequest.summaryPath = false ∧
      ∃ after, timed.Runs (runWithin (.ofSeconds 1) freshRequest).run { world := innerWorld }
          (.error (.timeout (.ofSeconds 1))) after ∧
        after.world = freshWorld ∧ after.world.files.exists? freshRequest.summaryPath = true ∧
        (∃ earlier, after.checks = true :: earlier ∧ ∀ check ∈ earlier, check = false) ∧
        ∃ summary wheel mode file,
        Installed freshRequest innerWorld.files summary after.world.files wheel mode file := by
  have plain : innerWorld.files.Plain := ⟨by decide, rfl⟩
  have direct : freshRequest.Direct := by constructor <;> decide
  have unseen : innerWorld.files.exists? freshRequest.summaryPath = false := by decide +kernel
  have seen : freshWorld.files.exists? freshRequest.summaryPath = true := by decide +kernel
  obtain ⟨checks, -, running⟩ := runs_timed rfl run_fresh []
  let last : Watch := { world := freshWorld, late := true, checks := true :: (checks ++ []) }
  -- For any request first: the program would be run otherwise.
  have whole {request : Request} {world : World} {after : Watch} (plain : world.files.Plain) (direct : request.Direct)
      (unseen : world.files.exists? request.summaryPath = false)
      (runs : timed.Runs (runWithin (.ofSeconds 1) request).run { world } (.error (.timeout (.ofSeconds 1))) after) :=
    (runWithin_timeout (.ofSeconds 1) world plain direct unseen).runs runs rfl
  have told : timed.replies .isCancelled { world := freshWorld, checks := checks ++ [] } true last :=
    ⟨.inl (.inr ⟨rfl, rfl⟩), fun _ => rfl, rfl, rfl⟩
  have ends : timed.Runs (runWithin (.ofSeconds 1) freshRequest).run { world := innerWorld }
      (.error (.timeout (.ofSeconds 1))) last :=
    running.bind (.ask told .done)
  exact ⟨plain, direct, unseen, last, ends, rfl, seen, whole plain direct unseen ends seen⟩

end Install
end WheelInstaller
