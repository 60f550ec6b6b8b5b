import Mathlib
import WheelInstaller.Proofs.FileSystem.Slots
import WheelInstaller.Proofs.Install.Requests
import WheelInstaller.Proofs.Install.Separation
import WheelInstaller.Proofs.Wheel.Content

/-! Extraction by workers that take turns. However many they are, whichever files each of them gets, and in whatever
order they act: they succeed or fail alike, and what they leave is the same. -/

namespace WheelInstaller.Install

open Host Host.Rules FileSystem

open RecordedPath (names)

/-- What a worker does: it opens the archive for itself, and extracts its share. -/
def worker (archive : Path) (share : List (Entry × Path)) : Program (Except StepError Nat) := do
  let content ← readFile archive
  (extractFiles archive (Wheel.openContainer archive content) share).run

/-- How an extraction can end. Once the directories are made, the files are dealt to workers, and these take turns
until one of them fails or all are done. -/
inductive Extracts (wheel : Wheel) (plan : Plan) (root : Path) (world : World) :
    Except StepError Nat → World → Prop where
  | unmade {error : StepError} {after : World}
      (refused : (prepare plan root).run.run World.perform world = (.error error, after)) :
      Extracts wheel plan root world (.error error) after
  | failed {count : Nat} {prepared after : World} {shares : Fin count → List (Entry × Path)}
      {left : Fin count → Program (Except StepError Nat)} {failing : Fin count} {error : StepError}
      (made : (prepare plan root).run.run World.perform world = (.ok (), prepared))
      (dealt : (List.ofFn shares).flatten.Perm plan.files)
      (turns : Interleaved World.perform (fun member => worker wheel.path (shares member)) prepared left after)
      (stopped : left failing = .done (.error error)) : Extracts wheel plan root world (.error error) after
  | finished {count : Nat} {prepared after : World} {shares : Fin count → List (Entry × Path)}
      {left : Fin count → Program (Except StepError Nat)} {sizes : Fin count → Nat}
      (made : (prepare plan root).run.run World.perform world = (.ok (), prepared))
      (dealt : (List.ofFn shares).flatten.Perm plan.files)
      (turns : Interleaved World.perform (fun member => worker wheel.path (shares member)) prepared left after)
      (done : ∀ member, left member = .done (.ok (sizes member))) :
      Extracts wheel plan root world (.ok (List.ofFn sizes).sum) after

def containerOf (archive : Path) (world : World) : Except ArchiveError Container.Index :=
  Wheel.openContainer archive (world.files.readFile archive)

/-! ### Where the files go -/

/-- The place of a planned file below the root. -/
def place (site : Location) (pair : Entry × Path) : Location :=
  site ++ names pair.1.path

/-- The places of some files, if there is an archive to extract them from. -/
def Takes (base : FileSystem) (archive : Path) (site : Location) (files : List (Entry × Path))
    (location : Location) : Prop :=
  (base.readFile archive).isOk ∧ ∃ pair ∈ files, location = place site pair

namespace Plan

variable {archive root : Path} {entries : List Entry} {plan : Plan}

theorem Faithful.names_eq_of_prefix (faithful : plan.Faithful root entries) {pair other : Entry × Path}
    (member : pair ∈ plan.files) (also : other ∈ plan.files) (above : names pair.1.path <+: names other.1.path) :
    names pair.1.path = names other.1.path := by
  by_contra different
  obtain ⟨known, file⟩ := faithful.mem_entries member
  obtain ⟨deeper, -⟩ := faithful.mem_entries also
  refine faithful.apart _ known file ⟨other.1, deeper, .inl ⟨(names pair.1.path).length, ?_, ?_, ?_⟩⟩
  · exact List.length_pos_iff.mpr (faithful.named _ known)
  · exact lt_of_le_of_ne above.length_le fun same => different (above.eq_of_length same)
  · exact List.prefix_iff_eq_take.mp above

theorem destination_of_build (built : build archive root entries = .ok plan) {pair : Entry × Path}
    (member : pair ∈ plan.files) :
    pair.2 = root.under (names pair.1.path) := by
  obtain ⟨placed, done, checked⟩ := build_eq_ok.mp built
  obtain ⟨-, rfl⟩ := checkFiles_eq_ok.mp checked
  obtain ⟨target, found, same⟩ := (placed_of_placeAll done).1.targets pair (List.mem_filter.mp member).1
  rw [← same, RecordedPath.destination_eq found]

end Plan

variable {wheel : Wheel} {archive root : Path} {plan : Plan} {entries : List Entry}
    {base : FileSystem} {site : Location}

theorem Takes.mono {share more : List (Entry × Path)} {location : Location}
    (takes : Takes base archive site share location)
    (inside : share ⊆ more) : Takes base archive site more location :=
  ⟨takes.1, takes.2.imp fun _ => And.imp_left fun member => inside member⟩

theorem slot_of_build (built : Plan.build archive root entries = .ok plan) (readable : (base.readFile archive).isOk)
    {pair : Entry × Path} (member : pair ∈ plan.files) :
    Slot root site (Takes base archive site plan.files) pair.2 (place site pair) := by
  have faithful := Plan.faithful_of_build built
  obtain ⟨known, -⟩ := faithful.mem_entries member
  refine ⟨⟨names pair.1.path, faithful.named _ known, faithful.proper _ known,
    Plan.destination_of_build built member, rfl⟩,
    ⟨readable, pair, member, rfl⟩, ?_⟩
  rintro _ ⟨-, other, also, rfl⟩ above
  exact congrArg (site ++ ·) (faithful.names_eq_of_prefix also member ((List.prefix_append_right_inj site).mp above))

/-- The tree in which the directories of a plan are made. -/
structure LaidOut (archive root : Path) (entries : List Entry) (plan : Plan) (site : Location)
    (world : World) : Prop where
  built : Plan.build archive root entries = .ok plan
  ground : world.files.Ground root site
  waiting : world.cancelled = false

namespace LaidOut

variable {world now : World} (laid : LaidOut archive root entries plan site world)
include laid

theorem start : Start world.files archive root site (Takes world.files archive site plan.files) := by
  refine ⟨laid.ground, ?_⟩
  by_cases readable : (world.files.readFile archive).isOk
  · exact .inl readable
  · exact .inr fun _ taken => readable taken.1

theorem ongoing : Ongoing world.files (Takes world.files archive site plan.files) world :=
  ⟨laid.waiting, .refl _⟩

theorem readFile_eq (ongoing : Ongoing world.files (Takes world.files archive site plan.files) now) :
    now.files.readFile archive = world.files.readFile archive :=
  ongoing.2.readFile laid.start.legible

/-- Each file has its place, unless the archive cannot be opened. -/
theorem able {share : List (Entry × Path)} {pair : Entry × Path} (member : pair ∈ share) (planned : pair ∈ plan.files) :
    (∃ error, containerOf archive world = .error error) ∨
      ∃ location, Takes world.files archive site share location ∧
        Slot root site (Takes world.files archive site plan.files) pair.2 location := by
  unfold containerOf
  cases read : world.files.readFile archive with
  | error error => exact .inl ⟨_, rfl⟩
  | ok content =>
    have readable : (world.files.readFile archive).isOk = true := by rw [read]; rfl
    exact .inr ⟨place site pair, ⟨readable, pair, member, rfl⟩, slot_of_build laid.built readable planned⟩

theorem keeping_share {share : List (Entry × Path)} (inside : share ⊆ plan.files) :
    Keeping laid.start (Takes world.files archive site share)
      (extractFiles archive (containerOf archive world) share) :=
  keeping_extractFiles fun _ member => laid.able member (inside member)

theorem confined_worker {share : List (Entry × Path)} (inside : share ⊆ plan.files) :
    (separation laid.start).Confined (Takes world.files archive site share) (worker archive share) := by
  refine ⟨rfl, fun answer _ ⟨now, ongoing, told⟩ => ?_⟩
  have read : answer = world.files.readFile archive := told.trans (laid.readFile_eq ongoing)
  rw [read]
  exact (laid.keeping_share inside).confined

end LaidOut

/-! ### Files one by one -/

/-- What becomes of a file that is extracted alone. -/
def alone (archive : Path) (world : World) (pair : Entry × Path) : Except StepError Nat × World :=
  (extractFile archive (containerOf archive world) pair.1 pair.2).run.run World.perform world

/-- How many bytes a file has that is extracted alone. -/
def size (archive : Path) (world : World) (pair : Entry × Path) : Nat :=
  (alone archive world pair).1.toOption.getD 0

/-- Files end together as they do alone. -/
def EndAlike (archive : Path) (site : Location) (world : World) (share : List (Entry × Path)) :
    Except StepError Nat → World → Prop
  | .ok total, after =>
    (∀ pair ∈ share, (alone archive world pair).1.isOk) ∧ total = (share.map (size archive world)).sum ∧
      ∀ pair ∈ share, ∀ location, Takes world.files archive site [pair] location →
        after.files.get? location = (alone archive world pair).2.files.get? location
  | .error _, _ => ∃ pair ∈ share, (alone archive world pair).1.isOk = false

theorem EndAlike.congr {world last after : World} {share : List (Entry × Path)} {outcome : Except StepError Nat}
    (alike : EndAlike archive site world share outcome last)
    (agree : ∀ location, Takes world.files archive site share location →
      after.files.get? location = last.files.get? location) :
    EndAlike archive site world share outcome after := by
  cases outcome with
  | error error => exact alike
  | ok total =>
    obtain ⟨able, sum, held⟩ := alike
    refine ⟨able, sum, fun pair member location takes => ?_⟩
    exact (agree location (takes.mono (by simpa using member))).trans (held pair member location takes)

theorem run_sum (first second : Attempt StepError Nat) (world : World) :
    (do let size ← first; return size + (← second) : Attempt StepError Nat).run.run World.perform world =
      match first.run.run World.perform world with
      | (.error error, middle) => (.error error, middle)
      | (.ok size, middle) =>
        match second.run.run World.perform middle with
        | (.error error, last) => (.error error, last)
        | (.ok total, last) => (.ok (size + total), last) := by
  rw [Program.run_andThen]
  cases first.run.run World.perform world with
  | mk reached middle =>
    cases reached with
    | error => rfl
    | ok size =>
      dsimp only
      rw [Program.run_andThen]
      cases second.run.run World.perform middle with
      | mk remaining last => cases remaining <;> rfl

theorem nodup_of_dealt {count : Nat} {shares : Fin count → List (Entry × Path)} {files : List (Entry × Path)}
    (dealt : (List.ofFn shares).flatten.Perm files) (distinct : (files.map (place site)).Nodup) :
    (∀ member, shares member ⊆ files) ∧ (∀ member, ((shares member).map (place site)).Nodup) ∧
      ∀ member another, member ≠ another → ∀ pair ∈ shares member, ∀ other ∈ shares another,
      place site pair ≠ place site other := by
  have inside : ∀ member, shares member ⊆ files := fun member pair held =>
    dealt.mem_iff.mp (List.mem_flatten.mpr ⟨_, List.mem_ofFn.mpr ⟨member, rfl⟩, held⟩)
  have each : ((List.ofFn shares).map (List.map (place site))).flatten.Nodup := by
    rw [← List.map_flatten]
    exact (dealt.map _).nodup_iff.mpr distinct
  rw [List.map_ofFn, List.nodup_flatten, List.pairwise_ofFn] at each
  refine ⟨inside, fun member => each.1 _ (List.mem_ofFn.mpr ⟨member, rfl⟩),
    fun member another different pair held other also same => ?_⟩
  have first : place site pair ∈ (shares member).map (place site) := List.mem_map.mpr ⟨pair, held, rfl⟩
  have second : place site pair ∈ (shares another).map (place site) := List.mem_map.mpr ⟨other, also, same.symm⟩
  rcases lt_or_gt_of_ne different with before | behind
  · exact each.2 before first second
  · exact each.2 behind second first

namespace LaidOut

variable {world now : World} (laid : LaidOut archive root entries plan site world)
include laid

theorem nodup_places : (plan.files.map (place site)).Nodup := by
  have faithful := Plan.faithful_of_build laid.built
  have mapped : plan.files.map (place site) = (plan.files.map fun pair => names pair.1.path).map (site ++ ·) := by
    rw [List.map_map]
    rfl
  rw [mapped]
  exact faithful.nodup_names.map fun _ _ => List.append_cancel_left

theorem confined_alone {pair : Entry × Path} (planned : pair ∈ plan.files) :
    (separation laid.start).Confined (Takes world.files archive site [pair])
      (extractFile archive (containerOf archive world) pair.1 pair.2).run :=
  (keeping_extractFile_of (laid.able (List.mem_singleton_self pair) planned)).confined

theorem extractFile_eq_alone {pair : Entry × Path} (planned : pair ∈ plan.files)
    (ongoing : Ongoing world.files (Takes world.files archive site plan.files) now)
    (fresh : ∀ location, Takes world.files archive site [pair] location →
      now.files.get? location = world.files.get? location)
    {reached : Except StepError Nat} {after : World}
    (ended : (extractFile archive (containerOf archive world) pair.1 pair.2).run.run World.perform
      now = (reached, after)) :
    reached = (alone archive world pair).1 ∧ Ongoing world.files (Takes world.files archive site plan.files) after ∧
      (∀ location, Takes world.files archive site [pair] location →
        after.files.get? location = (alone archive world pair).2.files.get? location) ∧
      ∀ location, ¬ Takes world.files archive site [pair] location →
      after.files.get? location = now.files.get? location := by
  have confined := laid.confined_alone planned
  obtain ⟨outcome, places⟩ := confined.same laid.ongoing ongoing fresh
  obtain ⟨still, outside⟩ := confined.keeps ongoing
  have run : (extractFile archive (containerOf archive world) pair.1 pair.2).run.run
    (separation laid.start).respond now =
      (reached, after) := ended
  rw [run] at outcome places still outside
  exact ⟨outcome, still, places, outside⟩

theorem endAlike_extractFiles {share : List (Entry × Path)} (inside : share ⊆ plan.files)
    (distinct : (share.map (place site)).Nodup)
    (ongoing : Ongoing world.files (Takes world.files archive site plan.files) now)
    (fresh : ∀ location, Takes world.files archive site share location →
      now.files.get? location = world.files.get? location)
    {outcome : Except StepError Nat} {last : World}
    (ended : (extractFiles archive (containerOf archive world) share).run.run World.perform now = (outcome, last)) :
    EndAlike archive site world share outcome last := by
  -- What was extracted before has come to other places only, so each file still finds its own as it was.
  induction share generalizing now outcome last with
  | nil =>
    cases ended
    exact ⟨by simp, rfl, by simp⟩
  | cons pair rest ih =>
    obtain ⟨planned, later⟩ := List.cons_subset.mp inside
    simp only [List.map_cons, List.nodup_cons] at distinct
    -- No other file of the share has the place of the first.
    have apart : ∀ location, Takes world.files archive site [pair] location →
      ¬ Takes world.files archive site rest location := by
      rintro _ ⟨-, known, only, rfl⟩ ⟨-, other, member, same⟩
      cases List.mem_singleton.mp only
      exact distinct.1 (List.mem_map.mpr ⟨other, member, same.symm⟩)
    rw [extractFiles, run_sum] at ended
    cases first : (extractFile archive (containerOf archive world) pair.1 pair.2).run.run World.perform now with
    | mk reached after =>
    obtain ⟨rfl, still, places, outside⟩ :=
      laid.extractFile_eq_alone planned ongoing (fun location takes => fresh location (takes.mono (by simp))) first
    rw [first] at ended
    cases done : (alone archive world pair).1 with
    | error error =>
      rw [done] at ended
      cases ended
      exact ⟨pair, by simp, by rw [done]; rfl⟩
    | ok count =>
      rw [done] at ended
      dsimp only at ended
      cases second : (extractFiles archive (containerOf archive world) rest).run.run World.perform after with
      | mk remaining final =>
      have others := ih later distinct.2 still (fun location takes =>
        (outside location fun here => apart location here takes).trans (fresh location (takes.mono (by simp)))) second
      rw [second] at ended
      cases remaining with
      | error error =>
        cases ended
        obtain ⟨other, member, failed⟩ := others
        exact ⟨other, List.mem_cons_of_mem _ member, failed⟩
      | ok total =>
        cases ended
        obtain ⟨able, sum, held⟩ := others
        have run : (extractFiles archive (containerOf archive world) rest).run.run
          (separation laid.start).respond after =
          (.ok total, last) := second
        obtain ⟨-, kept⟩ := (laid.keeping_share later).confined.keeps still
        rw [run] at kept
        refine ⟨List.forall_mem_cons.mpr ⟨by rw [done]; rfl, able⟩, ?_, List.forall_mem_cons.mpr
          ⟨fun location takes => ?_, held⟩⟩
        · rw [List.map_cons, List.sum_cons, ← sum, size, done]
          rfl
        · exact (kept location (apart location takes)).trans (places location takes)

theorem endAlike_of_turns {count : Nat} {shares : Fin count → List (Entry × Path)}
    {left : Fin count → Program (Except StepError Nat)}
    {after : World} (dealt : (List.ofFn shares).flatten.Perm plan.files)
    (turns : Interleaved World.perform (fun member => worker archive (shares member)) world left after) :
    (∀ location, ¬ Takes world.files archive site plan.files location →
      after.files.get? location = world.files.get? location) ∧
      ∀ member outcome, left member = .done outcome → EndAlike archive site world (shares member) outcome after := by
  obtain ⟨inside, distinct, apart⟩ := nodup_of_dealt dealt laid.nodup_places
  have turns : Interleaved (separation laid.start).respond (fun member => worker archive (shares member))
    world left after := turns
  obtain ⟨elsewhere, ends⟩ := turns.alone (fun member => Takes world.files archive site (shares member)) laid.ongoing
    (fun member => laid.confined_worker (inside member)) (by
      rintro member another different _ ⟨-, pair, held, rfl⟩ ⟨-, other, also, same⟩
      exact apart member another different pair held other also same)
  refine ⟨fun location free => elsewhere location fun member takes => free (takes.mono (inside member)),
    fun member outcome done => ?_⟩
  obtain ⟨same, agree⟩ := ends member
  rw [done] at same agree
  have alike := laid.endAlike_extractFiles (inside member) (distinct member) laid.ongoing (fun _ _ => rfl) rfl
  have told : outcome =
    ((extractFiles archive (containerOf archive world) (shares member)).run.run World.perform world).1 := same
  rw [told]
  exact alike.congr agree

end LaidOut

/-! ### All workers together -/

theorem gains_createDirectories {world after : World} {path : Path} {outcome : Except StepError Unit}
    (done : (attemptAs .host (createDirectories path) : Attempt StepError Unit).run.run World.perform
      world = (outcome, after)) :
    after.cancelled = world.cancelled ∧
    ∃ told, (FileSystem.makeDirectories path).run world.files = (told, after.files) ∧
      (outcome = .ok () → told = .ok ()) := by
  cases ran : (FileSystem.makeDirectories path).run world.files with
  | mk told files =>
    have run : (attemptAs .host (createDirectories path) : Attempt StepError Unit).run.run World.perform world =
        ((told.mapError (HostError.refused (.createDirectories path))).mapError StepError.host,
          { world with files }) := by
      change ((((FileSystem.makeDirectories path).run world.files).1.mapError _).mapError _,
        { world with files := ((FileSystem.makeDirectories path).run world.files).2 }) = _
      rw [ran]
    rw [run] at done
    cases done
    refine ⟨rfl, told, rfl, fun ok => ?_⟩
    cases told with
    | ok => rfl
    | error => cases ok

theorem gains_makeDirectories {directories : List Path} {world after : World} {outcome : Except StepError Unit}
    (done : (makeDirectories directories).run.run World.perform world = (outcome, after)) :
    after.cancelled = world.cancelled ∧ world.files.Gains after.files := by
  induction directories generalizing world with
  | nil =>
    cases done
    exact ⟨rfl, .refl _⟩
  | cons directory rest ih =>
    rw [makeDirectories, Program.run_andThen] at done
    cases first :
      (attemptAs .host (createDirectories directory) : Attempt StepError Unit).run.run World.perform world with
    | mk reached middle =>
      obtain ⟨waiting, told, ran, -⟩ := gains_createDirectories first
      have gains := FileSystem.gains_makeDirectories ran
      rw [first] at done
      cases reached with
      | error error =>
        cases done
        exact ⟨waiting, gains⟩
      | ok =>
        obtain ⟨still, further⟩ := ih done
        exact ⟨still.trans waiting, gains.trans further⟩

theorem laidOut_of_prepare {world prepared : World} (built : Plan.build archive root entries = .ok plan)
    (waiting : world.cancelled = false) (vacant : world.files.Vacant root)
    (made : (prepare plan root).run.run World.perform world = (.ok (), prepared)) :
    ∃ site, LaidOut archive root entries plan site prepared := by
  rw [prepare, Program.run_andThen] at made
  cases first : (attemptAs .host (createDirectories root) : Attempt StepError Unit).run.run World.perform world with
  | mk reached middle =>
    obtain ⟨same, told, ran, success⟩ := gains_createDirectories first
    rw [first] at made
    cases reached with
    | error error => cases made
    | ok =>
      rw [success rfl] at ran
      obtain ⟨site, ground⟩ := ground_of_empty (vacant _ ran)
      obtain ⟨still, gains⟩ := gains_makeDirectories made
      exact ⟨site, built, ground.gains gains, still.trans (same.trans waiting)⟩

namespace LaidOut

variable {world after last : World} (laid : LaidOut archive root entries plan site world)
include laid

/-- Workers that are all done have extracted every file, and each as it would be extracted alone. -/
theorem endAlike_of_finished {count : Nat} {shares : Fin count → List (Entry × Path)}
    {left : Fin count → Program (Except StepError Nat)}
    {sizes : Fin count → Nat} (dealt : (List.ofFn shares).flatten.Perm plan.files)
    (turns : Interleaved World.perform (fun member => worker archive (shares member)) world left after)
    (done : ∀ member, left member = .done (.ok (sizes member))) :
    EndAlike archive site world plan.files (.ok (List.ofFn sizes).sum) after := by
  obtain ⟨-, ends⟩ := laid.endAlike_of_turns dealt turns
  have each (member : Fin count) := ends member _ (done member)
  have dealer {pair : Entry × Path} (planned : pair ∈ plan.files) : ∃ member, pair ∈ shares member := by
    obtain ⟨share, listed, held⟩ := List.mem_flatten.mp (dealt.mem_iff.mpr planned)
    obtain ⟨member, rfl⟩ := List.mem_ofFn.mp listed
    exact ⟨member, held⟩
  refine ⟨fun pair planned => ?_, ?_, fun pair planned => ?_⟩
  · obtain ⟨member, held⟩ := dealer planned
    exact (each member).1 pair held
  · have sums : sizes = List.sum ∘ List.map (size archive world) ∘ shares := funext fun member => (each member).2.1
    rw [← (dealt.map (size archive world)).sum_eq, List.map_flatten, List.sum_flatten,
      List.map_ofFn, List.map_ofFn, sums]
  · obtain ⟨member, held⟩ := dealer planned
    exact (each member).2.2 pair held

theorem exists_of_failed {count : Nat} {shares : Fin count → List (Entry × Path)}
    {left : Fin count → Program (Except StepError Nat)}
    {failing : Fin count} {error : StepError} (dealt : (List.ofFn shares).flatten.Perm plan.files)
    (turns : Interleaved World.perform (fun member => worker archive (shares member)) world left after)
    (stopped : left failing = .done (.error error)) : ∃ pair ∈ plan.files,
    (alone archive world pair).1.isOk = false := by
  obtain ⟨pair, held, failed⟩ := (laid.endAlike_of_turns dealt turns).2 failing _ stopped
  exact ⟨pair, (nodup_of_dealt dealt laid.nodup_places).1 failing held, failed⟩

end LaidOut

namespace LaidOut

variable {world start after : World} {outcome : Except StepError Nat}
    (laid : LaidOut wheel.path root entries plan site world)
include laid

theorem ends_of_extracts (made : (prepare plan root).run.run World.perform start = (.ok (), world))
    (extracts : Extracts wheel plan root start outcome after) :
    EndAlike wheel.path site world plan.files outcome after ∧
      (outcome.isOk → ∀ location, ¬ Takes world.files wheel.path site plan.files location →
        after.files.get? location = world.files.get? location) := by
  cases extracts with
  | unmade refused => cases made.symm.trans refused
  | failed also dealt turns stopped =>
    cases made.symm.trans also
    exact ⟨laid.exists_of_failed dealt turns stopped, nofun⟩
  | finished also dealt turns done =>
    cases made.symm.trans also
    exact ⟨laid.endAlike_of_finished dealt turns done, fun _ => (laid.endAlike_of_turns dealt turns).1⟩

end LaidOut

theorem get?_eq_of_endAlike {prepared after last : World} {total sum : Nat}
    (ends : EndAlike wheel.path site prepared plan.files (.ok total) after)
    (also : EndAlike wheel.path site prepared plan.files (.ok sum) last)
    (elsewhere : ∀ location, ¬ Takes prepared.files wheel.path site plan.files location →
      after.files.get? location = prepared.files.get? location)
    (outside : ∀ location, ¬ Takes prepared.files wheel.path site plan.files location →
      last.files.get? location = prepared.files.get? location) (location : Location) :
    last.files.get? location = after.files.get? location := by
  by_cases takes : Takes prepared.files wheel.path site plan.files location
  · obtain ⟨readable, pair, planned, rfl⟩ := takes
    have own : Takes prepared.files wheel.path site [pair] (place site pair) :=
      ⟨readable, pair, List.mem_singleton_self pair, rfl⟩
    exact (also.2.2 pair planned _ own).trans (ends.2.2 pair planned _ own).symm
  · exact (outside location takes).trans (elsewhere location takes).symm

/-! ### One worker after another -/

theorem run_worker {archive : Path} {share : List (Entry × Path)} {world : World} :
    (worker archive share).run World.perform world =
      (extractFiles archive (containerOf archive world) share).run.run World.perform world := rfl

theorem run_extractShares_cons {archive : Path} {share : List (Entry × Path)}
    {rest : List (List (Entry × Path))} {world : World} :
    (extractShares archive (share :: rest)).run.run World.perform world =
      match (worker archive share).run World.perform world with
      | (.error error, middle) => (.error error, middle)
      | (.ok size, middle) =>
        match (extractShares archive rest).run.run World.perform middle with
        | (.error error, last) => (.error error, last)
        | (.ok total, last) => (.ok (size + total), last) :=
  run_sum (extractFiles archive (containerOf archive world) share) (extractShares archive rest) world

/-- Shares that are extracted one after another are extracted by workers that wait for each other. -/
theorem turns_of_extractShares {archive : Path} {shares : List (List (Entry × Path))} {world after : World}
    {outcome : Except StepError Nat}
    (done : (extractShares archive shares).run.run World.perform world = (outcome, after)) :
    ∃ left, Interleaved World.perform (fun member => worker archive (shares.get member)) world left after ∧
      match outcome with
      | .error error => ∃ failing, left failing = .done (.error error)
      | .ok total => ∃ sizes, (∀ member, left member = .done (.ok (sizes member))) ∧ total = (List.ofFn sizes).sum := by
  induction shares generalizing world outcome after with
  | nil =>
    cases done
    exact ⟨_, .refl _ _, fun _ => 0, fun member => member.elim0, rfl⟩
  | cons share rest ih =>
    have dealt : (fun member => worker archive ((share :: rest).get member)) =
        Fin.cons (worker archive share) fun member => worker archive (rest.get member) :=
      funext (Fin.cases rfl fun _ => rfl)
    -- The first worker goes on to its end while the others wait.
    have first : Interleaved World.perform _ world _ _ :=
      .of_run (Fin.cons (worker archive share) fun member => worker archive (rest.get member)) 0 world
    rw [Fin.cons_zero, Fin.update_cons_zero] at first
    rw [dealt]
    rw [run_extractShares_cons] at done
    cases ran : (worker archive share).run World.perform world with
    | mk reached middle =>
    rw [ran] at first done
    cases reached with
    | error error =>
      cases done
      exact ⟨_, first, 0, rfl⟩
    | ok size =>
      dsimp only at done
      cases others : (extractShares archive rest).run.run World.perform middle with
      | mk remaining last =>
      obtain ⟨left, turns, ends⟩ := ih others
      rw [others] at done
      cases remaining with
      | error error =>
        cases done
        obtain ⟨failing, stopped⟩ := ends
        exact ⟨_, first.trans (turns.cons _), failing.succ, stopped⟩
      | ok total =>
        cases done
        obtain ⟨sizes, each, sum⟩ := ends
        refine ⟨_, first.trans (turns.cons _), Fin.cons size sizes, Fin.cases rfl each, ?_⟩
        rw [List.ofFn_cons, List.sum_cons, ← sum]

/-- However the files are shared out, extracting the shares one after another is one of the ways. -/
theorem extracts_of_shares {world prepared after : World} {shares : List (List (Entry × Path))}
    {outcome : Except StepError Nat} (made : (prepare plan root).run.run World.perform world = (.ok (), prepared))
    (dealt : shares.flatten.Perm plan.files)
    (done : (extractShares wheel.path shares).run.run World.perform prepared = (outcome, after)) :
    Extracts wheel plan root world outcome after := by
  have dealt : (List.ofFn shares.get).flatten.Perm plan.files := by rwa [List.ofFn_get]
  obtain ⟨left, turns, ends⟩ := turns_of_extractShares done
  cases outcome with
  | error error =>
    obtain ⟨failing, stopped⟩ := ends
    exact .failed made dealt turns stopped
  | ok total =>
    obtain ⟨sizes, each, rfl⟩ := ends
    exact .finished made dealt turns each

theorem extracts_extract {world after : World} {jobs : Nat} {outcome : Except StepError Nat}
    (done : (extract wheel plan root jobs).run.run World.perform world = (outcome, after)) :
    Extracts wheel plan root world outcome after := by
  rw [run_extract] at done
  cases made : (prepare plan root).run.run World.perform world with
  | mk reached prepared =>
  rw [made] at done
  cases reached with
  | error error =>
    cases done
    exact .unmade made
  | ok => exact extracts_of_shares made (by rw [flatten_shareOut]) done

/-! ### Any two extractions -/

/-- An extraction below an absent or empty directory ends alike in every order. If it succeeds, it tells the same
number of bytes and leaves the same tree. -/
theorem extracts_agree {world after last : World} {outcome other : Except StepError Nat}
    (built : Plan.build wheel.path root wheel.entries = .ok plan) (waiting : world.cancelled = false)
    (vacant : world.files.Vacant root) (extracts : Extracts wheel plan root world outcome after)
    (also : Extracts wheel plan root world other last) :
    (outcome.isOk ↔ other.isOk) ∧ ∀ total, outcome = .ok total →
      other = .ok total ∧ ∀ location, last.files.get? location = after.files.get? location := by
  cases made : (prepare plan root).run.run World.perform world with
  | mk reached prepared =>
  cases reached with
  | error error =>
    -- Whatever the directories fail with, nobody begins.
    have failed {outcome : Except StepError Nat} {after : World}
      (extracts : Extracts wheel plan root world outcome after) :
        outcome = .error error := by
      cases extracts with
      | unmade refused => cases made.symm.trans refused; rfl
      | failed done | finished done => cases made.symm.trans done
    rw [failed extracts, failed also]
    exact ⟨Iff.rfl, nofun⟩
  | ok =>
    obtain ⟨site, laid⟩ := laidOut_of_prepare built waiting vacant made
    obtain ⟨ends, elsewhere⟩ := laid.ends_of_extracts made extracts
    obtain ⟨others, outside⟩ := laid.ends_of_extracts made also
    have apart (able : ∀ pair ∈ plan.files, (alone wheel.path prepared pair).1.isOk)
        (failed : ∃ pair ∈ plan.files, (alone wheel.path prepared pair).1.isOk = false) : False := by
      obtain ⟨pair, planned, stuck⟩ := failed
      exact absurd (able pair planned) (by simp [stuck])
    cases outcome with
    | error error =>
      cases other with
      | error => exact ⟨Iff.rfl, nofun⟩
      | ok sum => exact (apart others.1 ends).elim
    | ok total =>
      cases other with
      | error error => exact (apart ends.1 others).elim
      | ok sum =>
        refine ⟨Iff.rfl, fun bytes same => ?_⟩
        cases same
        exact ⟨congrArg Except.ok (others.2.1.trans ends.2.1.symm),
          get?_eq_of_endAlike ends others (elsewhere rfl) (outside rfl)⟩

/-- A container of two empty members, extracted by one worker and by two. -/
theorem extracts_agree_two :
    let file : ByteArray := ⟨(Container.localMark ++ List.replicate 22 0 ++ [1, 0, 0, 0] ++ [0x61] ++
      Container.localMark ++ List.replicate 22 0 ++ [1, 0, 0, 0] ++ [0x62] ++
      Container.recordMark ++ List.replicate 24 0 ++ [1] ++ List.replicate 17 0 ++ [0x61] ++
      Container.recordMark ++ List.replicate 24 0 ++ [1] ++ List.replicate 13 0 ++ [31, 0, 0, 0] ++ [0x62] ++
      Container.endMark ++ [0, 0, 0, 0, 2, 0, 2, 0, 94, 0, 0, 0, 62, 0, 0, 0, 0, 0]).toArray⟩
    let entries : List Entry := [⟨0, "a", 0, false, none⟩, ⟨1, "b", 0, false, none⟩]
    let wheel : Wheel := { path := ⟨"w"⟩, entries, distInfo := "d", format := ⟨0⟩ }
    let root : Path := ⟨"s"⟩
    let plan : Plan := { files := [(⟨0, "a", 0, false, none⟩, ⟨"s/a"⟩), (⟨1, "b", 0, false, none⟩, ⟨"s/b"⟩)] }
    let world : World := { files := { top := .directory [("w", .file 0o644 file)] } }
    Plan.build wheel.path root wheel.entries = .ok plan ∧ world.cancelled = false ∧ world.files.Vacant root ∧
      ∃ after last, Extracts wheel plan root world (.ok 0) after ∧
        (extract wheel plan root 1).run.run World.perform world = (.ok 0, last) ∧
        ∀ location, last.files.get? location = after.files.get? location := by
  intro file entries wheel root plan world
  let prepared : World := { files := { top := .directory [("w", .file 0o644 file), ("s", .directory [])] } }
  have built : Plan.build wheel.path root wheel.entries = .ok plan := by decide +kernel
  have made : World.Ended (prepare plan root).run world (.ok ()) prepared := by decide +kernel
  have made : (prepare plan root).run.run World.perform world = (.ok (), prepared) := made.run_eq rfl
  have vacant : world.files.Vacant root := by
    refine vacant_of_absent (by decide +kernel) (by decide) fun parent above named => ?_
    have same : root.parent? = some ⟨""⟩ := by decide
    cases same.symm.trans above
    exact absurd rfl named
  have able : ((extractShares wheel.path [plan.files]).run.run World.perform prepared).1.toOption = some 0 := by
    decide +kernel
  cases turns : (extractShares wheel.path [plan.files]).run.run World.perform prepared with
  | mk outcome after =>
  cases ran : (extract wheel plan root 1).run.run World.perform world with
  | mk other last =>
  rw [turns] at able
  cases outcome with
  | error error => cases able
  | ok total =>
  cases able
  have single : Extracts wheel plan root world (.ok 0) after := extracts_of_shares made (by simp) turns
  obtain ⟨-, agree⟩ := extracts_agree built rfl vacant single (extracts_extract ran)
  obtain ⟨rfl, same⟩ := agree 0 rfl
  exact ⟨built, rfl, vacant, after, last, single, rfl, same⟩

end WheelInstaller.Install
