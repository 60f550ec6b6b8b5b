import WheelInstaller.Proofs.Host.Doubtful
import WheelInstaller.Proofs.Install.SourceKept

/-! Clearing the target. On a host that does what it is asked for, everything in the target but the archive is taken
away, however much it is and whatever names it has. Two things are in the way of that: a directory that has the name
of the summary, since the summary is removed as a file, and a path to the target that leads through what is removed
from it. -/

namespace WheelInstaller

namespace FileSystem

variable {before middle after : FileSystem} {directory : Location} {name : String} {names others : List String}

/-- What is under some names in a directory is gone, and nothing else has changed. -/
structure Swept (directory : Location) (names : List String) (before after : FileSystem) : Prop where
  plain : after.Plain
  home : after.home = before.home
  get? : ∀ location, after.get? location =
    if ∃ name ∈ names, directory ++ [name] <+: location then none else before.get? location

namespace Swept

theorem refl (plain : before.Plain) : Swept directory [] before before :=
  ⟨plain, rfl, by simp⟩

theorem cons (removes : before.Removes (directory ++ [name]) middle) (swept : Swept directory names middle after) :
    Swept directory (name :: names) before after := by
  refine ⟨swept.plain, swept.home.trans removes.home, fun location => ?_⟩
  simp only [swept.get?, removes.get?, List.mem_cons, exists_eq_or_imp]
  by_cases further : ∃ other ∈ names, directory ++ [other] <+: location
  · rw [if_pos further, if_pos (.inr further)]
  · simp only [further, if_false, or_false]

theorem congr (swept : Swept directory names before after) (same : ∀ name, name ∈ names ↔ name ∈ others) :
    Swept directory others before after :=
  ⟨swept.plain, swept.home, fun location => by simp only [swept.get?, same]⟩

variable (swept : Swept directory names before after) {rest : Location}
include swept

theorem gone (member : name ∈ names) : after.get? (directory ++ name :: rest) = none := by
  rw [swept.get?, if_pos]
  exact ⟨name, member, rest, by simp⟩

theorem kept (apart : name ∉ names) : after.get? (directory ++ name :: rest) = before.get?
    (directory ++ name :: rest) := by
  rw [swept.get?, if_neg]
  rintro ⟨other, member, below⟩
  rw [List.prefix_append_right_inj, List.cons_prefix_cons] at below
  exact apart (below.1 ▸ member)

end Swept
end FileSystem

namespace Install

open Host Host.Rules FileSystem

variable {request : Request} {world : World} {files before after : FileSystem} {name : String} {names : List String}

/-! ### Names that can be taken away -/

/-- All of these names are in the target, under paths that a host takes, and the way to the target leads through none
of them. -/
structure Request.Sweepable (request : Request) (names : List String) (files : FileSystem) : Prop where
  plain : files.Plain
  directory : files.isDirectory request.directory = true
  distinct : names.Nodup
  there : ∀ name ∈ names, files.get? (request.directory.locate files.home ++ [name]) ≠ none
  reached : ∀ name ∈ names, (request.directory / name).check = .ok () ∧ name.utf8ByteSize ≤ Path.longestName
  apart : ∀ name ∈ names, ∀ location, files.Crosses request.directory location →
    ¬ request.directory.locate files.home ++ [name] <+: location

namespace Request.Sweepable

theorem perm {others : List String} (sweepable : request.Sweepable names files) (same : names.Perm others) :
    request.Sweepable others files where
  plain := sweepable.plain
  directory := sweepable.directory
  distinct := same.nodup_iff.mp sweepable.distinct
  there name member := sweepable.there name (same.mem_iff.mpr member)
  reached name member := sweepable.reached name (same.mem_iff.mpr member)
  apart name member := sweepable.apart name (same.mem_iff.mpr member)

variable (sweepable : request.Sweepable names files) (member : name ∈ names)
include sweepable member

theorem proper : ProperName name :=
  sweepable.plain.proper (sweepable.there name member) name (by simp)

theorem locate : (request.directory / name).locate files.home = request.directory.locate files.home ++ [name] :=
  Path.locate_div (sweepable.proper member)

theorem still (shrinks : Shrinks (request.directory.locate files.home ++ [name] <+: ·) files after) :
    after.isDirectory request.directory = true :=
  isDirectory_along sweepable.plain shrinks.plain shrinks.home sweepable.directory fun location crosses =>
    shrinks.same (sweepable.apart name member location crosses)

theorem anchored (plain : after.Plain) (home : after.home = files.home)
    (there : after.isDirectory request.directory = true) :
    after.Anchored (request.directory / name) (request.directory.locate files.home) name := by
  obtain ⟨checked, short⟩ := sweepable.reached name member
  exact home ▸ anchored_div plain there (sweepable.proper member) checked short

theorem removeDirectory (found : files.get? (request.directory.locate files.home ++ [name]) = some .directory) :
    ∃ after, (FileSystem.removeDirectory (request.directory / name)).run files = (.ok (), after) ∧
      files.Removes (request.directory.locate files.home ++ [name]) after := by
  have anchored := sweepable.anchored member sweepable.plain rfl sweepable.directory
  have clears := Clears.clear sweepable.plain (by simp) found
  have there := sweepable.still member (.of_clears found clears)
  rw [← sweepable.locate member] at found ⊢
  refine removeDirectory_still sweepable.plain anchored found ?_
  rw [sweepable.locate member]
  exact sweepable.anchored member clears.plain rfl there

theorem removeFile (found : files.get? (request.directory.locate files.home ++ [name]) ≠ some .directory) :
    ∃ after, (FileSystem.removeFile (request.directory / name)).run files = (.ok (), after) ∧
      files.Removes (request.directory.locate files.home ++ [name]) after := by
  have anchored := sweepable.anchored member sweepable.plain rfl sweepable.directory
  have filled := Path.filled_of_check (leads_of_isDirectory sweepable.plain sweepable.directory).1
  have occupied := sweepable.there name member
  rw [← sweepable.locate member] at found occupied ⊢
  obtain ⟨node, there⟩ := Option.ne_none_iff_exists'.mp occupied
  cases node with
  | directory => exact absurd there found
  | link => exact absurd there sweepable.plain.not_link
  | file mode content =>
    exact removeFile_anchored sweepable.plain anchored
      (Path.hasTrailingSlash_div filled (sweepable.proper member)) there

end Request.Sweepable

theorem Request.Sweepable.rest (sweepable : request.Sweepable (name :: names) files)
    (removes : files.Removes (request.directory.locate files.home ++ [name]) after) :
    request.Sweepable names after where
  plain := removes.plain
  directory := sweepable.still List.mem_cons_self (.of_removes removes)
  distinct := (List.nodup_cons.mp sweepable.distinct).2
  there other member := by
    have different : name ≠ other := fun same => (List.nodup_cons.mp sweepable.distinct).1 (same ▸ member)
    have apart : ¬ request.directory.locate files.home ++ [name] <+: request.directory.locate
      files.home ++ [other] := by
      simp [List.prefix_append_right_inj, different]
    rw [removes.home, removes.get?, if_neg apart]
    exact sweepable.there other (List.mem_cons_of_mem name member)
  reached other member := sweepable.reached other (List.mem_cons_of_mem name member)
  apart other member location crosses := by
    rw [removes.home]
    refine sweepable.apart other (List.mem_cons_of_mem name member) location ?_
    rwa [FileSystem.Crosses, origin, removes.home] at crosses

/-! ### Taking away -/

theorem safe_removeAll_sweeps (sweepable : request.Sweepable names world.files) :
    serving.Safe (Ends (fun _ after => Swept (request.directory.locate world.files.home) names world.files after.files)
      fun _ _ => False) (removeAll (names.map (request.directory / ·))).run world := by
  induction names generalizing world with
  | nil => exact .refl sweepable.plain
  | cons name names ih =>
    have member : name ∈ name :: names := List.mem_cons_self
    -- However the first is taken away, the others follow.
    have onward (files : FileSystem)
      (removes : world.files.Removes (request.directory.locate world.files.home ++ [name]) files) :
        serving.Safe (Ends
          (fun _ after => Swept (request.directory.locate world.files.home) (name :: names) world.files after.files)
          fun _ _ => False) (removeAll (names.map (request.directory / ·))).run { world with files } := by
      refine (ih (sweepable.rest removes)).succeeding fun _ after swept => ?_
      rw [removes.home] at swept
      exact swept.cons removes
    rw [List.map_cons, removeAll]
    refine ⟨trivial, fun answer same replies => ?_⟩
    obtain ⟨told, rfl⟩ := (orderly_serving _ _ _ _ replies).isDirectory
    cases answer with
    | true =>
      have found := get?_of_isDirectory sweepable.plain told.symm
      rw [sweepable.locate member] at found
      obtain ⟨files, ran, removes⟩ := sweepable.removeDirectory member found
      refine ⟨trivial, fun answer after replies => ?_⟩
      simp only [serving, World.perform, World.act, ran] at replies
      cases replies
      exact onward files removes
    | false =>
      have anchored := sweepable.anchored member sweepable.plain rfl sweepable.directory
      have found : same.files.get? (request.directory.locate same.files.home ++ [name]) ≠ some .directory := by
        intro found
        rw [← sweepable.locate member] at found
        cases told.trans (anchored.isDirectory sweepable.plain found)
      obtain ⟨files, ran, removes⟩ := sweepable.removeFile member found
      refine ⟨trivial, fun answer after replies => ?_⟩
      simp only [serving, World.perform, World.act, ran] at replies
      cases replies
      exact onward files removes

theorem same_summary_iff (proper : ProperName name) : (request.directory / name).same request.summaryPath = true ↔
    name = Summary.fileName := by
  constructor
  · intro same
    simp only [Path.same, decide_eq_true_eq] at same
    have located : (request.directory / name).locate [] = request.summaryPath.locate [] := by
      rw [Path.locate, same, Path.locate]
    rw [Path.locate_div proper, locate_summary] at located
    simpa using located
  · rintro rfl
    simp [Path.same, Request.summaryPath]

section Summary

variable (proper : ∀ name ∈ names, ProperName name)
include proper

theorem any_same_summary_iff :
    (names.map (request.directory / ·)).any (·.same request.summaryPath) = true ↔ Summary.fileName ∈ names := by
  simp only [List.any_map, List.any_eq_true, Function.comp_apply]
  constructor
  · rintro ⟨name, member, same⟩
    exact (same_summary_iff (proper name member)).mp same ▸ member
  · exact fun member => ⟨_, member, (same_summary_iff (proper _ member)).mpr rfl⟩

theorem filter_not_same_summary (distinct : names.Nodup) :
    (names.map (request.directory / ·)).filter (fun path => !path.same request.summaryPath) =
      (names.erase Summary.fileName).map (request.directory / ·) := by
  rw [List.filter_map, distinct.erase_eq_filter]
  refine congrArg _ (List.filter_congr fun name member => ?_)
  rw [Bool.eq_iff_iff, Function.comp_apply, bne_iff_ne, Bool.not_eq_true', ← Bool.not_eq_true,
    same_summary_iff (proper name member)]

theorem safe_clearTarget_obstructed (plain : world.files.Plain) (member : Summary.fileName ∈ names)
    {directory : Location} (anchored : world.files.Anchored request.summaryPath directory Summary.fileName)
    (found : world.files.get? (request.summaryPath.locate world.files.home) = some .directory) :
    serving.Safe (Ends (fun _ _ => False)
      fun error after => error = .host (.refused (.removeFile request.summaryPath) .isDirectory) ∧ after = world)
      (clearTarget request (names.map (request.directory / ·))).run world := by
  have ran := removeFile_anchored_directory plain anchored found
  unfold clearTarget
  rw [if_pos ((any_same_summary_iff proper).mpr member)]
  refine ⟨trivial, fun answer after replies => ?_⟩
  simp only [serving, World.perform, World.act, ran] at replies
  cases replies
  exact ⟨rfl, rfl⟩

end Summary

/-- The summary goes first and the others after it, so all of the names are gone. -/
theorem safe_clearTarget_sweeps (sweepable : request.Sweepable names world.files)
    (free : Summary.fileName ∈ names →
      world.files.get? (request.summaryPath.locate world.files.home) ≠ some .directory) :
    serving.Safe (Ends (fun _ after => Swept (request.directory.locate world.files.home) names world.files after.files)
      fun _ _ => False) (clearTarget request (names.map (request.directory / ·))).run world := by
  unfold clearTarget
  rw [filter_not_same_summary (fun _ => sweepable.proper) sweepable.distinct]
  split
  next listed =>
    have member := (any_same_summary_iff fun _ => sweepable.proper).mp listed
    have order := List.perm_cons_erase member
    obtain ⟨files, ran, removes⟩ := sweepable.removeFile member (locate_summary ▸ free member)
    refine ⟨trivial, fun answer after replies => ?_⟩
    rw [Request.summaryPath] at replies
    simp only [serving, World.perform, World.act, ran] at replies
    cases replies
    refine (safe_removeAll_sweeps ((sweepable.perm order).rest removes)).succeeding fun _ after swept => ?_
    rw [removes.home] at swept
    exact (swept.cons removes).congr fun name => order.mem_iff.symm
  next unlisted =>
    have absent := mt (any_same_summary_iff fun _ => sweepable.proper).mpr unlisted
    rw [List.erase_of_not_mem absent]
    exact safe_removeAll_sweeps sweepable

/-! ### Preparing a target that is there -/

/-- The names of what is in the target, except what leads to the archive. -/
@[irreducible]
def Request.clutter (request : Request) (files : FileSystem) : List String :=
  (files.children (request.directory.locate files.home)).filter fun name =>
    ¬ request.SourceAt files (request.directory / name)

theorem Request.mem_clutter : name ∈ request.clutter files ↔
    files.get? (request.directory.locate files.home ++ [name]) ≠ none ∧
    ¬ request.SourceAt files (request.directory / name) := by
  simp only [Request.clutter, List.mem_filter, mem_children, decide_eq_true_eq]

theorem safe_serving_of_steady {α : Type} {post : α → World → Prop} {program : Program α}
    (safe : (steady True).Safe post program world) : serving.Safe post program world := by
  induction program generalizing world with
  | done => exact safe
  | ask request next ih =>
    refine ⟨trivial, fun answer after replies => ih answer (safe.2 answer after ?_)⟩
    exact ⟨orderly_serving _ _ _ _ replies, fun _ _ _ => .inl replies⟩

theorem safe_prepareTarget_clears {good : World → Prop} {bad : InstallError → World → Prop} (plain : world.files.Plain)
    (there : world.files.isDirectory request.directory = true) (allowed : request.overwrite = true)
    (clearing : serving.Safe (Ends (fun _ => good) fun error => bad (.target request.directory error))
      (clearTarget request ((request.clutter world.files).map (request.directory / ·))).run world) :
    serving.Safe (Ends (fun noted after => noted = [] ∧ good after) bad) (prepareTarget request).run world := by
  have listed := readDirectory_of_isDirectory plain there
  unfold prepareTarget
  refine ⟨trivial, fun answer same replies => ?_⟩
  obtain ⟨rfl, rfl⟩ := (orderly_serving _ _ _ _ replies).exists
  rw [exists?_of_isDirectory there]
  refine ⟨trivial, fun answer same replies => ?_⟩
  obtain ⟨rfl, rfl⟩ := (orderly_serving _ _ _ _ replies).isDirectory
  rw [there]
  refine Safe.andThen (Safe.lift (safe_serving_of_steady safe_sourceIdentity_steady))
    fun source same ⟨here, known⟩ => ?_
  subst here
  refine ⟨trivial, fun answer same replies => ?_⟩
  simp only [serving, World.perform, listed] at replies
  cases replies
  refine Safe.andThen (Safe.lift (safe_serving_of_steady (safe_withoutSource_steady known fun _ _ _ => trivial)))
    fun existing same ⟨here, kept⟩ => ?_
  subst here
  have kept : existing = (request.clutter same.files).map (request.directory / ·) := by
    rw [kept, List.filter_map, Request.clutter]
    rfl
  rw [← kept] at clearing
  split
  next none =>
    rw [List.isEmpty_iff.mp none] at clearing
    exact ⟨rfl, clearing⟩
  next =>
    split
    next refused => simp [allowed] at refused
    next => exact Safe.andThen (Safe.wrapped clearing) fun _ _ cleared => ⟨rfl, cleared⟩

/-- Whatever is in the target is found by its path. -/
def Request.Reachable (request : Request) (files : FileSystem) : Prop :=
  ∀ name, files.get? (request.directory.locate files.home ++ [name]) ≠ none →
  files.exists? (request.directory / name) = true

/-- Something else than the archive has the name of the summary, and it is a directory. -/
def Request.Obstructed (request : Request) (files : FileSystem) : Prop :=
  files.get? (request.summaryPath.locate files.home) = some .directory ∧
    ¬ request.Recognizes files (request.summaryPath.locate files.home)

/-- The way to the target leads through nothing in it but, perhaps, the archive. -/
def Request.Upheld (request : Request) (files : FileSystem) : Prop :=
  ∀ name rest, files.Crosses request.directory (request.directory.locate files.home ++ name :: rest) →
    request.Recognizes files (request.directory.locate files.home ++ [name])

/-- The target is a directory with nothing in it but, perhaps, the archive. That is what it was, and so is all that is
not in the target. -/
structure Emptied (request : Request) (before after : FileSystem) : Prop where
  plain : after.Plain
  home : after.home = before.home
  directory : after.isDirectory request.directory = true
  only : ∀ name, after.get? (request.directory.locate before.home ++ [name]) ≠ none →
    request.Recognizes before (request.directory.locate before.home ++ [name])
  archive : ∀ name rest, request.Recognizes before (request.directory.locate before.home ++ [name]) →
    after.get? (request.directory.locate before.home ++ name :: rest) = before.get?
      (request.directory.locate before.home ++ name :: rest)
  outside : ∀ location, ¬ request.Inside before.home location → after.get? location = before.get? location

/-- Only a name or a path that is too long keeps a host from finding what is in the target. -/
theorem Request.reachable_of_short (plain : files.Plain) (there : files.isDirectory request.directory = true)
    (short : ∀ name, files.get? (request.directory.locate files.home ++ [name]) ≠ none →
      (request.directory / name).check = .ok () ∧ name.utf8ByteSize ≤ Path.longestName) : request.Reachable files := by
  intro name occupied
  obtain ⟨checked, fits⟩ := short name occupied
  have proper := plain.proper occupied name (by simp)
  have filled := Path.filled_of_check (leads_of_isDirectory plain there).1
  obtain ⟨node, found⟩ := Option.ne_none_iff_exists'.mp occupied
  rw [← Path.locate_div proper] at found
  refine (anchored_div plain there proper checked fits).exists? plain found fun slash => ?_
  cases slash.symm.trans (Path.hasTrailingSlash_div filled proper)

theorem Request.upheld_of_straight (straight : request.directory.Straight) : request.Upheld files := by
  intro name rest crosses
  exact absurd (crosses.above straight).length_le (by simp)

section Reaching

variable (plain : files.Plain) (there : files.isDirectory request.directory = true)
    (reachable : request.Reachable files)
include plain there reachable

theorem Request.Reachable.reached (occupied : files.get? (request.directory.locate files.home ++ [name]) ≠ none) :
    (request.directory / name).check = .ok () ∧ name.utf8ByteSize ≤ Path.longestName := by
  obtain ⟨location, node, found⟩ := status_of_exists? (reachable name occupied)
  obtain ⟨checked, leads⟩ := (status_eq_ok plain).mp found
  have filled := Path.filled_of_check (leads_of_isDirectory plain there).1
  have proper := plain.proper occupied name (by simp)
  exact ⟨checked, leads.short name (by simp [Path.strictSteps_div filled proper])⟩

theorem Request.Reachable.sourceAt_iff (proper : ProperName name) : request.SourceAt files (request.directory / name) ↔
    request.Recognizes files (request.directory.locate files.home ++ [name]) := by
  constructor
  · intro source
    have located := source.locate plain
    rw [Path.locate_div proper] at located
    obtain ⟨canonical, -, known, -⟩ := source
    exact ⟨located, canonical, known⟩
  · intro recognizes
    obtain ⟨canonical, known⟩ := recognizes.2
    have occupied := get?_of_canonicalize plain known
    rw [← recognizes.1] at occupied
    exact recognizes.sourceAt_of_short plain there (reachable.reached plain there occupied).2

theorem Request.Reachable.mem_clutter : name ∈ request.clutter files ↔
    files.get? (request.directory.locate files.home ++ [name]) ≠ none ∧
      ¬ request.Recognizes files (request.directory.locate files.home ++ [name]) := by
  rw [Request.mem_clutter]
  refine and_congr_right fun occupied => ?_
  rw [reachable.sourceAt_iff plain there (plain.proper occupied name (by simp))]

theorem Request.Reachable.sweepable (upheld : request.Upheld files) :
    request.Sweepable (request.clutter files) files where
  plain := plain
  directory := there
  distinct := by
    rw [Request.clutter]
    exact (nodup_children files _).filter _
  there name member := (Request.mem_clutter.mp member).1
  reached name member := reachable.reached plain there (Request.mem_clutter.mp member).1
  apart name member location crosses := by
    rintro ⟨rest, rfl⟩
    rw [List.append_assoc, List.singleton_append] at crosses
    exact ((reachable.mem_clutter plain there).mp member).2 (upheld name rest crosses)

theorem Request.Reachable.emptied {after : FileSystem} (upheld : request.Upheld files)
    (swept : Swept (request.directory.locate files.home) (request.clutter files) files after) :
    Emptied request files after where
  plain := swept.plain
  home := swept.home
  directory := by
    refine isDirectory_along plain swept.plain swept.home there fun location crosses => ?_
    rw [swept.get?, if_neg]
    rintro ⟨name, member, below⟩
    exact (reachable.sweepable plain there upheld).apart name member location crosses below
  only name occupied := by
    by_contra unknown
    by_cases absent : name ∈ request.clutter files
    · exact occupied (swept.gone absent)
    · rw [swept.kept absent] at occupied
      exact absent ((reachable.mem_clutter plain there).mpr ⟨occupied, unknown⟩)
  archive name rest recognizes :=
    swept.kept fun member => ((reachable.mem_clutter plain there).mp member).2 recognizes
  outside location outside := by
    rw [swept.get?, if_neg]
    rintro ⟨name, -, rest, rfl⟩
    exact outside ⟨name, rest, by simp⟩

end Reaching

/-- What is on the way to the emptied target is still there, so it is the archive if it is in the target. -/
theorem Emptied.upheld (emptied : Emptied request before after) : request.Upheld before := by
  rintro name rest ⟨front, inside, same⟩
  obtain ⟨location, found⟩ := status_of_isDirectory emptied.directory
  obtain ⟨-, leads⟩ := (status_eq_ok emptied.plain).mp found
  have passed := leads.get?_front inside
  rw [show after.origin request.directory = before.origin request.directory by simp [origin, emptied.home], ← same]
    at passed
  refine emptied.only name fun absent => ?_
  have beyond : after.get? (request.directory.locate before.home ++ [name] ++ rest) = none := by
    cases rest with
    | nil => simpa using absent
    | cons next rest => exact get?_below (by simp [absent]) (List.cons_ne_nil next rest)
  rw [List.append_assoc, List.singleton_append, passed] at beyond
  cases beyond

section Preparing

variable (plain : world.files.Plain) (there : world.files.isDirectory request.directory = true)
    (allowed : request.overwrite = true)
  (reachable : request.Reachable world.files)
include plain there allowed reachable

theorem safe_prepareTarget_obstructed (obstructed : request.Obstructed world.files) :
    serving.Safe (Ends (fun _ _ => False) fun error after => after = world ∧
      error = .target request.directory (.host (.refused (.removeFile request.summaryPath) .isDirectory)))
      (prepareTarget request).run world := by
  obtain ⟨found, unknown⟩ := obstructed
  have occupied : world.files.get? (request.directory.locate world.files.home ++ [Summary.fileName]) ≠ none := by
    simp [← locate_summary, found]
  have member : Summary.fileName ∈ request.clutter world.files :=
    (reachable.mem_clutter plain there).mpr ⟨occupied, locate_summary ▸ unknown⟩
  obtain ⟨checked, short⟩ := reachable.reached plain there occupied
  have anchored := anchored_div plain there properName_summary checked short
  have proper (name : String) (member : name ∈ request.clutter world.files) : ProperName name :=
    plain.proper (Request.mem_clutter.mp member).1 name (by simp)
  have clearing : serving.Safe (Ends (fun _ _ => False) fun error after => after = world ∧
      InstallError.target request.directory error =
        .target request.directory (.host (.refused (.removeFile request.summaryPath) .isDirectory)))
      (clearTarget request ((request.clutter world.files).map (request.directory / ·))).run world :=
    (safe_clearTarget_obstructed proper plain member anchored found).failing fun _ _ ended =>
      ⟨ended.2, congrArg _ ended.1⟩
  exact (safe_prepareTarget_clears plain there allowed clearing).succeeding fun _ _ ended => ended.2

theorem safe_prepareTarget_emptied (free : ¬ request.Obstructed world.files) (upheld : request.Upheld world.files) :
    serving.Safe (Ends (fun noted after => noted = [] ∧ Emptied request world.files after.files) fun _ _ => False)
      (prepareTarget request).run world := by
  refine safe_prepareTarget_clears plain there allowed ?_
  refine (safe_clearTarget_sweeps (reachable.sweepable plain there upheld) fun member found => ?_).succeeding
    fun _ _ swept =>
    reachable.emptied plain there upheld swept
  exact free ⟨found, locate_summary ▸ ((reachable.mem_clutter plain there).mp member).2⟩

end Preparing

/-- A target that is there and may be overwritten loses everything but the archive, unless a directory has the name of
the summary or the way to the target leads through what is removed. In the first of these cases nothing is removed
at all. -/
theorem prepareTarget_empties_iff (world : World) (plain : world.files.Plain)
    (there : world.files.isDirectory request.directory = true)
    (allowed : request.overwrite = true) (reachable : request.Reachable world.files) :
    ∃ outcome after, (prepareTarget request).run.run World.perform world = (outcome, after) ∧
      ((outcome = .ok [] ∧ Emptied request world.files after.files) ↔
        ¬ request.Obstructed world.files ∧ request.Upheld world.files) ∧
      (request.Obstructed world.files → after = world ∧ outcome = .error (.target request.directory
        (.host (.refused (.removeFile request.summaryPath) .isDirectory)))) := by
  have obstructed (obstructed : request.Obstructed world.files) :=
    run_of_safe serving_perform (safe_prepareTarget_obstructed plain there allowed reachable obstructed)
  have emptied (free : ¬ request.Obstructed world.files) (upheld : request.Upheld world.files) :=
    run_of_safe serving_perform (safe_prepareTarget_emptied plain there allowed reachable free upheld)
  generalize (prepareTarget request).run.run World.perform world = ended at obstructed emptied
  obtain ⟨outcome, after⟩ := ended
  refine ⟨outcome, after, rfl,
    ⟨fun ⟨succeeded, emptied⟩ => ⟨fun blocked => ?_, emptied.upheld⟩, fun ⟨free, upheld⟩ => ?_⟩, fun blocked => ?_⟩
  · have failed := obstructed blocked
    rw [succeeded] at failed
    exact failed
  · have succeeded := emptied free upheld
    cases outcome with
    | ok noted => exact ⟨congrArg _ succeeded.1, succeeded.2⟩
    | error => exact succeeded.elim
  · have failed := obstructed blocked
    cases outcome with
    | ok => exact failed.elim
    | error error => exact ⟨failed.1, congrArg _ failed.2⟩

/-- The archive is in the target, beside what is left of an old installation, or beside a directory in place of its
summary. -/
theorem prepareTarget_empties_iff_old :
    let request : Request := ⟨⟨"out/d-1-py3-none-any.whl"⟩, ⟨"out"⟩, false, true, "3", 1⟩
    let around (summary : Tree) : World :=
      { files := { top := .directory [("out", .directory
        [("d-1-py3-none-any.whl", .file 0o644 .empty), ("metadata.json", summary), ("old", .directory [])])] } }
    let finished := around (.file 0o644 .empty)
    let blocked := around (.directory [])
    (finished.files.Plain ∧ finished.files.isDirectory request.directory = true ∧ request.overwrite = true ∧
      request.Reachable finished.files ∧
      ∃ after, (prepareTarget request).run.run World.perform finished = (.ok [], after) ∧
        Emptied request finished.files after.files) ∧
    blocked.files.Plain ∧ blocked.files.isDirectory request.directory = true ∧ request.Reachable blocked.files ∧
      (prepareTarget request).run.run World.perform blocked =
        (.error (.target request.directory (.host (.refused (.removeFile request.summaryPath) .isDirectory))),
          blocked) := by
  intro request around finished blocked
  have target : request.directory.locate [] = ["out"] := by decide
  have summary : request.summaryPath.locate [] = ["out", "metadata.json"] := by
    rw [locate_summary, target]
    rfl
  have archive : request.archive.locate [] = ["out", "d-1-py3-none-any.whl"] := by decide
  have there {summary : Tree} (plain : (around summary).files.Plain) :
      (around summary).files.isDirectory request.directory = true := by
    have start : (around summary).files.origin request.directory = [] := by unfold origin; split <;> rfl
    have steps : request.directory.steps = ["out"] := by decide
    have leads : (around summary).files.Leads ((around summary).files.origin request.directory) request.directory.steps
        (.occupied ["out"] .directory) := by
      rw [start, steps]
      exact leads_of_straight (by decide) (by decide) rfl nofun
    exact isDirectory_of_leads plain (Path.check_eq_ok.mpr (by decide +kernel)) leads
  have reachable {summary : Tree} (plain : (around summary).files.Plain) :
    request.Reachable (around summary).files := by
    refine Request.reachable_of_short plain (there plain) fun name occupied => ?_
    have listed : name ∈ (around summary).files.children (request.directory.locate []) := mem_children.mpr occupied
    rw [target] at listed
    change name ∈ Ordered.ofList compare ["d-1-py3-none-any.whl", "metadata.json", "old"] at listed
    simp only [Ordered.mem_ofList, List.mem_cons, List.not_mem_nil, or_false] at listed
    rcases listed with rfl | rfl | rfl
    · exact ⟨Path.check_eq_ok.mpr (by decide +kernel), by decide⟩
    · exact ⟨Path.check_eq_ok.mpr (by decide +kernel), by decide⟩
    · exact ⟨Path.check_eq_ok.mpr (by decide +kernel), by decide⟩
  have upheld (files : FileSystem) : request.Upheld files := Request.upheld_of_straight (by decide)
  have plain : finished.files.Plain := ⟨by decide, rfl⟩
  have also : blocked.files.Plain := ⟨by decide, rfl⟩
  refine ⟨⟨plain, there plain, rfl, reachable plain, ?_⟩, also, there also, reachable also, ?_⟩
  · obtain ⟨outcome, after, ran, empties, -⟩ := prepareTarget_empties_iff finished plain
      (there plain) rfl (reachable plain)
    have free : ¬ request.Obstructed finished.files := by
      rintro ⟨found, -⟩
      change finished.files.get? (request.summaryPath.locate []) = _ at found
      rw [summary] at found
      cases found
    obtain ⟨rfl, emptied⟩ := empties.mpr ⟨free, upheld _⟩
    exact ⟨after, ran, emptied⟩
  · obtain ⟨outcome, after, ran, -, failed⟩ := prepareTarget_empties_iff blocked also (there also) rfl (reachable also)
    have obstructed : request.Obstructed blocked.files := by
      change blocked.files.get? (request.summaryPath.locate []) = _ ∧
        ¬ (request.summaryPath.locate [] = request.archive.locate [] ∧ _)
      rw [summary, archive]
      exact ⟨rfl, by simp⟩
    obtain ⟨rfl, rfl⟩ := failed obstructed
    exact ran

end Install
end WheelInstaller
