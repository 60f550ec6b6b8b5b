import WheelInstaller.Proofs.Packages.Completion
import WheelInstaller.Proofs.Packages.Nesting

/-! A scanned tree and its recorded paths. Whatever order the paths come in, they list a directory as the scan does,
and what is not scanned makes no difference to the plan. -/

namespace WheelInstaller

open Host Host.Rules FileSystem
open Packages (isIgnored Seen ToldAt Portrays)

/-! ### Equal snapshots -/

namespace Snapshot

variable {snapshot other : Snapshot} {steps : List Component}

theorem plan?_congr (same : snapshot.directories.Equiv other.directories) (implicit : Bool) :
    snapshot.plan? implicit = other.plan? implicit := by
  have listing (directory : Path) : snapshot.listing? directory = other.listing? directory := same.getElem?_eq
  have visit (depth : Nat) (directory : Path) : snapshot.visit depth directory = other.visit depth directory := by
    ext found
    exact ⟨fun visited => visit_of_agree (fun target _ => (listing target).symm) visited le_rfl,
      fun visited => visit_of_agree (fun target _ => listing target) visited le_rfl⟩
  unfold plan? missingInitializers?
  rw [visit, same.size_eq]

theorem plan?_eq_of_agree {initializers others : List Path}
    (agree : ∀ target, Relation.ReflTransGen snapshot.Calls Path.origin target →
      other.listing? target = snapshot.listing? target)
    (planned : snapshot.plan? false = some initializers) (also : other.plan? false = some others) :
    initializers = others := by
  obtain ⟨found, visited, same⟩ := Option.bind_eq_some_iff.mp planned
  obtain ⟨again, further, equal⟩ := Option.bind_eq_some_iff.mp also
  have deep := visit_of_agree agree visited (Nat.le_max_left snapshot.directories.size other.directories.size)
  have deeper := visit_of_agree (fun _ _ => rfl) further
    (Nat.le_max_right snapshot.directories.size other.directories.size)
  cases deep.symm.trans deeper
  cases same
  cases equal
  rfl

/-- Where listings fit together and name things properly, names lead to whatever has one. -/
theorem Connected.exists_names (connected : snapshot.Connected []) (proper : snapshot.Proper)
    (listed : snapshot.directories[steps]? ≠ none) :
    ∃ names : List String, steps = names.map .name := by
  induction steps using List.reverseRecOn with
  | nil => exact ⟨[], rfl⟩
  | append_singleton steps component ih =>
    obtain ⟨name, member, stands⟩ := connected.linked steps component listed
    obtain ⟨listing, found, inside⟩ := mem_inside.mp member
    rw [List.nil_append] at found
    obtain ⟨names, rfl⟩ := ih (by simp [found])
    have named := Component.Stands.of_properName (proper names listing found name inside)
    cases stands.step.symm.trans named.step
    exact ⟨names ++ [name], by simp⟩

/-- Every listing is in order. -/
def Ascends (snapshot : Snapshot) : Prop :=
  ∀ (steps : List Component) (listing : Listing), snapshot.directories[steps]? = some listing → listing.Ascending

theorem Ascends.update {directory : Path} {listing : Listing} (ascends : snapshot.Ascends)
    (ascending : listing.Ascending) :
    (snapshot.update directory fun _ => listing).Ascends := by
  intro steps found listed
  rw [getElem?_update] at listed
  split at listed
  · cases listed
    exact ascending
  · exact ascends steps found listed

end Snapshot

namespace Packages

variable {world : World} {files : FileSystem} {root : Path} {site : Location} {names : List String} {isDirectory : Bool}
variable {snapshot : Snapshot} {paths : List String}

section Order

variable {rules : Rules World} (open_ : ∀ wanted now, rules.permits wanted now)
include open_

theorem ascending_survey {seen : Survey} {children : List Path} (ascending : seen.listing.Ascending) :
    rules.Safe (Rules.Ends (fun found _ => found.listing.Ascending) fun _ _ => True)
    (survey seen children).run world := by
  induction children generalizing seen world with
  | nil => exact ascending
  | cons child rest ih =>
    unfold survey
    split
    next => exact ih ascending
    next name _ =>
      refine ⟨open_ _ _, fun answer after _ => ?_⟩
      cases answer with
      | false => exact ih (ascending.addFile name)
      | true => exact ih (ascending.addDirectory name)

theorem ascends_scanFrom {depth : Nat} {relative : Path} (ascends : snapshot.Ascends) :
    rules.Safe (Rules.Ends (fun found _ => found.Ascends) fun _ _ => True)
    (scanFrom root depth relative snapshot).run world := by
  induction depth generalizing relative snapshot world with
  | zero => exact ascends
  | succ depth ih =>
    unfold scanFrom
    refine ⟨open_ _ _, fun answer after _ => ?_⟩
    cases answer with
    | error => trivial
    | ok children =>
      refine Rules.Safe.andThen (ascending_survey open_ ⟨.nil, .nil⟩) fun found now ascending => ?_
      exact Rules.Safe.foldlM (fun _ _ (found : Snapshot) _ => found.Ascends)
        (ascends.update ascending) fun _ _ _ _ _ _ => ih

theorem ascends_scan : rules.Safe (Rules.Ends (fun found _ => found.Ascends) fun _ _ => True) (scan root).run world :=
  ascends_scanFrom open_ fun steps listing listed => by simp at listed

end Order

/-! ### What a tree has -/

/-- The host tells that something is at the end of names, and a directory at every one before. -/
structure Grown (site : Location) (files : FileSystem) (root : Path) (isDirectory : Bool)
    (names : List String) : Prop where
  below : names ≠ []
  told : ToldAt site isDirectory files root names
  above : ∀ front, front <+: names → front ≠ [] → front ≠ names → ToldAt site true files root front

/-- The root, or a directory that is in nothing that is ignored, and not ignored itself. -/
def Open (site : Location) (files : FileSystem) (root : Path) (names : List String) : Prop :=
  (names = [] ∨ Grown site files root true names) ∧ ∀ name ∈ names, isIgnored name = false

theorem Grown.of_prefix {front : List String} (grown : Grown site files root isDirectory names)
    (shorter : front <+: names) (some : front ≠ [])
    (different : front ≠ names) : Grown site files root true front := by
  refine ⟨some, grown.above front shorter some different, fun other less some apart => ?_⟩
  refine grown.above other (less.trans shorter) some ?_
  rintro rfl
  exact apart (less.eq_of_length_le shorter.length_le)

theorem grown_concat {name : String} : Grown site files root isDirectory (names ++ [name]) ↔
    (names = [] ∨ Grown site files root true names) ∧ ToldAt site isDirectory files root (names ++ [name]) := by
  constructor
  · intro grown
    refine ⟨?_, grown.told⟩
    by_cases root : names = []
    · exact .inl root
    · exact .inr (grown.of_prefix (List.prefix_append names [name]) root (by simp))
  · rintro ⟨here, told⟩
    refine ⟨by simp, told, fun front shorter some different => ?_⟩
    have shorter := (List.prefix_concat_iff.mp shorter).resolve_left different
    rcases here with rfl | grown
    · exact absurd (List.prefix_nil.mp shorter) some
    · by_cases same : front = names
      · exact same ▸ grown.told
      · exact grown.above front shorter some same

theorem Open.of_seen {target : List String} (seen : Seen (ToldAt site true files root) names target)
    (here : Open site files root names) :
    Open site files root target := by
  induction seen with
  | here => exact here
  | inner found open_ _ ih =>
    refine ih ⟨.inr (grown_concat.mpr ⟨here.1, found⟩), ?_⟩
    simpa [or_imp, forall_and] using ⟨here.2, open_⟩

theorem seen_iff_open : Seen (ToldAt site true files root) [] names ↔ Open site files root names := by
  constructor
  · exact fun seen => .of_seen seen ⟨.inl rfl, List.forall_mem_nil _⟩
  · intro here
    induction names using List.reverseRecOn with
    | nil => exact .here []
    | append_singleton names name ih =>
      obtain ⟨above, told⟩ := grown_concat.mp (here.1.resolve_left (by simp))
      have before := ih ⟨above, fun other member => here.2 other (by simp [member])⟩
      exact before.concat told (here.2 name (by simp))

section Taken

variable (sited : files.Sited root site) (wellNamed : files.WellNamed)
    (taken : ∀ names, files.get? (site ++ names) ≠ none → Taken root names)
include sited wellNamed taken

theorem toldAt_iff (below : names ≠ []) : ToldAt site isDirectory files root names ↔
    ∃ node, files.get? (site ++ names) = some node ∧ node.isDirectory = isDirectory := by
  unfold ToldAt
  cases found : files.get? (site ++ names) with
  | none => simp
  | some node =>
    have occupied : files.get? (site ++ names) ≠ none := by simp [found]
    have proper := wellNamed.proper occupied
    have same : files.isDirectory (root.under names) = node.isDirectory := by
      rw [← Path.within_eq_under below proper, Bool.eq_iff_iff, sited.isDirectory_within proper, found]
      cases node <;> simp [Node.isDirectory, taken names occupied]
    simp [same]

theorem grown_iff : Grown site files root isDirectory names ↔
    names ≠ [] ∧ ∃ node, files.get? (site ++ names) = some node ∧ node.isDirectory = isDirectory := by
  constructor
  · intro grown
    exact ⟨grown.below, (toldAt_iff sited wellNamed taken grown.below).mp grown.told⟩
  · rintro ⟨below, there⟩
    refine ⟨below, (toldAt_iff sited wellNamed taken below).mpr there, ?_⟩
    rintro front ⟨rest, rfl⟩ first different
    obtain ⟨node, found, -⟩ := there
    have more : rest ≠ [] := by
      rintro rfl
      simp at different
    have occupied : files.get? (site ++ front ++ rest) ≠ none := by simp [found]
    exact (toldAt_iff sited wellNamed taken first).mpr ⟨.directory, get?_above occupied more, rfl⟩

end Taken

/-! ### The recorded tree -/

/-- The paths of all files and directories of a tree, those with a slash at the end, in any order and however often. -/
def Lists (site : Location) (files : FileSystem) (root : Path) (paths : List String) : Prop :=
  ∀ text, text ∈ paths ↔ ∃ isDirectory names, Grown site files root isDirectory names ∧
  text = Path.spelled isDirectory names

section Recorded

variable (wellNamed : files.WellNamed) (lists : Lists site files root paths)
include wellNamed lists

theorem spelled_of_lists : Snapshot.Spelled paths := by
  intro path member
  obtain ⟨isDirectory, names, grown, same⟩ := (lists path).mp member
  exact ⟨isDirectory, names, grown.below, wellNamed.proper grown.told.1, same⟩

theorem exists_grown {path : String} (member : path ∈ paths) :
    ∃ names, Grown site files root (⟨path⟩ : Path).hasTrailingSlash names ∧ (⟨path⟩ : Path).steps = names := by
  obtain ⟨isDirectory, names, grown, rfl⟩ := (lists path).mp member
  have proper := wellNamed.proper grown.told.1
  rw [Path.hasTrailingSlash_spelled grown.below proper]
  exact ⟨names, grown, Path.steps_spelled grown.below proper⟩

theorem exists_path (grown : Grown site files root isDirectory names) :
    ∃ path ∈ paths, (⟨path⟩ : Path).hasTrailingSlash = isDirectory ∧ (⟨path⟩ : Path).steps = names := by
  have proper := wellNamed.proper grown.told.1
  exact ⟨_, (lists _).mpr ⟨isDirectory, names, grown, rfl⟩, Path.hasTrailingSlash_spelled grown.below proper,
    Path.steps_spelled grown.below proper⟩

theorem ending_iff_grown : Snapshot.Ending paths names ↔ Grown site files root false names := by
  constructor
  · rintro ⟨path, member, isFile, rfl⟩
    obtain ⟨names, grown, rfl⟩ := exists_grown wellNamed lists member
    rwa [isFile] at grown
  · exact exists_path wellNamed lists

theorem through_iff_grown (below : names ≠ []) : Snapshot.Through paths names ↔ Grown site files root true names := by
  constructor
  · rintro ⟨path, member, shorter, ends⟩
    obtain ⟨whole, grown, rfl⟩ := exists_grown wellNamed lists member
    by_cases same : names = (⟨path⟩ : Path).steps
    · rw [ends same, ← same] at grown
      exact grown
    · exact grown.of_prefix shorter below same
  · intro grown
    obtain ⟨path, member, isDirectory, rfl⟩ := exists_path wellNamed lists grown
    exact ⟨path, member, List.prefix_refl _, fun _ => isDirectory⟩

end Recorded

/-! ### The scanned tree -/

section Scanned

variable (sited : world.files.Sited root site) (wellNamed : world.files.WellNamed)
include sited wellNamed

theorem scan_shows_seen :
    serving.Safe (Ends (fun found _ => ∀ names, ¬ Seen (ToldAt site true world.files root) [] names →
      found.at? names = none) fun _ _ => True)
      (scan root).run world := by
  refine (safe_scanFrom (listable_of_sited sited wellNamed) orderly_serving (fun _ _ => trivial) []
    (List.forall_mem_nil _) (.inl rfl)
    (by decide)).weaken fun outcome after ended => ended.imp ?_ fun _ _ _ => trivial
  rintro found - ⟨-, scanned⟩ names unseen
  rw [scanned.shown.outside names unseen]
  simp [Snapshot.at?]

/-- Only directories have a listing that are neither ignored nor in something that is. -/
theorem exists_open_of_listed (scanned : (scan root).run.run World.perform world = (.ok snapshot, world))
    (proper : snapshot.Proper) {steps : List Component} (listed : snapshot.directories[steps]? ≠ none) :
    ∃ names, Open site world.files root names ∧ steps = names.map .name := by
  have connected := run_of_safe host_perform (@connected_scan world wellNamed root)
  have shown := run_of_safe serving_perform (scan_shows_seen sited wellNamed)
  rw [scanned] at connected shown
  obtain ⟨names, rfl⟩ := Snapshot.Connected.exists_names connected proper listed
  refine ⟨names, seen_iff_open.mp ?_, rfl⟩
  by_contra unseen
  exact listed (shown names unseen)

end Scanned

/-- A scanned tree and its recorded paths. -/
structure Agrees (site : Location) (root : Path) (world : World) (paths : List String)
    (snapshot : Snapshot) : Prop where
  scanned : (scan root).run.run World.perform world = (.ok snapshot, world)
  listed : ∀ names, Open site world.files root names →
    ∃ listing, snapshot.at? names = some listing ∧ (Snapshot.ofPaths paths).at? names = some listing
  unlisted : ∀ directory, snapshot.listing? directory ≠ none →
    ∃ names, Open site world.files root names ∧ Path.origin.Extends names directory
  planned : ∀ implicit, ∃ initializers,
    snapshot.plan? implicit = some initializers ∧ (Snapshot.ofPaths paths).plan? implicit = some initializers

theorem listing_agrees (wellNamed : files.WellNamed) (lists : Lists site files root paths)
    (portrays : Portrays site files root snapshot) (ascends : snapshot.Ascends) (here : Open site files root names) :
    ∃ listing, snapshot.at? names = some listing ∧ (Snapshot.ofPaths paths).at? names = some listing := by
  have spelled := spelled_of_lists wellNamed lists
  obtain ⟨listing, found, shows⟩ := portrays.depicts names (seen_iff_open.mpr here)
  have recorded : (Snapshot.ofPaths paths).at? names ≠ none := by
    rw [spelled.at?_ne_none]
    rcases here.1 with root | grown
    · exact .inl root
    · exact .inr ((through_iff_grown wellNamed lists grown.below).mpr grown)
  have known : (Snapshot.ofPaths paths).at? names = some _ := Snapshot.getElem?_of_listed recorded
  have also := spelled.shows names
  have told (isDirectory : Bool) (name : String) :
      ToldAt site isDirectory files root (names ++ [name]) ↔ Grown site files root isDirectory (names ++ [name]) := by
    rw [grown_concat, and_iff_right here.1]
  refine ⟨listing, found, ?_⟩
  rw [known, (ascends _ _ found).eq ((Snapshot.holds_ofPaths paths).ascending _) (fun name => ?_) fun name => ?_]
  · rw [shows.files, also.files, told, ending_iff_grown wellNamed lists]
  · rw [shows.directories, also.directories, told, through_iff_grown wellNamed lists (by simp)]

theorem exists_open_of_reaches (wellNamed : files.WellNamed) (portrays : Portrays site files root snapshot)
    {target : Path} (reaches : Relation.ReflTransGen snapshot.Calls Path.origin target) :
    ∃ names, Open site files root names ∧ Path.origin.Extends names target := by
  induction reaches with
  | refl => exact ⟨[], ⟨.inl rfl, List.forall_mem_nil _⟩, .refl _⟩
  | tail _ calls ih =>
    obtain ⟨names, here, spelled⟩ := ih
    obtain ⟨listing, listed, name, member, seen, rfl⟩ := calls
    have visited := seen_iff_open.mpr here
    obtain ⟨_, known, shows⟩ := portrays.depicts names visited
    rw [Snapshot.listing?_eq spelled] at listed
    cases listed.symm.trans known
    have told := (shows.directories name).mp member
    exact ⟨names ++ [name], seen_iff_open.mp (visited.concat told seen),
      spelled.div (wellNamed.proper told.1 name (by simp))⟩

/-- Whatever order the paths of a tree without links come in and however often, they record the same. A scan of the
tree has a listing of just the directories that are neither ignored nor in something that is, the recorded one, and
the same plan. Where the host takes all paths of the tree, they are those of all that is there. -/
theorem scan_agrees_with_paths (wellNamed : world.files.WellNamed) (unlinked : world.files.Unlinked root)
    (directory : world.files.isDirectory (root.within []) = true)
    (reached : world.files.status true root = .ok (site, .directory)) (lists : Lists site world.files root paths) :
    (∀ others : List String, (∀ path, path ∈ others ↔ path ∈ paths) →
      (Snapshot.ofPaths others).directories.Equiv (Snapshot.ofPaths paths).directories ∧
        ∀ implicit, (Snapshot.ofPaths others).plan? implicit = (Snapshot.ofPaths paths).plan? implicit) ∧
      (∃ snapshot, Agrees site root world paths snapshot) ∧
      ((∀ names, world.files.get? (site ++ names) ≠ none → Taken root names) → ∀ isDirectory names,
        Grown site world.files root isDirectory names ↔
          names ≠ [] ∧ ∃ node, world.files.get? (site ++ names) = some node ∧ node.isDirectory = isDirectory) := by
  obtain ⟨place, found, sited, listed⟩ := exists_site_of_isDirectory wellNamed unlinked directory
  cases reached.symm.trans found
  refine ⟨fun others same => ?_, ?_, fun taken isDirectory names => grown_iff sited wellNamed taken⟩
  · have equal : (Snapshot.ofPaths others).directories.Equiv (Snapshot.ofPaths paths).directories :=
      .of_forall_constGet?_eq (Snapshot.getElem?_ofPaths_eq same)
    exact ⟨equal, Snapshot.plan?_congr equal⟩
  · obtain ⟨snapshot, scanned, portrays⟩ := exists_scan sited wellNamed listed
    have ascends : snapshot.Ascends := by
      have ended := run_of_safe serving_perform (@ascends_scan world root _ fun _ _ => trivial)
      rwa [scanned] at ended
    have agree (names : List String) (here : Open site world.files root names) :=
      listing_agrees wellNamed lists portrays ascends here
    refine ⟨snapshot, scanned, agree, fun directory found =>
      exists_open_of_listed sited wellNamed scanned portrays.covers.proper found,
      fun implicit => ?_⟩
    cases implicit with
    | true => exact ⟨[], rfl, rfl⟩
    | false =>
      obtain ⟨initializers, planned, -⟩ := Snapshot.exists_plan? portrays.covers.proper
      obtain ⟨others, also, -⟩ := Snapshot.exists_plan? (spelled_of_lists wellNamed lists).depicts.1
      refine ⟨initializers, planned, ?_⟩
      rw [also, Snapshot.plan?_eq_of_agree (fun target reaches => ?_) planned also]
      obtain ⟨names, here, spelled⟩ := exists_open_of_reaches wellNamed portrays reaches
      obtain ⟨listing, known, recorded⟩ := agree names here
      rw [Snapshot.listing?_eq spelled, Snapshot.listing?_eq spelled, known, recorded]

/-- Recorded paths in no order, one of them twice. A directory that is ignored is among them. -/
theorem scan_agrees_with_paths_shuffled :
    let world : World := { files := { top := .directory [("site", .directory
      [("a", .directory [("b.py", .file 0o644 .empty)]), ("x.data", .directory [("c", .directory [])])])] } }
    let paths := ["x.data/c/", "a/b.py", "a/", "x.data/", "a/b.py"]
    world.files.WellNamed ∧ world.files.Unlinked ⟨"/site"⟩ ∧
      world.files.isDirectory ((⟨"/site"⟩ : Path).within []) = true ∧
      world.files.status true ⟨"/site"⟩ = .ok (["site"], .directory) ∧ Lists ["site"] world.files ⟨"/site"⟩ paths ∧
      ∃ snapshot, Agrees ["site"] ⟨"/site"⟩ world paths snapshot := by
  intro world paths
  have plain : world.files.Plain := ⟨by decide, rfl⟩
  have unlinked : world.files.Unlinked ⟨"/site"⟩ := fun _ _ _ _ => plain.not_link
  have leads : world.files.Leads [] ["site"] (.occupied ["site"] .directory) :=
    .down rfl (by constructor <;> decide) nofun (.here rfl)
  have directory : world.files.isDirectory ((⟨"/site"⟩ : Path).within []) = true :=
    isDirectory_of_leads plain (Path.check_eq_ok.mpr (by decide +kernel)) leads
  have reached : world.files.status true ⟨"/site"⟩ = .ok (["site"], .directory) :=
    (status_eq_ok plain).mpr ⟨Path.check_eq_ok.mpr (by decide +kernel), leads_strict leads⟩
  obtain ⟨site, found, sited, -⟩ := exists_site_of_isDirectory plain.wellNamed unlinked directory
  cases reached.symm.trans found
  have there (names : List String) (occupied : world.files.get? (["site"] ++ names) ≠ none) :
      names ∈ [[], ["a"], ["a", "b.py"], ["x.data"], ["x.data", "c"]] := by
    contrapose! occupied
    rcases names with _ | ⟨first, _ | ⟨second, _ | ⟨third, rest⟩⟩⟩ <;>
      simp [world, get?, Tree.find?, Tree.child?, Tree.children, List.find?, Option.bind] at occupied ⊢ <;> grind
  have taken (names : List String) (occupied : world.files.get? (["site"] ++ names) ≠ none) :
    Taken ⟨"/site"⟩ names := by
    have each : ∀ names ∈ [[], ["a"], ["a", "b.py"], ["x.data"], ["x.data", "c"]],
        ((⟨"/site"⟩ : Path).within names).check = .ok () ∧ ∀ name ∈ names, name.utf8ByteSize ≤ Path.longestName := by
      decide +kernel
    exact ⟨(each names (there names occupied)).1, (each names (there names occupied)).2⟩
  have lists : Lists ["site"] world.files ⟨"/site"⟩ paths := by
    have grown {isDirectory : Bool} {names : List String} :
      Grown ["site"] world.files ⟨"/site"⟩ isDirectory names ↔ _ :=
      grown_iff sited plain.wellNamed taken
    intro text
    constructor
    · intro member
      simp only [paths, List.mem_cons, List.not_mem_nil, or_false] at member
      rcases member with rfl | rfl | rfl | rfl | rfl
      · exact ⟨true, ["x.data", "c"], grown.mpr ⟨by simp, .directory, rfl, rfl⟩, by decide +kernel⟩
      · exact ⟨false, ["a", "b.py"], grown.mpr ⟨by simp, .file _ _, rfl, rfl⟩, by decide +kernel⟩
      · exact ⟨true, ["a"], grown.mpr ⟨by simp, .directory, rfl, rfl⟩, by decide +kernel⟩
      · exact ⟨true, ["x.data"], grown.mpr ⟨by simp, .directory, rfl, rfl⟩, by decide +kernel⟩
      · exact ⟨false, ["a", "b.py"], grown.mpr ⟨by simp, .file _ _, rfl, rfl⟩, by decide +kernel⟩
    · rintro ⟨isDirectory, names, known, rfl⟩
      obtain ⟨below, node, found, rfl⟩ := grown.mp known
      have listed := there names (Option.ne_none_iff_exists'.mpr ⟨node, found⟩)
      simp only [List.mem_cons, List.not_mem_nil, or_false] at listed
      rcases listed with rfl | rfl | rfl | rfl | rfl
      · exact absurd rfl below
      all_goals
        cases found
        decide +kernel
  exact ⟨plain.wellNamed, unlinked, directory, reached, lists,
    (scan_agrees_with_paths plain.wellNamed unlinked directory reached lists).2.1⟩
end Packages
end WheelInstaller
