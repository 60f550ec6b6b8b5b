import WheelInstaller.Proofs.Packages.Connected
import WheelInstaller.Proofs.Packages.Normalize

/-! Which initializers are planned for a snapshot that was recorded path by path, or scanned. A scan reads every
directory once, so whatever the tree is like, the listings fit together. -/

namespace WheelInstaller

open Host

namespace FileSystem

variable {files : FileSystem}

/-- Everything has a name that can stand in a path. Links may be anywhere. -/
def WellNamed (files : FileSystem) : Prop :=
  ∀ location, files.get? location ≠ none → ∀ name ∈ location, ProperName name

theorem Plain.wellNamed (plain : files.Plain) : files.WellNamed :=
  fun _ occupied => plain.proper occupied

theorem WellNamed.proper {front rest : Location} (wellNamed : files.WellNamed)
    (occupied : files.get? (front ++ rest) ≠ none) :
    ∀ name ∈ rest, ProperName name :=
  fun name member => wellNamed _ occupied name (List.mem_append_right front member)

theorem exists_children_of_readDirectory {path : Path} {names : List String}
    (listed : files.readDirectory path = .ok names) :
    ∃ location, names = files.children location := by
  unfold readDirectory at listed
  cases found : files.status true path with
  | error error =>
    rw [found] at listed
    cases listed
  | ok reached =>
    obtain ⟨location, node⟩ := reached
    rw [found] at listed
    cases node with
    | directory =>
      cases listed
      exact ⟨location, rfl⟩
    | file | link => cases listed

end FileSystem

namespace Packages

variable {world after : World} {base key : List Component} {listing : Listing} {snapshot found : Snapshot}
    {names : List String}

theorem names_of_listing (named : world.files.WellNamed) {path : Path} {children : List Path}
    (replies : world.Replies (.readDirectory path) (.ok children) after) :
    after = world ∧ ∃ names : List String, children = names.map (path / ·) ∧ names.Nodup ∧
    ∀ name ∈ names, ProperName name := by
  obtain ⟨rfl, told⟩ := replies.listed
  refine ⟨rfl, ?_⟩
  obtain ⟨names, listed, rfl⟩ := told children rfl
  obtain ⟨location, rfl⟩ := FileSystem.exists_children_of_readDirectory listed
  refine ⟨_, rfl, FileSystem.nodup_children after.files location, fun name member => ?_⟩
  exact named _ (FileSystem.mem_children.mp member) name (by simp)

/-- What is to be looked into is listed, under its proper name. -/
structure Survey.Tidy (survey : Survey) : Prop where
  listed : ∀ name ∈ survey.inner, name ∈ survey.listing.directories
  proper : ∀ name ∈ survey.listing.directories, ProperName name

theorem Survey.Tidy.note {seen : Survey} {child : String} (tidy : seen.Tidy) (proper : ProperName child)
    (isDirectory : Bool) :
    (seen.note child isDirectory).Tidy := by
  cases isDirectory with
  | false => exact ⟨tidy.listed, tidy.proper⟩
  | true =>
    constructor
    · intro name member
      rcases List.mem_append.mp ((seen.sublist_inner_note child true).subset member) with member | here
      · exact Listing.mem_directories_addDirectory.mpr (.inr (tidy.listed name member))
      · exact Listing.mem_directories_addDirectory.mpr (.inl (List.mem_singleton.mp here))
    · intro name member
      rcases Listing.mem_directories_addDirectory.mp member with rfl | member
      · exact proper
      · exact tidy.proper name member

theorem tidy_survey {seen : Survey} {directory : Path} (proper : ∀ name ∈ names, ProperName name) (tidy : seen.Tidy) :
    host.Safe (Rules.Ends
      (fun found after => after = world ∧ found.Tidy ∧ found.inner.Sublist (seen.inner ++ names))
      fun _ _ => True) (survey seen (names.map (directory / ·))).run world := by
  refine safe_survey_each proper (fun done found after => after = world ∧ found.Tidy ∧
    found.inner.Sublist (seen.inner ++ done))
    ⟨rfl, tidy, by simp⟩ ?_
  rintro done child left found _ cut ⟨rfl, tidy, once⟩
  refine ⟨trivial, fun answer after replies => ?_⟩
  obtain ⟨-, rfl⟩ := replies.isDirectory
  refine ⟨rfl, tidy.note (proper child (by simp [cut])) answer, ?_⟩
  rw [← List.append_assoc]
  exact (found.sublist_inner_note child answer).trans (once.append_right [child])

/-- A directory has its listing, some of the directories that it names have been scanned, and the others are still
to be. -/
structure Scanning (base : List Component) (listing : Listing) (remaining : List String)
    (snapshot : Snapshot) : Prop where
  own : snapshot.directories[base]? = some listing
  inner : ∀ component, snapshot.Connected (base ++ [component])
  named : ∀ component, snapshot.directories[base ++ [component]]? ≠ none →
    ∃ segment ∈ listing.directories, Component.Stands segment component
  fresh : ∀ name ∈ remaining, ∀ rest, snapshot.directories[base ++ [.name name] ++ rest]? = none

theorem connected_of_fresh (fresh : ∀ rest, snapshot.directories[base ++ rest]? = none) : snapshot.Connected base := by
  constructor
  · intro rest segment member
    simp [Snapshot.inside, fresh] at member
  · intro rest component listed
    rw [List.append_assoc] at listed
    exact absurd (fresh _) listed

theorem Connected.congr {before : Snapshot} (connected : before.Connected base)
    (same : ∀ rest, snapshot.directories[base ++ rest]? = before.directories[base ++ rest]?) :
    snapshot.Connected base := by
  constructor
  · intro rest segment member
    rw [Snapshot.inside, same] at member
    exact connected.clear rest segment member
  · intro rest component listed
    rw [List.append_assoc, same, ← List.append_assoc] at listed
    rw [Snapshot.inside, same]
    exact connected.linked rest component listed

theorem Scanning.connected (scanning : Scanning base listing [] snapshot)
    (proper : ∀ name ∈ listing.directories, ProperName name) :
    snapshot.Connected base := by
  have own : snapshot.inside base = listing.directories := by simp [Snapshot.inside, scanning.own]
  constructor
  · intro rest segment member
    cases rest with
    | nil =>
      rw [List.append_nil, own] at member
      exact ⟨_, .of_properName (proper segment member)⟩
    | cons first rest =>
      rw [List.append_cons] at member
      exact (scanning.inner first).clear rest segment member
  · intro rest component listed
    cases rest with
    | nil =>
      rw [List.append_nil] at listed ⊢
      rw [own]
      exact scanning.named component listed
    | cons first rest =>
      rw [List.append_cons base first rest] at listed ⊢
      exact (scanning.inner first).linked rest component listed

theorem Scanning.next {name : String} {remaining : List String}
    (scanning : Scanning base listing (name :: remaining) snapshot)
    (distinct : name ∉ remaining) (proper : ProperName name) (member : name ∈ listing.directories)
    (connected : found.Connected (base ++ [.name name]))
    (kept : ∀ key, ¬ base ++ [.name name] <+: key → found.directories[key]? = snapshot.directories[key]?) :
    Scanning base listing remaining found := by
  have elsewhere {component : Component} (other : component ≠ .name name) (rest : List Component) :
      found.directories[base ++ [component] ++ rest]? = snapshot.directories[base ++ [component] ++ rest]? := by
    apply kept
    rw [List.append_assoc, List.prefix_append_right_inj, List.singleton_append, List.cons_prefix_cons]
    exact fun same => other same.1.symm
  constructor
  · have shorter : ¬ base ++ [.name name] <+: base := by
      intro longer
      have lengths := longer.length_le
      rw [List.length_append, List.length_singleton] at lengths
      omega
    rw [kept base shorter, scanning.own]
  · intro component
    by_cases same : component = .name name
    · exact same ▸ connected
    · exact Connected.congr (scanning.inner component) (elsewhere same)
  · intro component listed
    by_cases same : component = .name name
    · exact ⟨name, member, same ▸ .of_properName proper⟩
    · have unchanged := elsewhere same []
      rw [List.append_nil] at unchanged
      exact scanning.named component (unchanged ▸ listed)
  · intro other inside rest
    have different : Component.name other ≠ .name name := fun same => distinct (Component.name.inj same ▸ inside)
    rw [elsewhere different]
    exact scanning.fresh other (by simp [inside]) rest

theorem Scanning.start {relative : Path} (fresh : ∀ rest, snapshot.directories[relative.components ++ rest]? = none)
    (remaining : List String) :
    Scanning relative.components listing remaining (snapshot.update relative fun _ => listing) := by
  have below (component : Component) (rest : List Component) :
      (snapshot.update relative fun _ => listing).directories[relative.components ++ [component] ++ rest]? = none := by
    have longer : relative.components ≠ relative.components ++ [component] ++ rest := by simp
    rw [Snapshot.getElem?_update, if_neg longer, List.append_assoc, fresh]
  constructor
  · rw [Snapshot.getElem?_update, if_pos rfl]
  · exact fun component => connected_of_fresh (below component)
  · intro component listed
    have absent := below component []
    rw [List.append_nil] at absent
    exact absurd absent listed
  · exact fun name _ => below (.name name)

section Scan

variable (wellNamed : world.files.WellNamed)
include wellNamed

theorem connected_scanFrom {root : Path} {depth : Nat} {relative : Path}
    (fresh : ∀ rest, snapshot.directories[relative.components ++ rest]? = none) :
    host.Safe (Rules.Ends
      (fun found after => after = world ∧ found.Connected relative.components ∧
        ∀ key, ¬ relative.components <+: key → found.directories[key]? = snapshot.directories[key]?)
      fun _ _ => True) (scanFrom root depth relative snapshot).run world := by
  induction depth generalizing relative snapshot with
  | zero => exact ⟨rfl, connected_of_fresh fresh, fun _ _ => rfl⟩
  | succ depth ih =>
    unfold scanFrom
    refine ⟨trivial, fun answer after replies => ?_⟩
    cases answer with
    | error => trivial
    | ok children =>
      obtain ⟨rfl, names, rfl, distinct, proper⟩ := names_of_listing wellNamed replies
      refine Rules.Safe.andThen (tidy_survey proper ⟨by simp, by simp⟩) fun survey now surveyed => ?_
      obtain ⟨same, tidy, inner⟩ := surveyed
      subst same
      have nodup : survey.inner.reverse.Nodup := List.nodup_reverse.mpr (inner.nodup distinct)
      -- The directories to be looked into are scanned one after the other.
      refine (Rules.Safe.foldlM (fun _ remaining found after => after = now ∧
        Scanning relative.components survey.listing remaining found ∧
        ∀ key, ¬ relative.components <+: key → found.directories[key]? = snapshot.directories[key]?)
        ⟨rfl, .start fresh _, fun key away => ?_⟩ fun done name remaining middle _ cut held => ?_).succeeding
          fun final _ held => ⟨held.1, held.2.1.connected tidy.proper, held.2.2⟩
      · have different : relative.components ≠ key := fun same => away (same ▸ List.prefix_refl _)
        rw [Snapshot.getElem?_update, if_neg different]
      · obtain ⟨same, scanning, outside⟩ := held
        subst same
        have listed : name ∈ survey.listing.directories := tidy.listed name (List.mem_reverse.mp (by simp [cut]))
        have components : (relative / name).components = relative.components ++ [.name name] :=
          Path.components_div (tidy.proper name listed)
        have first : name ∉ remaining := by
          rw [cut] at nodup
          exact (List.nodup_cons.mp (List.nodup_append.mp nodup).2.1).1
        have untouched (rest : List Component) : middle.directories[(relative / name).components ++ rest]? = none := by
          rw [components]
          exact scanning.fresh name (by simp) rest
        refine (ih untouched).succeeding fun found _ scanned => ?_
        obtain ⟨same, connected, kept⟩ := scanned
        rw [components] at connected kept
        refine ⟨same, scanning.next first (tidy.proper name listed) listed connected kept, fun key away => ?_⟩
        rw [kept key fun longer => away ((List.prefix_append _ _).trans longer), outside key away]

theorem connected_scan {root : Path} :
    host.Safe (Rules.Ends (fun found _ => found.Connected []) fun _ _ => True) (scan root).run world := by
  refine (connected_scanFrom wellNamed fun rest => by simp).succeeding fun found _ ⟨_, connected, _⟩ => connected

end Scan

/-- The plan for a recorded tree without `.` segments, and for any scanned tree, has the initializers of exactly the
directories that lack one. -/
theorem plan_exactly :
    (∀ paths : List String, (∀ path ∈ paths, ['.'] ∉ Text.splitOn '/' path.toList) →
      (Snapshot.ofPaths paths).PlansExactly) ∧
      ∀ (root : Path) (world : World), world.files.WellNamed →
        host.Safe (Rules.Ends (fun snapshot _ => snapshot.PlansExactly) fun _ _ => True) (scan root).run world := by
  constructor
  · intro paths undotted
    exact (Snapshot.connected_ofPaths undotted).plansExactly
  · intro root world wellNamed
    refine (connected_scan wellNamed).weaken fun outcome last ended => ?_
    exact ended.imp (fun snapshot _ connected => connected.plansExactly) fun _ _ => id

/-- A package two levels up from its module, something ignored, a file that is all extension and a step up. -/
theorem plan_exactly_nested :
    let paths := ["a/b/c.py", "a/__pycache__/d.py", "e/.py", "f/../g.so", "h/__init__.py"]
    let world : World := { files := { top := .directory [("m", .directory [("n.py", .file 0o644 .empty)])] } }
    (∀ path ∈ paths, ['.'] ∉ Text.splitOn '/' path.toList) ∧ (Snapshot.ofPaths paths).PlansExactly ∧
      world.files.WellNamed ∧
      host.Safe (Rules.Ends (fun snapshot _ => snapshot.PlansExactly) fun _ _ => True) (scan ⟨"/"⟩).run world := by
  intro paths world
  have undotted : ∀ path ∈ paths, ['.'] ∉ Text.splitOn '/' path.toList := by decide +kernel
  have plain : world.files.Plain := ⟨by decide, rfl⟩
  exact ⟨undotted, plan_exactly.1 paths undotted, plain.wellNamed, plan_exactly.2 ⟨"/"⟩ world plain.wellNamed⟩

end Packages
end WheelInstaller
