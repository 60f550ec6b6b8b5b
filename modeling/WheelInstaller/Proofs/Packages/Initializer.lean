import Mathlib.Data.List.Nodup
import Mathlib.Logic.Relation
import WheelInstaller.Packages.Initializer
import WheelInstaller.Proofs.Path.Components
import WheelInstaller.Proofs.Placement

/-! What a snapshot says of a directory, which is told by the names that lead there. -/

namespace WheelInstaller

namespace Listing

@[simp] theorem mem_files_addFile {listing : Listing} {name other : String} :
    other ∈ (listing.addFile name).files ↔ other = name ∨ other ∈ listing.files :=
  Ordered.mem_insert

@[simp] theorem directories_addFile {listing : Listing} {name : String} :
    (listing.addFile name).directories = listing.directories := rfl

@[simp] theorem files_addDirectory {listing : Listing} {name : String} :
    (listing.addDirectory name).files = listing.files := rfl

@[simp] theorem mem_directories_addDirectory {listing : Listing} {name other : String} :
    other ∈ (listing.addDirectory name).directories ↔ other = name ∨ other ∈ listing.directories :=
  Ordered.mem_insert

end Listing

namespace Snapshot

/-- The listing of the directory that names lead to. -/
def at? (snapshot : Snapshot) (names : List String) : Option Listing :=
  snapshot.directories[names.map Component.name]?

variable {snapshot : Snapshot} {directory : Path} {names other : List String}

theorem listing?_eq (here : Path.origin.Extends names directory) :
    snapshot.listing? directory = snapshot.at? names := by
  rw [listing?, Path.origin_extends.mp here, at?]

theorem getElem?_update (change : Listing → Listing) (steps : List Component) :
    (snapshot.update directory change).directories[steps]? =
      if directory.components = steps then some (change ((snapshot.listing? directory).getD {}))
      else snapshot.directories[steps]? := by
  simp only [update, listing?, Std.TreeMap.getElem?_alter, Std.LawfulEqCmp.compare_eq_iff_eq]

theorem at?_update (here : Path.origin.Extends names directory) (change : Listing → Listing) :
    (snapshot.update directory change).at? other =
      if names = other then some (change ((snapshot.at? names).getD {})) else snapshot.at? other := by
  have injective : Function.Injective (List.map Component.name) :=
    List.map_injective_iff.mpr fun _ _ same => Component.name.inj same
  rw [at?, getElem?_update, listing?_eq here, Path.origin_extends.mp here]
  simp only [injective.eq_iff, at?]

/-- Every directory that is listed has a proper name. -/
def Proper (snapshot : Snapshot) : Prop :=
  ∀ names listing, snapshot.at? names = some listing → ∀ name ∈ listing.directories, ProperName name

theorem Proper.empty : Proper {} := by
  intro names listing found
  simp [at?] at found

theorem Proper.update (proper : snapshot.Proper) (here : Path.origin.Extends names directory) {listing : Listing}
    (named : ∀ name ∈ listing.directories, ProperName name) : (snapshot.update directory fun _ => listing).Proper := by
  intro other found listed
  rw [at?_update here] at listed
  split at listed
  · cases listed
    exact named
  · exact proper other found listed

end Snapshot
end WheelInstaller

/-! ### Visits

What a visit finds. Which directories it comes to, and which of them hold a module here or further in, can
be said without it. It tells just that, whatever order it takes, and it comes to an end. -/

namespace WheelInstaller

open Packages (isIgnored isModule initializerName)

namespace Packages

theorem properName_initializer : ProperName initializerName := by
  decide

theorem isModule_initializer : isModule initializerName = true := by
  decide

end Packages

namespace Snapshot

variable (snapshot : Snapshot)

/-- From the first directory a visit goes on to the second, which is directly in it. -/
def Inner (steps inner : List Component) : Prop :=
  ∃ listing, snapshot.directories[steps]? = some listing ∧ ∃ segment ∈ listing.directories, isIgnored segment = false ∧
    ∃ component, Component.Stands segment component ∧ inner = steps ++ [component]

/-- A visit that starts at the first directory comes to the second. -/
def Reaches : List Component → List Component → Prop :=
  Relation.ReflTransGen snapshot.Inner

/-- A module is in the directory or further in. -/
def Imports (steps : List Component) : Prop :=
  ∃ target, snapshot.Reaches steps target ∧
    ∃ listing, snapshot.directories[target]? = some listing ∧ ∃ file ∈ listing.files, isModule file = true

/-- The directory should have an initializer, and has none. The root needs none. -/
structure Wants (steps : List Component) : Prop where
  below : steps ≠ []
  imports : snapshot.Imports steps
  lacking : ∃ listing, snapshot.directories[steps]? = some listing ∧ initializerName ∉ listing.files

/-- Whatever a visit is to go on to is one step further. -/
def Clear : Prop :=
  ∀ steps, snapshot.Reaches [] steps → ∀ listing, snapshot.directories[steps]? = some listing →
    ∀ segment ∈ listing.directories, isIgnored segment = false → ∃ component, Component.Stands segment component

/-- What a visit to a directory should find. -/
structure Visit.Tells (visit : Visit) (steps : List Component) : Prop where
  package : visit.isPackage = true ↔ steps ≠ [] ∧ snapshot.Imports steps
  lacking : ∀ target, target ∈ visit.lacking.map Path.components ↔ snapshot.Reaches steps target ∧ snapshot.Wants target

/-- The visits to what is directly in a directory. -/
structure Visit.Cover (visits : List Visit) (steps : List Component) : Prop where
  sound : ∀ visit ∈ visits, ∃ inner, snapshot.Inner steps inner ∧ visit.Tells snapshot inner
  complete : ∀ inner, snapshot.Inner steps inner → ∃ visit ∈ visits, visit.Tells snapshot inner

variable {snapshot} {steps inner target : List Component} {listing : Listing}

theorem Inner.ne_nil (further : snapshot.Inner steps inner) : inner ≠ [] := by
  obtain ⟨_, -, _, -, -, _, -, rfl⟩ := further
  simp

theorem imports_iff (listed : snapshot.directories[steps]? = some listing) : snapshot.Imports steps ↔
    (∃ file ∈ listing.files, isModule file = true) ∨ ∃ inner, snapshot.Inner steps inner ∧ snapshot.Imports inner := by
  constructor
  · rintro ⟨target, reaches, found⟩
    rcases reaches.cases_head with rfl | ⟨inner, first, further⟩
    · obtain ⟨_, same, found⟩ := found
      cases listed.symm.trans same
      exact .inl found
    · exact .inr ⟨inner, first, target, further, found⟩
  · rintro (found | ⟨inner, first, target, further, found⟩)
    · exact ⟨steps, .refl, listing, listed, found⟩
    · exact ⟨target, .head first further, found⟩

section Unlisted

variable (absent : snapshot.directories[steps]? = none)
include absent

theorem eq_of_reaches (reaches : snapshot.Reaches steps target) : target = steps := by
  rcases reaches.cases_head with rfl | ⟨_, ⟨_, listed, -⟩, -⟩
  · rfl
  · simp [absent] at listed

theorem tells_of_unlisted : Visit.Tells snapshot ⟨false, []⟩ steps := by
  constructor
  · simp only [Bool.false_eq_true, false_iff]
    rintro ⟨-, target, reaches, listing, listed, -⟩
    rw [eq_of_reaches absent reaches, absent] at listed
    cases listed
  · intro target
    simp only [List.map_nil, List.not_mem_nil, false_iff]
    rintro ⟨reaches, -, -, listing, listed, -⟩
    rw [eq_of_reaches absent reaches, absent] at listed
    cases listed

end Unlisted

section Children

variable {children : List Visit} (cover : Visit.Cover snapshot children steps)
include cover

theorem any_isPackage_iff :
    children.any (·.isPackage) = true ↔ ∃ inner, snapshot.Inner steps inner ∧ snapshot.Imports inner := by
  rw [List.any_eq_true]
  constructor
  · rintro ⟨visit, inside, package⟩
    obtain ⟨inner, further, tells⟩ := cover.sound visit inside
    exact ⟨inner, further, (tells.package.mp package).2⟩
  · rintro ⟨inner, further, imports⟩
    obtain ⟨visit, inside, tells⟩ := cover.complete inner further
    exact ⟨visit, inside, tells.package.mpr ⟨further.ne_nil, imports⟩⟩

theorem mem_lacking_iff : target ∈ (children.flatMap (·.lacking)).map Path.components ↔
    ∃ inner, snapshot.Inner steps inner ∧ snapshot.Reaches inner target ∧ snapshot.Wants target := by
  rw [List.map_flatMap, List.mem_flatMap]
  constructor
  · rintro ⟨visit, inside, member⟩
    obtain ⟨inner, further, tells⟩ := cover.sound visit inside
    exact ⟨inner, further, (tells.lacking target).mp member⟩
  · rintro ⟨inner, further, found⟩
    obtain ⟨visit, inside, tells⟩ := cover.complete inner further
    exact ⟨visit, inside, (tells.lacking target).mpr found⟩

/-- What is lacking is lacking here, or further in. -/
theorem reaches_and_wants_iff : snapshot.Reaches steps target ∧ snapshot.Wants target ↔
    target ∈ (children.flatMap (·.lacking)).map Path.components ∨ target = steps ∧ snapshot.Wants steps := by
  rw [mem_lacking_iff cover, Reaches, Relation.ReflTransGen.cases_head_iff]
  constructor
  · rintro ⟨rfl | ⟨inner, first, further⟩, wants⟩
    · exact .inr ⟨rfl, wants⟩
    · exact .inl ⟨inner, first, further, wants⟩
  · rintro (⟨inner, first, further, wants⟩ | ⟨rfl, wants⟩)
    · exact ⟨.inr ⟨inner, first, further⟩, wants⟩
    · exact ⟨.inl rfl, wants⟩

end Children

theorem isEmpty_text_iff {directory : Path} : directory.text.isEmpty = true ↔ directory.components = [] := by
  rw [String.isEmpty_iff]
  constructor
  · intro empty
    obtain ⟨text⟩ := directory
    cases empty
    exact Path.components_empty
  · intro root
    by_contra filled
    exact Path.components_ne_nil filled root

/-- The listing of a directory and the visits to what is directly in it say what is to be found. -/
theorem tells_conclude {directory : Path} {children : List Visit}
    (listed : snapshot.directories[directory.components]? = some listing)
    (cover : Visit.Cover snapshot children directory.components) :
    (conclude directory listing children).Tells snapshot directory.components := by
  have imports := imports_iff listed
  rw [← any_isPackage_iff cover, ← List.any_eq_true] at imports
  -- What is lacking below is what the children lack; what remains is the directory itself.
  have lacking (target : List Component) : snapshot.Reaches directory.components target ∧ snapshot.Wants target ↔
      target ∈ (children.flatMap (·.lacking)).map Path.components ∨ target = directory.components ∧
      snapshot.Wants directory.components :=
    reaches_and_wants_iff cover
  unfold conclude
  dsimp only
  split
  next found =>
    have found := List.contains_iff_mem.mp found
    have provided : ¬ snapshot.Wants directory.components := by
      rintro ⟨-, -, _, same, absent⟩
      cases listed.symm.trans same
      exact absent found
    constructor
    · have module : snapshot.Imports directory.components :=
        imports.mpr (.inl (List.any_eq_true.mpr ⟨_, found, Packages.isModule_initializer⟩))
      simp [module, ← isEmpty_text_iff]
    · simp [lacking, provided]
  next missing =>
    have missing : initializerName ∉ listing.files := fun member => missing (List.contains_iff_mem.mpr member)
    have wants : snapshot.Wants directory.components ↔ directory.components ≠ [] ∧
      snapshot.Imports directory.components :=
      ⟨fun wants => ⟨wants.below, wants.imports⟩, fun ⟨below, imports⟩ => ⟨below, imports, listing, listed, missing⟩⟩
    rw [imports, ne_eq, ← isEmpty_text_iff] at wants
    split
    next importable =>
      have wanting : snapshot.Wants directory.components := wants.mpr (by simpa using importable)
      refine ⟨by simp [wanting.below, wanting.imports], fun target => ?_⟩
      rw [lacking, List.map_append, List.mem_append, List.map_singleton, List.mem_singleton]
      simp [wanting]
    next plain =>
      have content : ¬ snapshot.Wants directory.components := by
        rw [wants]
        simpa using plain
      constructor
      · simp only [Bool.false_eq_true, false_iff]
        rintro ⟨below, found⟩
        exact content ⟨below, found, listing, listed, missing⟩
      · simp [lacking, content]

/-! ### A visit comes to an end -/

theorem length_le_size {keys : List (List Component)} (distinct : keys.Nodup)
    (listed : ∀ steps ∈ keys, snapshot.directories[steps]? ≠ none) : keys.length ≤ snapshot.directories.size := by
  have inside : keys ⊆ snapshot.directories.keys := by
    intro key member
    rw [Std.TreeMap.mem_keys, ← Std.TreeMap.isSome_getElem?_iff_mem]
    exact Option.isSome_iff_ne_none.mpr (listed key member)
  rw [← Std.TreeMap.length_keys]
  exact distinct.length_le_of_subset inside

theorem length_lt_size (listed : ∀ front, front <+: steps → snapshot.directories[front]? ≠ none) :
    steps.length < snapshot.directories.size := by
  have distinct : ((List.range (steps.length + 1)).map (steps.take ·)).Nodup := by
    refine List.Nodup.map_on (fun first inside second also same => ?_) List.nodup_range
    have lengths := congrArg List.length same
    simp only [List.length_take, List.mem_range] at lengths inside also
    omega
  have bound := length_le_size distinct fun front member => by
    obtain ⟨count, -, rfl⟩ := List.mem_map.mp member
    exact listed _ (List.take_prefix count steps)
  rw [List.length_map, List.length_range] at bound
  omega

theorem exists_mapM {α β : Type} {f : α → Option β} {good : α → β → Prop} {items : List α}
    (each : ∀ item ∈ items, ∃ result, f item = some result ∧ good item result) :
    ∃ results, items.mapM f = some results ∧ (∀ result ∈ results, ∃ item ∈ items, good item result) ∧
      ∀ item ∈ items, ∃ result ∈ results, good item result := by
  induction items with
  | nil => exact ⟨[], rfl, by simp, by simp⟩
  | cons item rest ih =>
    obtain ⟨result, first, correct⟩ := each item (by simp)
    obtain ⟨results, others, back, onto⟩ := ih fun item member => each item (by simp [member])
    refine ⟨result :: results, by simp [List.mapM_cons, first, others], ?_, ?_⟩
    · rintro found (_ | ⟨_, member⟩)
      · exact ⟨item, by simp, correct⟩
      · obtain ⟨other, inside, correct⟩ := back found member
        exact ⟨other, by simp [inside], correct⟩
    · rintro other (_ | ⟨_, member⟩)
      · exact ⟨result, by simp, correct⟩
      · obtain ⟨found, inside, correct⟩ := onto other member
        exact ⟨found, by simp [inside], correct⟩

/-- A visit to a directory that it is allowed enough depth for: all above the directory is listed, so there are no more
directories further in than levels left. -/
structure Sufficient (snapshot : Snapshot) (depth : Nat) (steps : List Component) : Prop where
  reached : snapshot.Reaches [] steps
  above : ∀ front, front <+: steps → front ≠ steps → snapshot.directories[front]? ≠ none
  enough : snapshot.directories.size ≤ steps.length + depth

theorem Sufficient.origin : snapshot.Sufficient snapshot.directories.size Path.origin.components where
  reached := .refl
  above _ shorter different := absurd (List.prefix_nil.mp shorter) different
  enough := Nat.le_add_left _ _

theorem Sufficient.listed {depth : Nat} (sufficient : snapshot.Sufficient depth steps)
    (here : snapshot.directories[steps]? ≠ none) (front : List Component) (shorter : front <+: steps) :
    snapshot.directories[front]? ≠ none := by
  by_cases same : front = steps
  · rwa [same]
  · exact sufficient.above front shorter same

theorem Sufficient.unlisted (sufficient : snapshot.Sufficient 0 steps) : snapshot.directories[steps]? = none := by
  by_contra here
  have inside := length_lt_size (sufficient.listed here)
  have enough := sufficient.enough
  omega

theorem Sufficient.further {depth : Nat} (sufficient : snapshot.Sufficient (depth + 1) steps)
    (further : snapshot.Inner steps inner) : snapshot.Sufficient depth inner := by
  refine ⟨sufficient.reached.tail further, ?_, ?_⟩
  all_goals obtain ⟨listing, listed, segment, -, -, component, -, rfl⟩ := further
  · intro front shorter different
    exact sufficient.listed (by simp [listed]) front ((List.prefix_concat_iff.mp shorter).resolve_left different)
  · have enough := sufficient.enough
    rw [List.length_append, List.length_singleton]
    omega

theorem Clear.exists_inner (clear : snapshot.Clear) (reached : snapshot.Reaches [] steps)
    (listed : snapshot.directories[steps]? = some listing) {segment : String}
    (member : segment ∈ listing.directories.filter fun name => !isIgnored name) :
    ∃ component, Component.Stands segment component ∧ snapshot.Inner steps (steps ++ [component]) := by
  obtain ⟨inside, open_⟩ := List.mem_filter.mp member
  have open_ : isIgnored segment = false := by simpa using open_
  obtain ⟨component, stands⟩ := clear _ reached listing listed segment inside open_
  exact ⟨component, stands, listing, listed, segment, inside, open_, component, stands, rfl⟩

theorem exists_visit (depth : Nat) {directory : Path} (clear : snapshot.Clear)
    (sufficient : snapshot.Sufficient depth directory.components) :
    ∃ visit, snapshot.visit depth directory = some visit ∧ visit.Tells snapshot directory.components := by
  induction depth generalizing directory with
  | zero =>
    unfold visit listing?
    rw [sufficient.unlisted]
    exact ⟨_, rfl, tells_of_unlisted sufficient.unlisted⟩
  | succ depth ih =>
    unfold visit listing?
    cases listed : snapshot.directories[directory.components]? with
    | none => exact ⟨_, rfl, tells_of_unlisted listed⟩
    | some listing =>
      have each : ∀ segment ∈ listing.directories.filter fun name => !isIgnored name, ∃ visit,
          snapshot.visit depth (directory / segment) = some visit ∧
            ∃ component, Component.Stands segment component ∧ snapshot.Inner directory.components
              (directory.components ++ [component]) ∧
              visit.Tells snapshot (directory.components ++ [component]) := by
        intro segment member
        obtain ⟨component, stands, further⟩ := clear.exists_inner sufficient.reached listed member
        have components : (directory / segment).components = directory.components ++ [component] :=
          Path.components_div_of_stands stands
        obtain ⟨visit, visited, tells⟩ := ih (components ▸ sufficient.further further)
        exact ⟨visit, visited, component, stands, further, components ▸ tells⟩
      obtain ⟨children, visited, back, onto⟩ := exists_mapM each
      refine ⟨conclude directory listing
        children, by simp [visited], tells_conclude listed ⟨fun visit member => ?_, ?_⟩⟩
      · obtain ⟨-, -, component, -, further, tells⟩ := back visit member
        exact ⟨_, further, tells⟩
      · rintro inner ⟨_, same, segment, inside, open_, component, stands, rfl⟩
        cases listed.symm.trans same
        obtain ⟨visit, member, other, also, -, tells⟩ := onto segment (List.mem_filter.mpr ⟨inside, by simp [open_]⟩)
        cases Option.some.inj (stands.step.symm.trans also.step)
        exact ⟨visit, member, tells⟩

/-- The plan names the initializer of every directory that wants one, each once and in order. -/
theorem exists_plan?_of_clear (clear : snapshot.Clear) : ∃ found : List Path,
    snapshot.plan? false = some (found.map (· / initializerName)) ∧
      (found.Pairwise fun first second => Path.orderComponents first.components second.components = .lt) ∧
      ∀ steps, steps ∈ found.map Path.components ↔ snapshot.Reaches [] steps ∧ snapshot.Wants steps := by
  obtain ⟨visit, visited, tells⟩ := exists_visit _ clear .origin
  refine ⟨Path.inOrder visit.lacking, ?_, Path.ascending_inOrder _, fun steps => ?_⟩
  · change (do let found ← snapshot.visit snapshot.directories.size Path.origin
               return (Path.inOrder found.lacking).map (· / initializerName)) = _
    rw [visited]
    rfl
  · rw [Path.mem_components_inOrder, tells.lacking]
    rfl

end Snapshot
end WheelInstaller

/-! ### Where names alone lead to every directory -/

namespace WheelInstaller

open Packages (isIgnored isModule initializerName)

namespace Snapshot

variable (snapshot : Snapshot)

/-- The directory can be imported: it has an initializer or a module, or a package of its own that is not
ignored. The root cannot. -/
inductive IsPackage : List String → Prop where
  | initializer {names : List String} {listing : Listing} (below : names ≠ [])
    (listed : snapshot.at? names = some listing)
      (found : Packages.initializerName ∈ listing.files) : IsPackage names
  | module {names : List String} {listing : Listing} {name : String} (below : names ≠ [])
      (listed : snapshot.at? names = some listing) (found : name ∈ listing.files)
      (importable : Packages.isModule name = true) : IsPackage names
  | inner {names : List String} {listing : Listing} {name : String} (below : names ≠ [])
      (listed : snapshot.at? names = some listing) (found : name ∈ listing.directories)
      (seen : Packages.isIgnored name = false) (package : IsPackage (names ++ [name])) : IsPackage names

/-- A visit that starts at a directory gets to another one. -/
inductive Visits : List String → List String → Prop where
  | here (names : List String) : Visits names names
  | inner {names target : List String} {listing : Listing} {name : String} (listed : snapshot.at? names = some listing)
      (found : name ∈ listing.directories) (seen : Packages.isIgnored name = false)
      (further : Visits (names ++ [name]) target) : Visits names target

/-- A package without an initializer. -/
def Lacks (names : List String) : Prop :=
  snapshot.IsPackage names ∧ ∃ listing, snapshot.at? names = some listing ∧ Packages.initializerName ∉ listing.files

variable {snapshot} {names target : List String} {steps : List Component}

section Proper

variable (proper : snapshot.Proper)
include proper

theorem Proper.inner_iff : snapshot.Inner (names.map .name) steps ↔
    ∃ listing, snapshot.at? names = some listing ∧ ∃ name ∈ listing.directories, isIgnored name = false ∧
      steps = (names ++ [name]).map .name := by
  refine exists_congr fun listing => and_congr_right fun listed => exists_congr fun name =>
    and_congr_right fun member =>
    and_congr_right fun _ => ?_
  have named := Component.Stands.of_properName (proper names listing listed name member)
  rw [List.map_append, List.map_singleton]
  constructor
  · rintro ⟨component, stands, rfl⟩
    rw [Option.some.inj (stands.step.symm.trans named.step)]
  · rintro rfl
    exact ⟨_, named, rfl⟩

theorem Proper.reaches_iff : snapshot.Reaches (names.map .name) steps ↔
    ∃ target, steps = target.map .name ∧ snapshot.Visits names target := by
  constructor
  · intro reaches
    generalize start : names.map Component.name = first at reaches
    induction reaches using Relation.ReflTransGen.head_induction_on generalizing names with
    | refl => exact ⟨names, start.symm, .here names⟩
    | head further _ ih =>
      subst start
      obtain ⟨listing, listed, name, found, seen, rfl⟩ := proper.inner_iff.mp further
      obtain ⟨target, same, visits⟩ := ih rfl
      exact ⟨target, same, .inner listed found seen visits⟩
  · rintro ⟨target, rfl, visits⟩
    induction visits with
    | here => exact .refl
    | inner listed found seen _ ih => exact .head (proper.inner_iff.mpr ⟨_, listed, _, found, seen, rfl⟩) ih

theorem Proper.clear : snapshot.Clear := by
  intro steps reaches listing listed segment member _
  have reaches : snapshot.Reaches (([] : List String).map .name) steps := reaches
  obtain ⟨names, rfl, -⟩ := proper.reaches_iff.mp reaches
  exact ⟨_, .of_properName (proper names listing listed segment member)⟩

theorem Proper.isPackage_iff : snapshot.IsPackage names ↔ names ≠ [] ∧ snapshot.Imports (names.map .name) := by
  constructor
  · intro package
    induction package with
    | initializer below listed found =>
      exact ⟨below, (imports_iff listed).mpr (.inl ⟨_, found, Packages.isModule_initializer⟩)⟩
    | module below listed found importable => exact ⟨below, (imports_iff listed).mpr (.inl ⟨_, found, importable⟩)⟩
    | inner below listed found seen _ ih =>
      exact ⟨below, (imports_iff listed).mpr (.inr ⟨_, proper.inner_iff.mpr ⟨_, listed, _, found, seen, rfl⟩, ih.2⟩)⟩
  · rintro ⟨below, steps, reaches, listing, listed, file, found, importable⟩
    obtain ⟨target, rfl, visits⟩ := proper.reaches_iff.mp reaches
    induction visits with
    | here => exact .module below listed found importable
    | inner outer member seen further ih =>
      exact .inner below outer member seen (ih (by simp) (proper.reaches_iff.mpr ⟨_, rfl, further⟩) listed)

theorem Proper.lacks_iff : snapshot.Lacks names ↔ snapshot.Wants (names.map .name) := by
  rw [Lacks, proper.isPackage_iff]
  constructor
  · rintro ⟨⟨below, imports⟩, lacking⟩
    exact ⟨by simpa using below, imports, lacking⟩
  · rintro ⟨below, imports, lacking⟩
    exact ⟨⟨by simpa using below, imports⟩, lacking⟩

/-- The plan names the initializer of every directory that lacks one, and nothing else. -/
theorem exists_plan? : ∃ paths, snapshot.plan? false = some paths ∧
    (∀ names, (∃ path ∈ paths, Path.origin.Extends names path) ↔
      ∃ target, names = target ++ [initializerName] ∧ snapshot.Visits [] target ∧ snapshot.Lacks target) ∧
    ∀ path ∈ paths, ∃ names, Path.origin.Extends names path := by
  obtain ⟨found, planned, -, exactly⟩ := exists_plan?_of_clear proper.clear
  have wanted (steps : List Component) : steps ∈ found.map Path.components ↔
      ∃ target, steps = target.map .name ∧ snapshot.Visits [] target ∧ snapshot.Lacks target := by
    rw [exactly, ← List.map_nil, proper.reaches_iff]
    constructor
    · rintro ⟨⟨target, rfl, visits⟩, wants⟩
      exact ⟨target, rfl, visits, proper.lacks_iff.mpr wants⟩
    · rintro ⟨target, rfl, visits, lacks⟩
      exact ⟨⟨target, rfl, visits⟩, proper.lacks_iff.mp lacks⟩
  have initializer (directory : Path) (member : directory ∈ found) : ∃ target,
      Path.origin.Extends (target ++ [initializerName]) (directory / initializerName) ∧
        snapshot.Visits [] target ∧ snapshot.Lacks target := by
    obtain ⟨target, same, lacks⟩ := (wanted _).mp (List.mem_map.mpr ⟨directory, member, rfl⟩)
    exact ⟨target, Path.Extends.div (Path.origin_extends.mpr same) Packages.properName_initializer, lacks⟩
  refine ⟨found.map (· / initializerName), planned, fun names => ⟨?_, ?_⟩, fun path member => ?_⟩
  · rintro ⟨path, member, here⟩
    obtain ⟨directory, inside, rfl⟩ := List.mem_map.mp member
    obtain ⟨target, below, lacks⟩ := initializer directory inside
    exact ⟨target, here.unique below, lacks⟩
  · rintro ⟨target, rfl, lacks⟩
    obtain ⟨directory, inside, same⟩ := List.mem_map.mp ((wanted _).mpr ⟨target, rfl, lacks⟩)
    exact ⟨directory / initializerName, List.mem_map.mpr ⟨directory, inside, rfl⟩,
      Path.Extends.div (Path.origin_extends.mpr same) Packages.properName_initializer⟩
  · obtain ⟨directory, inside, rfl⟩ := List.mem_map.mp member
    obtain ⟨target, below, -⟩ := initializer directory inside
    exact ⟨_, below⟩

end Proper

end Snapshot
end WheelInstaller
