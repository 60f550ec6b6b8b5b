import WheelInstaller.Proofs.Packages.Connected

/-!
How deep a visit nests. It has no answer just where listed directories are visited from one another more often
than is allowed for, and allowing for more changes no answer. With recorded paths a visit comes to an end, unless
one of them goes on behind a `.` that is not its first segment. There a directory is listed in itself.
-/

namespace WheelInstaller.Snapshot

open Packages (isIgnored)
open Relation (ReflTransGen)

variable {snapshot other : Snapshot} {directory first second : Path} {visits : List Path}
    {depth more : Nat} {found : Visit}

/-- The visit to the first directory goes on to the second. -/
def Calls (snapshot : Snapshot) (first second : Path) : Prop :=
  ∃ listing, snapshot.listing? first = some listing ∧ ∃ name ∈ listing.directories, isIgnored name = false ∧
  second = first / name

theorem mapM_eq_none_iff {α β : Type} {f : α → Option β} {items : List α} : items.mapM f = none ↔
    ∃ item ∈ items, f item = none := by
  induction items with
  | nil => simp
  | cons item rest ih =>
    rw [List.mapM_cons]
    cases here : f item with
    | none => simp [here]
    | some => cases further : rest.mapM f <;> simp [here, ← ih, further]

theorem mapM_of_agree {α β : Type} {f g : α → Option β} {items : List α} {results : List β}
    (done : items.mapM f = some results)
    (agree : ∀ item ∈ items, ∀ result, f item = some result → g item = some result) : items.mapM g = some results := by
  induction items generalizing results with
  | nil => exact done
  | cons item rest ih =>
    rw [List.mapM_cons] at done
    obtain ⟨result, found, done⟩ := Option.bind_eq_some_iff.mp done
    obtain ⟨others, further, done⟩ := Option.bind_eq_some_iff.mp done
    cases done
    simp [List.mapM_cons, agree item (by simp) result found, ih further fun item member =>
      agree item (by simp [member])]

theorem visit_unlisted (absent : snapshot.listing? directory = none) :
    snapshot.visit depth directory = some ⟨false, []⟩ := by
  cases depth <;> simp [visit, absent]

theorem visit_zero_eq_none : snapshot.visit 0 directory = none ↔ snapshot.listing? directory ≠ none := by
  unfold visit
  cases snapshot.listing? directory <;> simp

theorem visit_listed {listing : Listing} (listed : snapshot.listing? directory = some listing) :
    snapshot.visit (depth + 1) directory =
    ((listing.directories.filter fun name => !isIgnored name).mapM fun name =>
      snapshot.visit depth (directory / name)).map
      (conclude directory listing) := by
  rw [visit, listed, Option.map_eq_bind]
  rfl

theorem visit_succ_eq_none : snapshot.visit (depth + 1) directory = none ↔
    ∃ second, snapshot.Calls directory second ∧ snapshot.visit depth second = none := by
  cases listed : snapshot.listing? directory with
  | none => simp [visit_unlisted listed, Calls, listed]
  | some listing =>
    rw [visit_listed listed, Option.map_eq_none_iff, mapM_eq_none_iff]
    constructor
    · rintro ⟨name, member, none⟩
      obtain ⟨inside, open_⟩ := List.mem_filter.mp member
      exact ⟨_, ⟨listing, listed, name, inside, by simpa using open_, rfl⟩, none⟩
    · rintro ⟨second, ⟨same, known, name, inside, open_, rfl⟩, none⟩
      cases listed.symm.trans known
      exact ⟨name, List.mem_filter.mpr ⟨inside, by simp [open_]⟩, none⟩

theorem visit_eq_none_iff : snapshot.visit depth directory = none ↔
    ∃ visits : List Path, visits.length = depth ∧ (directory :: visits).IsChain snapshot.Calls ∧
      ∀ visited ∈ directory :: visits, snapshot.listing? visited ≠ none := by
  induction depth generalizing directory with
  | zero => simp [visit_zero_eq_none]
  | succ depth ih =>
    rw [visit_succ_eq_none]
    constructor
    · rintro ⟨second, calls, none⟩
      obtain ⟨visits, length, chain, listed⟩ := ih.mp none
      have first : snapshot.listing? directory ≠ .none := by
        obtain ⟨listing, found, -⟩ := calls
        simp [found]
      exact ⟨second :: visits, by simp [length], .cons_cons calls chain, List.forall_mem_cons.mpr ⟨first, listed⟩⟩
    · rintro ⟨visits, length, chain, listed⟩
      obtain ⟨second, visits, rfl⟩ := List.exists_cons_of_length_eq_add_one length
      obtain ⟨calls, chain⟩ := List.isChain_cons_cons.mp chain
      exact ⟨second, calls, ih.mpr ⟨visits, by simpa using length, chain, (List.forall_mem_cons.mp listed).2⟩⟩

/-- Snapshots that agree on what a visit comes to give it one answer, however much more depth there is. -/
theorem visit_of_agree
    (agree : ∀ target, ReflTransGen snapshot.Calls directory target → other.listing? target = snapshot.listing? target)
    (visited : snapshot.visit depth directory = some found) (enough : depth ≤ more) :
    other.visit more directory = some found := by
  have here := agree directory .refl
  induction depth generalizing directory found more with
  | zero =>
    have absent : snapshot.listing? directory = none := by
      by_contra listed
      rw [visit_zero_eq_none.mpr listed] at visited
      cases visited
    rw [visit_unlisted absent] at visited
    rw [← visited]
    exact visit_unlisted (here.trans absent)
  | succ depth ih =>
    obtain ⟨more, rfl⟩ := Nat.exists_eq_add_of_le' (Nat.le_trans (Nat.le_add_left 1 depth) enough)
    cases listed : snapshot.listing? directory with
    | none =>
      rw [visit_unlisted listed] at visited
      rw [← visited]
      exact visit_unlisted (here.trans listed)
    | some listing =>
      rw [visit_listed listed] at visited
      obtain ⟨children, done, rfl⟩ := Option.map_eq_some_iff.mp visited
      rw [visit_listed (here.trans listed), Option.map_eq_some_iff]
      refine ⟨children, mapM_of_agree done fun name member child visited => ?_, rfl⟩
      obtain ⟨inside, open_⟩ := List.mem_filter.mp member
      have calls : snapshot.Calls directory (directory / name) :=
        ⟨listing, listed, name, inside, by simpa using open_, rfl⟩
      have below (target : Path) (reached : ReflTransGen snapshot.Calls (directory / name) target) :
          other.listing? target = snapshot.listing? target := agree target (.head calls reached)
      exact ih below visited (Nat.le_of_succ_le_succ enough) (below _ .refl)

/-! ### Recorded paths -/

/-- A path goes on behind a `.` that is not its first segment, and nothing before that is ignored. -/
def Circular (path : String) : Prop :=
  ∃ front, front ≠ [] ∧ Leading (⟨path⟩ : Path).hasTrailingSlash (⟨path⟩ : Path).steps (front ++ ["."]) ∧
    ∀ segment ∈ front, isIgnored segment = false

instance (path : String) : Decidable (Circular path) :=
  decidable_of_iff (∃ count ∈ List.range (⟨path⟩ : Path).steps.length, (⟨path⟩ : Path).steps.take count ≠ [] ∧
    Leading (⟨path⟩ : Path).hasTrailingSlash (⟨path⟩ : Path).steps ((⟨path⟩ : Path).steps.take count ++ ["."]) ∧
    ∀ segment ∈ (⟨path⟩ : Path).steps.take count, isIgnored segment = false) <| by
  constructor
  · rintro ⟨count, -, circular⟩
    exact ⟨_, circular⟩
  · rintro ⟨front, circular⟩
    have shorter := circular.2.1.1
    have same : front = (⟨path⟩ : Path).steps.take front.length :=
      List.prefix_iff_eq_take.mp ((List.prefix_append front ["."]).trans shorter)
    have few : front.length < (⟨path⟩ : Path).steps.length := by
      have longer := shorter.length_le
      rw [List.length_append, List.length_singleton] at longer
      exact longer
    exact ⟨front.length, List.mem_range.mpr few, same ▸ circular⟩

/-- Directories that are visited from one another, the root first. -/
structure Nested (snapshot : Snapshot) (visits : List Path) : Prop where
  start : visits.head? = some Path.origin
  each : visits.IsChain snapshot.Calls

/-- There is a plan, no visit to the root finds anything else, and visits nest no deeper than there are directories. -/
structure Ends (snapshot : Snapshot) : Prop where
  planned : ∃ initializers, snapshot.plan? false = some initializers
  settled : ∃ found, ∀ depth, snapshot.directories.size ≤ depth → snapshot.visit depth Path.origin = some found
  nesting : ∀ visits, snapshot.Nested visits → visits.length ≤ snapshot.directories.size

/-- There is no plan, and visits nest ever deeper. -/
structure Endless (snapshot : Snapshot) : Prop where
  unplanned : snapshot.plan? false = none
  nesting : ∀ depth, ∃ visits, snapshot.Nested visits ∧ depth < visits.length

variable {paths front : List String} {segment : String}

theorem Through.of_append {rest : List String} (through : Through paths (front ++ rest)) : Through paths front := by
  obtain ⟨path, member, leading⟩ := through
  exact ⟨path, member, Leading.of_append leading⟩

theorem Through.step (through : Through paths (front ++ [segment])) :
    (∃ component, Component.Stands segment component) ∨ segment = "." := by
  obtain ⟨path, -, shorter, -⟩ := through
  by_cases dot : segment = "."
  · exact .inr dot
  · exact .inl (exists_stands (shorter.subset (by simp)) dot)

theorem exists_circular : (∃ path ∈ paths, Circular path) ↔
    ∃ front, front ≠ [] ∧ Through paths (front ++ ["."]) ∧ ∀ segment ∈ front, isIgnored segment = false := by
  constructor
  · rintro ⟨path, member, front, below, leading, open_⟩
    exact ⟨front, below, ⟨path, member, leading⟩, open_⟩
  · rintro ⟨front, below, ⟨path, member, leading⟩, open_⟩
    exact ⟨path, member, front, below, leading, open_⟩

theorem listed_of_through (through : Through paths front) :
    (ofPaths paths).listing? (Path.origin.under front) ≠ none := by
  by_cases root : front = []
  · exact listed_ofPaths.mpr (.inl (by rw [root]; rfl))
  · exact listed_ofPaths.mpr (.inr ⟨front, root, through, rfl⟩)

theorem calls_of_through (through : Through paths (front ++ [segment])) (open_ : isIgnored segment = false)
    (same : directory.components = (Path.origin.under front).components) : (ofPaths paths).Calls directory
    (directory / segment) := by
  have listed : (ofPaths paths).listing? directory ≠ none := by
    rw [listing?, same]
    exact listed_of_through through.of_append
  exact ⟨_, getElem?_of_listed listed, segment, mem_directories_ofPaths.mpr ⟨front, through, same.symm⟩, open_, rfl⟩

/-! A directory that lists itself is visited again and again. -/

theorem components_ne_nil_of_through (through : Through paths front) (below : front ≠ []) :
    (Path.origin.under front).components ≠ [] := by
  obtain ⟨front, segment, rfl⟩ := (List.eq_nil_or_concat' front).resolve_left below
  rw [Path.under_concat]
  rcases through.step with ⟨component, stands⟩ | rfl
  · simp [Path.components_div_of_stands stands]
  · rw [Path.components_div_current]
    split
    next => simp
    next filled => exact filled

theorem visit_self (below : front ≠ []) (through : Through paths (front ++ ["."]))
    (same : directory.components = (Path.origin.under front).components) :
    (ofPaths paths).visit depth directory = none := by
  induction depth generalizing directory with
  | zero =>
    rw [visit_zero_eq_none, listing?, same]
    exact listed_of_through through.of_append
  | succ depth ih =>
    refine visit_succ_eq_none.mpr ⟨_, calls_of_through through (by decide) same, ih ?_⟩
    rw [Path.components_div_current, if_neg (same ▸ components_ne_nil_of_through through.of_append below), same]

theorem reaches_through (through : Through paths front) (open_ : ∀ segment ∈ front, isIgnored segment = false) :
    ReflTransGen (ofPaths paths).Calls Path.origin (Path.origin.under front) := by
  induction front using List.reverseRecOn with
  | nil => exact .refl
  | append_singleton front segment ih =>
    rw [Path.under_concat]
    exact (ih through.of_append fun other member => open_ other (by simp [member])).tail
      (calls_of_through through (open_ segment (by simp)) rfl)

theorem visit_eq_none_of_reaches (reaches : ReflTransGen snapshot.Calls first second)
    (endless : ∀ depth, snapshot.visit depth second = none) :
    snapshot.visit depth first = none := by
  induction reaches using ReflTransGen.head_induction_on generalizing depth with
  | refl => exact endless depth
  | head calls _ ih =>
    cases depth with
    | zero =>
      obtain ⟨listing, listed, -⟩ := calls
      simp [visit_zero_eq_none, listed]
    | succ depth => exact visit_succ_eq_none.mpr ⟨_, calls, ih⟩

theorem endless_of_visits (endless : ∀ depth, snapshot.visit depth Path.origin = none) : snapshot.Endless := by
  constructor
  case unplanned =>
    have none := endless snapshot.directories.size
    exact Option.bind_eq_none_iff.mpr fun found visited => nomatch none.symm.trans visited
  case nesting =>
    intro depth
    obtain ⟨visits, length, chain, -⟩ := visit_eq_none_iff.mp (endless depth)
    exact ⟨Path.origin :: visits, ⟨rfl, chain⟩, by simp [length]⟩

/-! Elsewhere every visit is a step further. -/

/-- Everything on the way is listed, and nothing is ignored. -/
structure Straight (snapshot : Snapshot) (steps : List Component) : Prop where
  listed : ∀ front, front <+: steps → snapshot.directories[front]? ≠ none
  open_ : ∀ component ∈ steps, component.Open

theorem open_of_components (through : Through paths front)
    (open_ : ∀ component ∈ (Path.origin.under front).components, component.Open) :
    ∀ segment ∈ front, isIgnored segment = false := by
  induction front using List.reverseRecOn with
  | nil => simp
  | append_singleton front segment ih =>
    rw [Path.under_concat] at open_
    rcases through.step with ⟨component, stands⟩ | rfl
    · rw [Path.components_div_of_stands stands] at open_
      have others := ih through.of_append fun component member => open_ component (by simp [member])
      have last := stands.open_iff.mp (open_ component (by simp))
      simpa [or_imp, forall_and] using ⟨others, last⟩
    · rw [Path.components_div_current] at open_
      have others := ih through.of_append fun component member =>
        open_ component (by rwa [if_neg (List.ne_nil_of_mem member)])
      have last : isIgnored "." = false := by decide
      simpa [or_imp, forall_and] using ⟨others, last⟩

section Uncircled

variable (uncircled : ∀ path ∈ paths, ¬ Circular path)
include uncircled

theorem step_of_calls (straight : (ofPaths paths).Straight first.components)
    (calls : (ofPaths paths).Calls first second) :
    ∃ component, second.components = first.components ++ [component] ∧ (ofPaths paths).Straight second.components := by
  obtain ⟨listing, listed, segment, member, seen, rfl⟩ := calls
  have inside : segment ∈ ((ofPaths paths).listing first.components).directories := by
    have found : (ofPaths paths).directories[first.components]? = some listing := listed
    simpa [Snapshot.listing, found] using member
  obtain ⟨front, through, same⟩ := mem_directories_ofPaths.mp inside
  have further : ∃ component, component.Open ∧ (first / segment).components = first.components ++ [component] ∧
      (Path.origin.under front / segment).components = first.components ++ [component] := by
    rcases through.step with ⟨component, stands⟩ | rfl
    · refine ⟨component, stands.open_iff.mpr seen, Path.components_div_of_stands stands, ?_⟩
      rw [Path.components_div_of_stands stands, same]
    -- A `.` is a step where nothing comes before it; anywhere else it would lead in a circle.
    · by_cases root : first.components = []
      · have open_ : Component.Open .current := by
          intro name named
          cases named
        refine ⟨.current, open_, ?_⟩
        rw [Path.components_div_current, Path.components_div_current, same, root]
        exact ⟨rfl, rfl⟩
      · have below : front ≠ [] := by
          rintro rfl
          exact root same.symm
        have circular :=
          exists_circular.mpr ⟨front, below, through, open_of_components through.of_append (same ▸ straight.open_)⟩
        obtain ⟨path, member, circular⟩ := circular
        exact absurd circular (uncircled path member)
  obtain ⟨component, open_, here, also⟩ := further
  have found := listed_of_through through
  rw [Path.under_concat, listing?, also] at found
  refine ⟨component, here, ?_⟩
  rw [here]
  constructor
  · intro front shorter
    rcases List.prefix_concat_iff.mp shorter with rfl | shorter
    · exact found
    · exact straight.listed front shorter
  · simpa [or_imp, forall_and] using ⟨straight.open_, open_⟩

theorem length_lt_of_chain (straight : (ofPaths paths).Straight directory.components)
    (chain : (directory :: visits).IsChain (ofPaths paths).Calls) :
    directory.components.length + visits.length < (ofPaths paths).directories.size := by
  induction visits generalizing directory with
  | nil => exact length_lt_size straight.listed
  | cons second visits ih =>
    obtain ⟨calls, chain⟩ := List.isChain_cons_cons.mp chain
    obtain ⟨component, same, straight⟩ := step_of_calls uncircled straight calls
    have further := ih straight chain
    rw [same, List.length_append] at further
    simp only [List.length_cons, List.length_nil] at further ⊢
    omega

theorem ends_ofPaths : (ofPaths paths).Ends := by
  have root : (ofPaths paths).Straight Path.origin.components := by
    constructor
    · intro front shorter
      exact listed_ofPaths.mpr (.inl (List.prefix_nil.mp shorter))
    · exact List.forall_mem_nil _
  have visited : (ofPaths paths).visit (ofPaths paths).directories.size Path.origin ≠ none := by
    intro none
    obtain ⟨visits, length, chain, -⟩ := visit_eq_none_iff.mp none
    have bound := length_lt_of_chain uncircled root chain
    omega
  obtain ⟨found, visited⟩ := Option.ne_none_iff_exists'.mp visited
  constructor
  case planned => exact ⟨_, Option.bind_eq_some_iff.mpr ⟨found, visited, rfl⟩⟩
  case settled => exact ⟨found, fun depth enough => visit_of_agree (fun _ _ => rfl) visited enough⟩
  case nesting =>
    rintro visits ⟨start, chain⟩
    obtain ⟨rest, rfl⟩ := List.head?_eq_some_iff.mp start
    have bound := length_lt_of_chain uncircled root chain
    rw [List.length_cons]
    omega

end Uncircled

theorem Ends.not_endless (ends : snapshot.Ends) : ¬ snapshot.Endless := by
  intro endless
  obtain ⟨initializers, planned⟩ := ends.planned
  cases planned.symm.trans endless.unplanned

/-- Planning for recorded paths comes to an end, and no visit is deeper inside others than there are directories, just
where no path is circular. Elsewhere it never does. -/
theorem ends_iff_uncircled (paths : List String) :
    ((ofPaths paths).Ends ↔ ∀ path ∈ paths, ¬ Circular path) ∧
    ((ofPaths paths).Endless ↔ ∃ path ∈ paths, Circular path) := by
  have endless (circular : ∃ path ∈ paths, Circular path) : (ofPaths paths).Endless := by
    obtain ⟨front, below, through, open_⟩ := exists_circular.mp circular
    apply endless_of_visits
    intro depth
    exact visit_eq_none_of_reaches (reaches_through through.of_append open_) fun depth => visit_self below through rfl
  constructor
  · refine ⟨fun ends path member circular => ?_, ends_ofPaths⟩
    exact ends.not_endless (endless ⟨path, member, circular⟩)
  · refine ⟨fun never => ?_, endless⟩
    by_contra uncircled
    exact (ends_ofPaths fun path member circular => uncircled ⟨path, member, circular⟩).not_endless never

/-- A `.` that comes first, that ends a path without a slash or that is in something ignored does no harm. -/
theorem ends_iff_uncircled_dotted : (ofPaths ["a/./b.py"]).Endless ∧
    (ofPaths ["./a/b.py", "a/.", "c.data/./d.py"]).Ends :=
  ⟨(ends_iff_uncircled _).2.mpr (by decide), (ends_iff_uncircled _).1.mpr (by decide)⟩

end WheelInstaller.Snapshot
