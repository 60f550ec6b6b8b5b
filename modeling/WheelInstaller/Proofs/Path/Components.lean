import Mathlib.Data.List.Basic
import WheelInstaller.Path.Basic
import WheelInstaller.Proofs.Text.Split

/-! The components of paths that are put together from others. Joining a path of names to a
directory adds these names to the directory's components and nothing else, whatever slashes and
dots the directory is written with. -/

namespace WheelInstaller

/-- What can stand between two slashes and lead one level down. -/
structure ProperName (name : String) : Prop where
  nonempty : name ≠ ""
  notCurrent : name ≠ "."
  notParent : name ≠ ".."
  clean : '/' ∉ name.toList

instance (name : String) : Decidable (ProperName name) :=
  decidable_of_iff (name ≠ "" ∧ name ≠ "." ∧ name ≠ ".." ∧ '/' ∉ name.toList)
    ⟨fun ⟨nonempty, notCurrent, notParent, clean⟩ => ⟨nonempty, notCurrent, notParent, clean⟩,
      fun proper => ⟨proper.nonempty, proper.notCurrent, proper.notParent, proper.clean⟩⟩

namespace Component

theorem ofSegment?_eq_name {segment : List Char} {name : String} :
    ofSegment? segment = some (.name name) ↔
      segment = name.toList ∧ segment ≠ [] ∧ segment ≠ ['.'] ∧ segment ≠ ['.', '.'] := by
  simp only [ofSegment?, Bool.or_eq_true, decide_eq_true_eq]
  split
  next dropped => rcases dropped with rfl | rfl <;> simp
  next kept =>
    simp only [not_or] at kept
    split
    next parent => simp [parent]
    next other =>
      constructor
      · intro same
        cases same
        exact ⟨by simp, kept.1, kept.2, other⟩
      · rintro ⟨rfl, -⟩
        simp

theorem ofSegment?_name {name : String} (proper : ProperName name) :
    ofSegment? name.toList = some (.name name) := by
  refine ofSegment?_eq_name.mpr ⟨rfl, ?_, ?_, ?_⟩
  · exact fun same => proper.nonempty (String.toList_inj.mp same)
  · exact fun same => proper.notCurrent (String.toList_inj.mp same)
  · exact fun same => proper.notParent (String.toList_inj.mp same)

theorem ofSegment?_ne_root {segment : List Char} : ofSegment? segment ≠ some .root := by
  unfold ofSegment?
  split
  · simp
  · split <;> simp

theorem root_not_mem_filterMap (segments : List (List Char)) : .root ∉ segments.filterMap ofSegment? := by
  intro member
  obtain ⟨segment, -, root⟩ := List.mem_filterMap.mp member
  exact ofSegment?_ne_root root

/-- Put behind a slash, the segment is this step. -/
structure Stands (segment : String) (component : Component) : Prop where
  clean : '/' ∉ segment.toList
  step : ofSegment? segment.toList = some component

theorem Stands.of_properName {name : String} (proper : ProperName name) : Stands name (.name name) :=
  ⟨proper.clean, ofSegment?_name proper⟩

theorem properName_of_ofSegment? {segment : List Char} {name : String}
    (found : ofSegment? segment = some (.name name)) (clean : '/' ∉ segment) : ProperName name := by
  obtain ⟨rfl, some, notCurrent, notParent⟩ := ofSegment?_eq_name.mp found
  refine ⟨?_, ?_, ?_, clean⟩
  · rintro rfl; exact some rfl
  · rintro rfl; exact notCurrent rfl
  · rintro rfl; exact notParent rfl

end Component

namespace Path

/-- What the piece before the first slash stands for, if there is a slash or anything before it. -/
def lead (first : List Char) : List Component :=
  if first = [] then [.root] else if first = ['.'] then [.current] else (Component.ofSegment? first).toList

theorem components_of_pieces {path : Path} {first : List Char} {rest : List (List Char)}
    (pieces : Text.splitOn '/' path.text.toList = first :: rest) (filled : first ≠ [] ∨ rest ≠ []) :
    path.components = lead first ++ rest.filterMap Component.ofSegment? := by
  simp only [components, layout, pieces, lead]
  by_cases absolute : first = []
  · have more : rest ≠ [] := by simpa [absolute] using filled
    simp [absolute, more, Start.components]
  · by_cases current : first = ['.']
    · simp [current, Start.components]
    · simp only [absolute, current, decide_false, Bool.false_and, Bool.false_eq_true, if_false,
        Start.components, List.nil_append, List.filterMap_cons]
      cases Component.ofSegment? first <;> rfl

theorem components_empty : (⟨""⟩ : Path).components = [] := rfl

theorem components_of_open {path : Path} {first : List Char} {rest : List (List Char)}
    (pieces : Text.splitOn '/' path.text.toList = first :: rest) (filled : first ≠ []) (named : first ≠ ['.']) :
    path.isAbsolute = false ∧ path.components = (Text.splitOn '/' path.text.toList).filterMap Component.ofSegment? := by
  constructor
  · by_contra absolute
    simp only [isAbsolute, Bool.not_eq_false, decide_eq_true_eq] at absolute
    obtain ⟨text, letters⟩ := List.head?_eq_some_iff.mp absolute
    rw [letters] at pieces
    simp only [Text.splitOn, if_true] at pieces
    exact filled (List.cons.inj pieces).1.symm
  · rw [components_of_pieces pieces (.inl filled), pieces, List.filterMap_cons]
    simp only [lead, filled, named, if_false]
    cases Component.ofSegment? first <;> rfl

theorem components_of_append (path : Path) {pieces : List (List Char)} (others : List (List Char)) (some : pieces ≠ [])
    (more : others ≠ []) (split : Text.splitOn '/' path.text.toList = pieces ++ others) :
    path.components = lead (pieces.head some) ++ pieces.tail.filterMap Component.ofSegment? ++
      others.filterMap Component.ofSegment? := by
  obtain ⟨first, rest, rfl⟩ := List.exists_cons_of_ne_nil some
  rw [components_of_pieces split (.inr (by simp [more]))]
  simp

theorem pieces_of_nonempty {path : Path} (filled : path.text ≠ "") :
    ∃ first rest, Text.splitOn '/' path.text.toList = first :: rest ∧ (first ≠ [] ∨ rest ≠ []) := by
  obtain ⟨first, rest, pieces⟩ := List.exists_cons_of_ne_nil (Text.splitOn_ne_nil '/' path.text.toList)
  refine ⟨first, rest, pieces, ?_⟩
  by_contra empty
  simp only [not_or, not_not] at empty
  obtain ⟨rfl, rfl⟩ := empty
  have text : path.text.toList = [] := by
    cases letters : path.text.toList with
    | nil => rfl
    | cons c text =>
      rw [letters] at pieces
      simp only [Text.splitOn] at pieces
      split at pieces
      · exact absurd (List.cons.inj pieces).2 (Text.splitOn_ne_nil '/' text)
      · split at pieces <;> simp at pieces
  exact filled (String.toList_inj.mp text)

theorem eq_empty_or_pieces (path : Path) :
    path = ⟨""⟩ ∨ ∃ first rest, Text.splitOn '/' path.text.toList = first :: rest ∧ (first ≠ [] ∨ rest ≠ []) := by
  by_cases filled : path.text = ""
  · obtain ⟨text⟩ := path
    exact .inl (congrArg Path.mk filled)
  · exact .inr (pieces_of_nonempty filled)

theorem isAbsolute_iff {path : Path} {first : List Char} {rest : List (List Char)}
    (pieces : Text.splitOn '/' path.text.toList = first :: rest) (filled : first ≠ [] ∨ rest ≠ []) :
    path.isAbsolute = true ↔ first = [] := by
  unfold isAbsolute
  cases letters : path.text.toList with
  | nil =>
    rw [letters] at pieces
    simp only [Text.splitOn, List.cons.injEq] at pieces
    simp_all
  | cons c text =>
    rw [letters] at pieces
    simp only [Text.splitOn] at pieces
    split at pieces
    · simp_all
    next different =>
      split at pieces <;> obtain ⟨rfl, -⟩ := List.cons.inj pieces <;> simpa using different

theorem root_not_mem_tail (path : Path) : .root ∉ path.components.tail := by
  rcases path.eq_empty_or_pieces with rfl | ⟨first, rest, pieces, some⟩
  · simp [components_empty]
  · have inner := Component.root_not_mem_filterMap rest
    rw [components_of_pieces pieces some]
    unfold lead
    by_cases root : first = []
    · simpa [root] using inner
    · by_cases current : first = ['.']
      · simpa [current] using inner
      · cases named : Component.ofSegment? first with
        | none => simpa [root, current, named] using fun member => inner (List.mem_of_mem_tail member)
        | some component => simpa [root, current, named] using inner

theorem root_not_mem_components {path : Path} (open_ : path.isAbsolute = false) : .root ∉ path.components := by
  rcases path.eq_empty_or_pieces with rfl | ⟨first, rest, pieces, some⟩
  · simp [components_empty]
  · have start : first ≠ [] := fun empty => by simp [(isAbsolute_iff pieces some).mpr empty] at open_
    rw [components_of_pieces pieces some, List.mem_append, not_or]
    refine ⟨?_, Component.root_not_mem_filterMap rest⟩
    by_cases current : first = ['.']
    · simp [lead, current]
    · simpa [lead, start, current] using Component.ofSegment?_ne_root

theorem components_ne_nil {path : Path} (filled : path.text ≠ "") : path.components ≠ [] := by
  obtain ⟨first, rest, pieces, some⟩ := pieces_of_nonempty filled
  rw [components_of_pieces pieces some]
  unfold lead
  by_cases root : first = []
  · simp [root]
  · by_cases current : first = ['.']
    · simp [current]
    · by_cases parent : first = ['.', '.'] <;> simp [root, current, parent, Component.ofSegment?]

/-- Every step names something. -/
def Plain (path : Path) : Prop :=
  ∀ component ∈ path.components, ∃ name, component = .name name

instance (component : Component) : Decidable (∃ name, component = .name name) :=
  match component with
  | .name name => isTrue ⟨name, rfl⟩
  | .root | .current | .parent => isFalse (by simp)

instance (path : Path) : Decidable path.Plain :=
  inferInstanceAs (Decidable (∀ component ∈ path.components, ∃ name, component = .name name))

theorem Plain.relative {path : Path} (plain : path.Plain) : path.isAbsolute = false := by
  by_contra absolute
  simp only [isAbsolute, Bool.not_eq_false, decide_eq_true_eq] at absolute
  obtain ⟨text, letters⟩ : ∃ text, path.text.toList = '/' :: text := List.head?_eq_some_iff.mp absolute
  have pieces : Text.splitOn '/' path.text.toList = [] :: Text.splitOn '/' text := by
    simp [letters, Text.splitOn]
  have components := components_of_pieces pieces (.inr (Text.splitOn_ne_nil '/' text))
  obtain ⟨name, same⟩ := plain .root (by simp [components, lead])
  cases same

theorem Plain.pieces {path : Path} (plain : path.Plain) :
    path.components = (Text.splitOn '/' path.text.toList).filterMap Component.ofSegment? := by
  rcases path.eq_empty_or_pieces with rfl | ⟨first, rest, pieces, some⟩
  · rfl
  · have components := components_of_pieces pieces some
    have named : ∀ component ∈ lead first, ∃ name, component = .name name :=
      fun component member => plain component (by simp [components, member])
    rw [components, pieces, List.filterMap_cons]
    unfold lead at named ⊢
    split
    next => simp_all
    next =>
      split
      next => simp_all
      next => cases Component.ofSegment? first <;> rfl

theorem components_join_of_filled {base relative : Path} (filled : base.text ≠ "")
    (open_ : relative.isAbsolute = false) :
    (base.join relative).components = base.components ++ (Text.splitOn '/' relative.text.toList).filterMap
    Component.ofSegment? := by
  have some := Text.splitOn_ne_nil '/' relative.text.toList
  obtain ⟨first, rest, pieces, nonempty⟩ := pieces_of_nonempty filled
  simp only [join, open_, Bool.false_eq_true, if_false]
  cases last : base.text.toList.getLast? with
  | none => exact absurd (String.toList_inj.mp (by simpa using last)) filled
  | some c =>
    by_cases slash : c = '/'
    · subst slash
      obtain ⟨before, letters⟩ := List.getLast?_eq_some_iff.mp last
      have split := Text.splitOn_append '/' before []
      have joined := Text.splitOn_append '/' before relative.text.toList
      have closed : base.components = _ := components_of_append base [[]]
        (Text.splitOn_ne_nil '/' before) (by simp) (by rw [letters, split]; rfl)
      have whole := components_of_append ⟨base.text ++ relative.text⟩ _ (Text.splitOn_ne_nil '/' before) some
        (by simp only [String.toList_append, letters, List.append_assoc, List.singleton_append, joined])
      simp only [Option.all_some, decide_true, if_true]
      rw [whole, closed]
      simp [Component.ofSegment?]
    · have joined := Text.splitOn_append '/' base.text.toList relative.text.toList
      have whole :=
        components_of_append ⟨base.text ++ "/" ++ relative.text⟩ _ (Text.splitOn_ne_nil '/' base.text.toList) some
        (by simp only [String.toList_append, List.append_assoc]; exact joined)
      simp only [Option.all_some, slash, decide_false, Bool.false_eq_true, if_false]
      rw [whole, components_of_pieces pieces nonempty]
      simp [pieces]

/-- What is joined to a path and opens with no start of its own adds its components, and nothing else. -/
theorem components_join_of_pieces {base relative : Path} (open_ : relative.isAbsolute = false)
    (segments : relative.components = (Text.splitOn '/' relative.text.toList).filterMap Component.ofSegment?) :
    (base.join relative).components = base.components ++ relative.components := by
  by_cases filled : base.text = ""
  · obtain ⟨text⟩ := base
    cases filled
    simp [join, open_, components_empty]
  · rw [components_join_of_filled filled open_, segments]

theorem components_join {base relative : Path} (plain : relative.Plain) :
    (base.join relative).components = base.components ++ relative.components :=
  components_join_of_pieces plain.relative plain.pieces

theorem properName_of_mem (path : Path) {name : String} (member : .name name ∈ path.components) :
    ProperName name := by
  have clean (piece : List Char) (inside : piece ∈ Text.splitOn '/' path.text.toList) : '/' ∉ piece :=
    Text.not_mem_of_mem_splitOn inside
  rcases path.eq_empty_or_pieces with rfl | ⟨first, rest, pieces, nonempty⟩
  · simp [components_empty] at member
  · rw [components_of_pieces pieces nonempty, List.mem_append] at member
    rw [pieces] at clean
    rcases member with member | member
    · unfold lead at member
      split at member
      · simp at member
      · split at member
        · simp at member
        · exact Component.properName_of_ofSegment? (by simpa using member) (clean first (by simp))
    · obtain ⟨piece, inside, found⟩ := List.mem_filterMap.mp member
      exact Component.properName_of_ofSegment? found (clean piece (by simp [inside]))

theorem components_div_of_stands {base : Path} {segment : String} {component : Component}
    (stands : Component.Stands segment component) : (base / segment).components = base.components ++ [component] := by
  have pieces : Text.splitOn '/' (⟨segment⟩ : Path).text.toList = [segment.toList] :=
    Text.splitOn_of_not_mem stands.clean
  have step := stands.step
  have filled : segment.toList ≠ [] := by
    intro empty
    simp [empty, Component.ofSegment?] at step
  have named : segment.toList ≠ ['.'] := by
    intro current
    simp [current, Component.ofSegment?] at step
  obtain ⟨open_, segments⟩ := components_of_open pieces filled named
  have alone : (⟨segment⟩ : Path).components = [component] := by
    rw [segments, pieces]
    simp [step]
  exact (components_join_of_pieces open_ segments).trans (by rw [alone])

@[simp] theorem components_div {base : Path} {name : String} (proper : ProperName name) :
    (base / name).components = base.components ++ [.name name] :=
  components_div_of_stands (.of_properName proper)

theorem components_div_current {base : Path} :
    (base / ".").components = if base.components = [] then [.current] else base.components := by
  by_cases filled : base.text = ""
  · obtain ⟨text⟩ := base
    cases filled
    rfl
  · rw [if_neg (components_ne_nil filled)]
    exact (components_join_of_filled filled rfl).trans (by simp [Text.splitOn, Component.ofSegment?])

theorem Plain.names {path : Path} (plain : path.Plain) :
    ∃ names : List String, path.components = names.map .name ∧ ∀ name ∈ names, ProperName name := by
  have take : ∀ components : List Component, (∀ component ∈ components, ∃ name, component = .name name) →
      ∃ names : List String, components = names.map .name := by
    intro components named
    induction components with
    | nil => exact ⟨[], rfl⟩
    | cons component rest ih =>
      obtain ⟨name, rfl⟩ := named component (by simp)
      obtain ⟨names, rfl⟩ := ih fun other member => named other (by simp [member])
      exact ⟨name :: names, rfl⟩
  obtain ⟨names, same⟩ := take path.components plain
  refine ⟨names, same, fun name member => ?_⟩
  exact properName_of_mem path (by simp [same, member])

theorem fileName?_eq_some {path : Path} {name : String} (found : path.fileName? = some name) :
    ProperName name ∧ ∃ before, path.components = before ++ [.name name] := by
  obtain ⟨component, last, named⟩ := Option.bind_eq_some_iff.mp found
  obtain ⟨before, split⟩ := List.getLast?_eq_some_iff.mp last
  have same : component = .name name := by
    cases component <;> simp_all [Component.name?]
  subst same
  exact ⟨properName_of_mem path (by simp [split]), before, split⟩

instance : Std.TransCmp orderComponents :=
  inferInstanceAs (Std.TransCmp (List.compareLex Component.order))

instance : Std.LawfulEqCmp orderComponents :=
  inferInstanceAs (Std.LawfulEqCmp (List.compareLex Component.order))

/-- `path` is `base` followed by these names. -/
def Extends (base : Path) (names : List String) (path : Path) : Prop :=
  path.components = base.components ++ names.map .name

theorem Extends.refl (path : Path) : path.Extends [] path := by simp [Extends]

theorem Extends.div {base path : Path} {names : List String} {name : String}
    (below : base.Extends names path) (proper : ProperName name) :
    base.Extends (names ++ [name]) (path / name) := by
  simp [Extends, components_div proper, show path.components = _ from below]

theorem Extends.trans {base middle path : Path} {first second : List String}
    (below : base.Extends first middle) (further : middle.Extends second path) :
    base.Extends (first ++ second) path := by
  simp [Extends, show path.components = _ from further, show middle.components = _ from below]

/-- The root of a tree, from where its paths start. -/
def origin : Path := ⟨""⟩

theorem origin_extends {names : List String} {path : Path} :
    origin.Extends names path ↔ path.components = names.map .name := Iff.rfl

theorem plain_of_extends {names : List String} {path : Path} (here : origin.Extends names path) : path.Plain := by
  intro component member
  rw [origin_extends.mp here] at member
  obtain ⟨name, -, rfl⟩ := List.mem_map.mp member
  exact ⟨name, rfl⟩

theorem extends_join {root path : Path} {names : List String} (here : origin.Extends names path) :
    root.Extends names (root.join path) := by
  rw [Extends, components_join (plain_of_extends here), origin_extends.mp here]

theorem foldl_step_names (taken : List Component) (names : List String) :
    (names.map Component.name).foldl step taken = (names.map Component.name).reverse ++ taken := by
  induction names generalizing taken with
  | nil => rfl
  | cons name names ih =>
    rw [List.map_cons, List.foldl_cons, ih]
    simp [step]

theorem Extends.resolved {base path : Path} {names : List String} (below : base.Extends names path) :
    path.resolved = base.resolved ++ names.map .name := by
  have whole : path.components = base.components ++ names.map .name := below
  rw [Path.resolved, whole, List.foldl_append, foldl_step_names, List.reverse_append, List.reverse_reverse]
  rfl

end Path
end WheelInstaller
