import WheelInstaller.Proofs.Path.Components

/-! Parents and ancestors. Each step up drops the last component, until only a root or nothing is
left. -/

namespace WheelInstaller.Path

theorem layout_clean {path : Path} : ∀ piece ∈ path.layout.body, '/' ∉ piece := by
  intro piece member
  have clean : ∀ piece ∈ Text.splitOn '/' path.text.toList, '/' ∉ piece :=
    fun piece inside => Text.not_mem_of_mem_splitOn inside
  unfold layout at member
  split at member
  · simp at member
  next first rest pieces =>
    rw [pieces] at clean
    split at member
    · exact clean piece (by simp [show piece ∈ rest from member])
    · split at member
      · exact clean piece (by simp [show piece ∈ rest from member])
      · exact clean piece member

/-- The first segment of a path that has no start of its own names something, if any does. -/
theorem layout_open {path : Path} (start : path.layout.start = .plain) {first : List Char}
    {rest : List (List Char)} (body : path.layout.body = first :: rest) :
    first ≠ ['.'] ∧ (first = [] → rest = []) := by
  unfold layout at start body
  split at start
  next none => simp [none] at body
  next head others pieces =>
    simp only [pieces] at body
    split at start
    · simp at start
    next relative =>
      split at start
      · simp at start
      next named =>
        rw [if_neg relative, if_neg named] at body
        obtain ⟨rfl, rfl⟩ := List.cons.inj body
        refine ⟨named, fun empty => ?_⟩
        simpa [empty] using relative

theorem components_layout_path {layout : Layout} (clean : ∀ piece ∈ layout.body, '/' ∉ piece)
    (opened : layout.start = .plain → ∀ first rest, layout.body = first :: rest → first ≠ [] ∧ first ≠ ['.']) :
    layout.path.components = layout.start.components ++ layout.body.filterMap Component.ofSegment? := by
  obtain ⟨start, body⟩ := layout
  cases body with
  | nil => cases start <;> rfl
  | cons first rest =>
    have pieces := Text.splitOn_joinWith (List.cons_ne_nil first rest) clean
    have cut (c : List Char) := Text.splitOn_append '/' c (Text.joinWith '/' (first :: rest))
    cases start with
    | root =>
      have split := cut []
      rw [pieces, Text.splitOn] at split
      rw [components_of_pieces (show Text.splitOn '/' _ = [] :: first :: rest by simpa [Layout.path] using split)
        (.inr (by simp))]
      simp [lead, Start.components]
    | current =>
      have split := cut ['.']
      rw [pieces, show Text.splitOn '/' ['.'] = [['.']] from rfl] at split
      rw [components_of_pieces (show Text.splitOn '/' _ = ['.'] :: first :: rest by simpa [Layout.path] using split)
        (.inr (by simp))]
      simp [lead, Start.components]
    | plain =>
      obtain ⟨filled, named⟩ := opened rfl first rest rfl
      rw [components_of_pieces (show Text.splitOn '/' _ = first :: rest by simpa [Layout.path] using pieces)
        (.inl filled)]
      simp only [lead, filled, named, if_false, Start.components, List.nil_append, List.filterMap_cons]
      cases Component.ofSegment? first <;> rfl

private theorem filterMap_dropWhile (body : List (List Char)) :
    (body.dropWhile fun segment => (Component.ofSegment? segment).isNone).filterMap Component.ofSegment? =
      body.filterMap Component.ofSegment? := by
  induction body with
  | nil => rfl
  | cons segment body ih =>
    cases found : Component.ofSegment? segment with
    | none => simp [found, ih]
    | some component => simp [found]

theorem filterMap_trimBody (body : List (List Char)) :
    (trimBody body).filterMap Component.ofSegment? = body.filterMap Component.ofSegment? := by
  have reversed := congrArg List.reverse (filterMap_dropWhile body.reverse)
  simpa [trimBody, List.filterMap_reverse] using reversed

theorem prefix_trimBody (body : List (List Char)) : trimBody body <+: body := by
  have kept : (body.reverse.dropWhile fun segment => (Component.ofSegment? segment).isNone) <:+ body.reverse :=
    List.dropWhile_suffix _
  simpa [trimBody] using List.reverse_prefix.mpr kept

theorem trimBody_last {body : List (List Char)} (left : trimBody body ≠ []) :
    ∃ before segment component, trimBody body = before ++ [segment] ∧
      Component.ofSegment? segment = some component := by
  have nonempty : (body.reverse.dropWhile fun segment => (Component.ofSegment? segment).isNone) ≠ [] := by
    simpa [trimBody] using left
  obtain ⟨segment, rest, shape⟩ := List.exists_cons_of_ne_nil nonempty
  have kept := List.head_dropWhile_not (fun segment => (Component.ofSegment? segment).isNone) nonempty
  simp only [shape, List.head_cons, Option.isNone_eq_false_iff, Option.isSome_iff_exists] at kept
  obtain ⟨component, found⟩ := kept
  exact ⟨rest.reverse, segment, component, by simp [trimBody, shape], found⟩

theorem components_of_layout (path : Path) :
    path.components = path.layout.start.components ++ path.layout.body.filterMap Component.ofSegment? := rfl

/-- Above a path whose start is all it has, there is nothing but the empty path. -/
theorem parent?_of_start {path : Path} (bare : trimBody path.layout.body = []) :
    path.parent? = if path.layout.start = .current then some ⟨""⟩ else none := by
  unfold parent?
  cases start : path.layout.start <;> simp [start, bare]

theorem parent?_of_body {path : Path} {before : List (List Char)} {segment : List Char}
    (body : trimBody path.layout.body = before ++ [segment]) :
    path.parent? = some (Layout.path ⟨path.layout.start, trimBody before⟩) := by
  have filled : before ++ [segment] ≠ [] := by simp
  obtain ⟨first, rest, shape⟩ := List.exists_cons_of_ne_nil filled
  have inner : (first :: rest).dropLast = before := by rw [← shape, List.dropLast_concat]
  rw [shape] at body
  unfold parent?
  cases start : path.layout.start <;> simp only [start, body] <;> rw [← inner]

private theorem parent_open {path : Path} {before : List (List Char)} (start : path.layout.start = .plain)
    (kept : trimBody before <+: path.layout.body) {first : List Char} {rest : List (List Char)}
    (shape : trimBody before = first :: rest) : first ≠ [] ∧ first ≠ ['.'] := by
  obtain ⟨more, body⟩ := kept
  rw [shape] at body
  obtain ⟨named, filled⟩ := layout_open start body.symm
  refine ⟨fun empty => ?_, named⟩
  have alone := List.append_eq_nil_iff.mp (filled empty)
  obtain ⟨others, segment, component, last, found⟩ := trimBody_last (show trimBody before ≠ [] by simp [shape])
  rw [shape, alone.1, empty, List.singleton_eq_append_iff] at last
  rcases last with ⟨-, same⟩ | ⟨-, same⟩
  · cases same
    simp [Component.ofSegment?] at found
  · simp at same

theorem components_parent? {path parent : Path} (found : path.parent? = some parent) :
    ∃ last, path.components = parent.components ++ [last] ∧ last ≠ .root := by
  have whole := components_of_layout path
  by_cases bare : trimBody path.layout.body = []
  · have nothing : path.layout.body.filterMap Component.ofSegment? = [] := by
      rw [← filterMap_trimBody, bare, List.filterMap_nil]
    rw [parent?_of_start bare] at found
    split at found
    next current =>
      cases found
      exact ⟨.current, by simp [whole, nothing, current, Start.components, components_empty], by simp⟩
    next => cases found
  · obtain ⟨before, segment, component, body, last⟩ := trimBody_last bare
    rw [parent?_of_body body] at found
    cases found
    have kept : trimBody before <+: path.layout.body :=
      (prefix_trimBody before).trans ((List.prefix_append before [segment]).trans
        (body ▸ prefix_trimBody path.layout.body))
    have components :=
      components_layout_path (show ∀ piece ∈ (⟨path.layout.start, trimBody before⟩ : Layout).body, '/' ∉ piece from
      fun piece member => layout_clean piece (kept.subset member))
      (fun start first rest shape => parent_open start kept shape)
    refine ⟨component, ?_, fun root => Component.ofSegment?_ne_root (root ▸ last)⟩
    rw [whole, components, ← filterMap_trimBody path.layout.body, body, filterMap_trimBody]
    simp [last]

theorem parent?_eq_none {path : Path} (none : path.parent? = none) :
    path.components = [] ∨ path.components = [.root] := by
  have whole := components_of_layout path
  by_cases bare : trimBody path.layout.body = []
  · have nothing : path.layout.body.filterMap Component.ofSegment? = [] := by
      rw [← filterMap_trimBody, bare, List.filterMap_nil]
    rw [parent?_of_start bare] at none
    rw [whole, nothing]
    cases start : path.layout.start <;> simp_all [Start.components]
  · obtain ⟨before, segment, component, body, last⟩ := trimBody_last bare
    rw [parent?_of_body body] at none
    cases none

/-! Ancestors -/

/-- The directories strictly between a path and the directory it extends are those with some of its
names, the longest first. -/
theorem takeWhile_ancestorsWithin {base : Path} : ∀ {count : Nat} {names : List String} {path : Path},
    base.Extends names path → names.length ≤ count →
    ((ancestorsWithin count path).takeWhile fun above => above.components ≠ base.components).map components =
      (List.range names.length).map fun dropped =>
        base.components ++ (names.take (names.length - dropped)).map .name := by
  intro count
  induction count with
  | zero =>
    intro names path below bound
    obtain rfl := List.length_eq_zero_iff.mp (Nat.le_zero.mp bound)
    have same : path.components = base.components := by simpa [Extends] using below
    simp [ancestorsWithin, same]
  | succ count ih =>
    intro names path below bound
    have whole : path.components = base.components ++ names.map .name := below
    cases names.eq_nil_or_concat with
    | inl empty =>
      subst empty
      have same : path.components = base.components := by simpa using whole
      unfold ancestorsWithin
      split <;> simp [same]
    -- The path itself is taken, and its parent has all names but the last.
    | inr more =>
      obtain ⟨names, name, rfl⟩ := more
      have different : path.components ≠ base.components := by simp [whole]
      rw [List.concat_eq_append] at bound ⊢ whole
      rw [List.map_append, List.map_cons, List.map_nil, ← List.append_assoc] at whole
      unfold ancestorsWithin
      split
      next top =>
        rcases parent?_eq_none top with none | root
        · simp [none] at whole
        · rw [root, List.singleton_eq_append_iff] at whole
          rcases whole with ⟨-, same⟩ | ⟨-, same⟩ <;> simp at same
      next parent found =>
        obtain ⟨last, split, -⟩ := components_parent? found
        have inner : base.Extends names parent := (List.append_inj' (split.symm.trans whole) rfl).1
        have shorter : names.length ≤ count := by simpa using bound
        have taken : List.takeWhile (fun above : Path => decide (above.components ≠ base.components))
            (path :: ancestorsWithin count parent) =
            path :: List.takeWhile (fun above => decide (above.components ≠ base.components))
              (ancestorsWithin count parent) := by simp [different]
        rw [taken, List.map_cons, ih inner shorter, List.length_append, List.length_singleton,
          List.range_succ_eq_map, List.map_cons, List.map_map, whole]
        congr 1
        · rw [Nat.sub_zero, List.take_of_length_le (by simp)]
          simp
        · apply List.map_congr_left
          intro dropped inside
          have few := List.mem_range.mp inside
          simp only [Function.comp, Nat.succ_eq_add_one, Nat.add_sub_add_right]
          rw [List.take_append_of_le_length (by omega)]

theorem ancestors_eq (path : Path) : path.ancestors = path :: path.ancestors.tail := by
  unfold ancestors
  cases path.components.length with
  | zero => rfl
  | succ count =>
    unfold ancestorsWithin
    split <;> rfl

/-- Between a path and the directory it extends, both excluded, lies what extends the directory by
some of the names, but not by all. -/
theorem exists_between_iff {base path : Path} {names : List String} (below : base.Extends names path)
    (some : names ≠ []) (components : List Component) :
    (∃ above ∈ path.ancestors.tail.takeWhile fun above => above.components ≠ base.components,
      above.components = components) ↔
    ∃ count, 0 < count ∧ count < names.length ∧ components = base.components ++ (names.take count).map .name := by
  have length := List.length_pos_iff.mpr some
  have whole := takeWhile_ancestorsWithin below
    (show names.length ≤ path.components.length by rw [show path.components = _ from below]; simp)
  have different : path.components ≠ base.components := by simp [show path.components = _ from below, some]
  change (path.ancestors.takeWhile _).map _ = _ at whole
  rw [ancestors_eq, List.takeWhile_cons_of_pos (by simpa using different), List.map_cons,
    show names.length = (names.length - 1) + 1 by omega, List.range_succ_eq_map, List.map_cons,
    List.map_map] at whole
  rw [← List.mem_map, (List.cons.inj whole).2, List.mem_map]
  constructor
  · rintro ⟨dropped, inside, rfl⟩
    have few := List.mem_range.mp inside
    exact ⟨names.length - 1 - dropped, by omega, by omega, by simp [Function.comp]⟩
  · rintro ⟨count, positive, few, rfl⟩
    refine ⟨names.length - 1 - count, List.mem_range.mpr (by omega), ?_⟩
    simp only [Function.comp, Nat.succ_eq_add_one]
    rw [show names.length - 1 + 1 - (names.length - 1 - count + 1) = count by omega]

end WheelInstaller.Path
