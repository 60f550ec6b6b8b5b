import Mathlib.Data.List.Induction
import WheelInstaller.Proofs.Placement

/-! How paths are spelled. Names put behind a path one by one give one text, whichever way the path was
put together, and a parent is spelled like the path without its last name. -/

namespace WheelInstaller

namespace Path

variable {base path relative : Path} {name : String} {names : List String}

/-- The path with names behind it. -/
def under (base : Path) (names : List String) : Path :=
  names.foldl (· / ·) base

@[simp] theorem under_nil : base.under [] = base := rfl

theorem under_cons : base.under (name :: names) = (base / name).under names := rfl

theorem under_concat : base.under (names ++ [name]) = base.under names / name := by
  simp [under]

theorem extends_under (proper : ∀ name ∈ names, ProperName name) : base.Extends names (base.under names) := by
  induction names using List.reverseRecOn with
  | nil => exact .refl base
  | append_singleton names name ih =>
    rw [under_concat]
    exact (ih fun other member => proper other (by simp [member])).div (proper name (by simp))

/-! ### Names behind a path -/

theorem join_eq (plain : relative.isAbsolute = false) :
    base.join relative =
      if base.text.toList.getLast?.all (· = '/') then ⟨base.text ++ relative.text⟩
      else ⟨base.text ++ "/" ++ relative.text⟩ := by
  simp [join, plain]

theorem isAbsolute_name (proper : ProperName name) : (⟨name⟩ : Path).isAbsolute = false := by
  by_contra absolute
  simp only [isAbsolute, Bool.not_eq_false, decide_eq_true_eq] at absolute
  exact proper.clean (List.mem_of_head? absolute)

theorem div_eq (proper : ProperName name) :
    path / name = if path.text.toList.getLast?.all (· = '/') then ⟨path.text ++ name⟩ else ⟨path.text ++ "/" ++ name⟩ :=
  join_eq (isAbsolute_name proper)

theorem getLast?_of_append (text : List Char) (proper : ProperName name) :
    ∃ c, (text ++ name.toList).getLast? = some c ∧ c ≠ '/' := by
  have filled : name.toList ≠ [] := fun same => proper.nonempty (String.toList_inj.mp same)
  refine ⟨name.toList.getLast filled, ?_, fun slash => proper.clean (slash ▸ List.getLast_mem filled)⟩
  rw [List.getLast?_append_of_ne_nil _ filled, List.getLast?_eq_getLast_of_ne_nil filled]

theorem getLast?_div (path : Path) (proper : ProperName name) : ∃ c, (path / name).text.toList.getLast? = some c ∧
    c ≠ '/' := by
  rw [div_eq proper]
  split
  · simpa using getLast?_of_append path.text.toList proper
  · simpa using getLast?_of_append (path.text.toList ++ ['/']) proper

theorem text_div_ne (proper : ProperName name) : (path / name).text ≠ "" := by
  intro empty
  obtain ⟨c, last, -⟩ := getLast?_div path proper
  simp [empty] at last

theorem text_div_div {second : String} (proper : ProperName name) (also : ProperName second) :
    (path / name / second).text = (path / name).text ++ "/" ++ second := by
  obtain ⟨c, last, open_⟩ := getLast?_div path proper
  rw [div_eq also, if_neg (by simp [last, open_])]

theorem relative_div (plain : path.isAbsolute = false) (proper : ProperName name) :
    (path / name).isAbsolute = false := by
  have head : name.toList.head? ≠ some '/' := fun slash => proper.clean (List.mem_of_head? slash)
  rw [div_eq proper]
  unfold isAbsolute at plain ⊢
  cases letters : path.text.toList with
  | nil => simpa [letters] using head
  | cons c rest =>
    rw [letters] at plain
    split <;> simpa [letters] using plain

theorem join_div (plain : relative.isAbsolute = false) (proper : ProperName name) :
    base.join relative / name = base.join (relative / name) := by
  rw [join_eq (relative_div plain proper), join_eq plain]
  cases last : relative.text.toList.getLast? with
  | none =>
    have empty : relative.text = "" := String.toList_inj.mp (by simpa using last)
    rw [div_eq proper, div_eq proper]
    by_cases closed : base.text.toList.getLast?.all (· = '/') <;> simp [closed, empty]
  | some c =>
    rw [div_eq proper, div_eq proper, last]
    by_cases slash : c = '/' <;> by_cases closed : base.text.toList.getLast?.all (· = '/') <;>
      simp [closed, last, slash, List.getLast?_append, List.getLast?_cons, String.append_assoc]

theorem join_under (plain : relative.isAbsolute = false) (proper : ∀ name ∈ names, ProperName name) :
    (base.join relative).under names = base.join (relative.under names) := by
  induction names generalizing relative with
  | nil => rfl
  | cons name names ih =>
    have first := proper name (by simp)
    rw [under_cons, under_cons, join_div plain first]
    exact ih (relative_div plain first) fun other member => proper other (by simp [member])

theorem join_origin_under (some : names ≠ []) (proper : ∀ name ∈ names, ProperName name) :
    base.join ((⟨""⟩ : Path).under names) = base.under names := by
  obtain ⟨name, rest, rfl⟩ := List.exists_cons_of_ne_nil some
  have first := proper name (by simp)
  have alone : (⟨""⟩ : Path) / name = ⟨name⟩ := by simp [div_eq first]
  have joined : base / name = base.join ⟨name⟩ := rfl
  rw [under_cons, under_cons, alone, joined, join_under (isAbsolute_name first) fun other member =>
    proper other (by simp [member])]

theorem relative_under (plain : path.isAbsolute = false) (proper : ∀ name ∈ names, ProperName name) :
    (path.under names).isAbsolute = false := by
  induction names generalizing path with
  | nil => exact plain
  | cons name names ih =>
    exact ih (relative_div plain (proper name (by simp))) fun other member => proper other (by simp [member])

/-- What is in a directory below another path, whether that is spelled with a slash at its end or not. -/
theorem join_origin_under_div (proper : ∀ name ∈ names, ProperName name) (named : ProperName name) :
    base.join ((⟨""⟩ : Path).under names) / name = base.under (names ++ [name]) := by
  have all : ∀ other ∈ names ++ [name], ProperName other := by simpa [or_imp, forall_and] using ⟨proper, named⟩
  rw [join_div (relative_under rfl proper) named, ← under_concat, join_origin_under (by simp) all]

theorem length_le_utf8ByteSize_under (proper : ∀ name ∈ names, ProperName name) :
    names.length ≤ (base.under names).text.utf8ByteSize := by
  induction names using List.reverseRecOn with
  | nil => simp
  | append_singleton names name ih =>
    have named := proper name (by simp)
    have shorter := ih fun other member => proper other (by simp [member])
    have filled : 0 < name.utf8ByteSize := by
      rw [Nat.pos_iff_ne_zero, ne_eq, String.utf8ByteSize_eq_zero_iff]
      exact named.nonempty
    rw [under_concat, div_eq named]
    split <;> simp only [String.utf8ByteSize_append, List.length_append, List.length_singleton] <;> omega

/-! ### Parents -/

theorem layout_path (path : Path) : path.layout.path = path := by
  suffices same : path.layout.path.text.toList = path.text.toList from
    congrArg Path.mk (String.toList_inj.mp same)
  obtain ⟨first, rest, pieces⟩ := List.exists_cons_of_ne_nil (Text.splitOn_ne_nil '/' path.text.toList)
  rw [← Text.joinWith_splitOn '/' path.text.toList]
  unfold layout
  rw [pieces]
  dsimp only
  split
  next root =>
    simp only [Bool.and_eq_true, decide_eq_true_eq, Bool.not_eq_eq_eq_not, Bool.not_true,
      List.isEmpty_eq_false_iff] at root
    simp [Layout.path, Text.joinWith_cons root.2, root.1]
  next =>
    split
    next current =>
      subst current
      cases rest <;> simp [Layout.path, Text.joinWith]
    next => simp [Layout.path]

theorem pieces_div (path : Path) (proper : ProperName name) :
    ∃ front, Text.splitOn '/' (path / name).text.toList = front ++ [name.toList] := by
  have alone := Text.splitOn_of_not_mem proper.clean
  rw [div_eq proper]
  cases last : path.text.toList.getLast? with
  | none => exact ⟨[], by simp_all⟩
  | some c =>
    by_cases slash : c = '/'
    · obtain ⟨letters, split⟩ := List.getLast?_eq_some_iff.mp last
      subst slash
      exact ⟨Text.splitOn '/' letters, by simp [split, Text.splitOn_append, alone]⟩
    · exact ⟨Text.splitOn '/' path.text.toList, by simp [slash, Text.splitOn_append, alone]⟩

theorem pieces_div_div (path : Path) {second : String} (proper : ProperName name) (also : ProperName second) :
    Text.splitOn '/' (path / name / second).text.toList =
      Text.splitOn '/' (path / name).text.toList ++ [second.toList] := by
  rw [text_div_div proper also]
  simp [Text.splitOn_append, Text.splitOn_of_not_mem also.clean]

theorem layout_of_pieces {first : List Char} {rest : List (List Char)}
    (pieces : Text.splitOn '/' path.text.toList = first :: rest) :
    path.layout = if first = [] ∧ rest ≠ [] then ⟨.root, rest⟩ else if first = ['.'] then ⟨.current, rest⟩
    else ⟨.plain, first :: rest⟩ := by
  simp [layout, pieces]

theorem layout_div_div (path : Path) {second : String} (proper : ProperName name) (also : ProperName second) :
    (∃ front, (path / name).layout.body = front ++ [name.toList]) ∧
      (path / name / second).layout = ⟨(path / name).layout.start, (path / name).layout.body ++ [second.toList]⟩ := by
  obtain ⟨front, pieces⟩ := pieces_div path proper
  have further := pieces_div_div path proper also
  rw [pieces] at further
  cases front with
  | nil =>
    have filled : name.toList ≠ [] := fun same => proper.nonempty (String.toList_inj.mp same)
    have named : name.toList ≠ ['.'] := fun same => proper.notCurrent (String.toList_inj.mp same)
    rw [layout_of_pieces pieces, layout_of_pieces further]
    simp [filled, named]
  | cons first front =>
    have split (start : Start) : ∃ inner, (⟨start, first :: front ++ [name.toList]⟩ : Layout).body =
      inner ++ [name.toList] :=
      ⟨first :: front, rfl⟩
    rw [layout_of_pieces pieces, layout_of_pieces further]
    by_cases root : first = []
    · simp [root]
    · by_cases current : first = ['.']
      · simp [current]
      · simpa [root, current] using split .plain

theorem parent?_div_div {second : String} (proper : ProperName name) (also : ProperName second) :
    (path / name / second).parent? = some (path / name) := by
  have trimmed (body : List (List Char)) {segment : List Char} {component : Component}
      (kept : Component.ofSegment? segment = some component) : trimBody (body ++ [segment]) = body ++ [segment] := by
    simp [trimBody, kept]
  obtain ⟨⟨front, body⟩, further⟩ := layout_div_div path proper also
  have named := Component.ofSegment?_name proper
  have more : trimBody (path / name / second).layout.body = (path / name).layout.body ++ [second.toList] := by
    rw [further]
    exact trimmed _ (Component.ofSegment?_name also)
  have left : trimBody (path / name).layout.body = (path / name).layout.body := by
    rw [body]
    exact trimmed _ named
  rw [parent?_of_body more, further, left, layout_path]

/-- The paths between a path and a directory that it extends by names are spelled alike. -/
theorem eq_under_of_mem_ancestors {last : String} (ends : ProperName last) {count : Nat}
    (proper : ∀ name ∈ names, ProperName name) {above : Path}
    (member : above ∈ (ancestorsWithin count ((base / last).under names)).takeWhile
      fun above => above.components ≠ (base / last).components) :
    ∃ front, front <+: names ∧ above = (base / last).under front := by
  induction count generalizing names with
  | zero =>
    have same := List.takeWhile_subset _ member
    rw [ancestorsWithin, List.mem_singleton] at same
    exact ⟨names, List.prefix_refl names, same⟩
  | succ count ih =>
    rcases List.eq_nil_or_concat' names with rfl | ⟨names, name, rfl⟩
    · unfold ancestorsWithin at member
      split at member <;> simp at member
    · have inner : ∀ other ∈ names, ProperName other := fun other member => proper other (by simp [member])
      have named := proper name (by simp)
      have parent : ((base / last).under (names ++ [name])).parent? = some ((base / last).under names) := by
        rw [under_concat]
        rcases List.eq_nil_or_concat' names with rfl | ⟨names, second, rfl⟩
        · exact parent?_div_div ends named
        · rw [under_concat]
          exact parent?_div_div (inner second (by simp)) named
      rw [ancestorsWithin, parent, List.takeWhile_cons] at member
      split at member
      next =>
        rcases List.mem_cons.mp member with rfl | member
        · exact ⟨names ++ [name], List.prefix_refl _, rfl⟩
        · obtain ⟨front, shorter, rfl⟩ := ih inner member
          exact ⟨front, shorter.trans (List.prefix_append names [name]), rfl⟩
      next => simp at member

theorem pieces_under (some : names ≠ []) (proper : ∀ name ∈ names, ProperName name) :
    Text.splitOn '/' ((⟨""⟩ : Path).under names).text.toList = names.map String.toList := by
  induction names using List.reverseRecOn with
  | nil => exact absurd rfl some
  | append_singleton names name ih =>
    have named := proper name (by simp)
    have inner : ∀ other ∈ names, ProperName other := fun other member => proper other (by simp [member])
    rw [under_concat]
    rcases List.eq_nil_or_concat' names with rfl | ⟨names, last, rfl⟩
    · simp [div_eq named, Text.splitOn_of_not_mem named.clean]
    · have further := ih (by simp) inner
      rw [under_concat] at further ⊢
      rw [pieces_div_div _ (inner last (by simp)) named, further]
      simp

end Path

/-! ### Where entries go -/

namespace RecordedPath

theorem relative_eq {recorded : String} (filled : names recorded ≠ [])
    (proper : ∀ name ∈ names recorded, ProperName name) :
    relative recorded = Path.origin.under (names recorded) := by
  have pieces := Path.pieces_under filled proper
  have same : (names recorded).map String.toList = keptSegments recorded.toList := by
    simp [names, Function.comp_def]
  unfold relative Path.origin
  rw [← same, ← pieces, Text.joinWith_splitOn, String.ofList_toList]

theorem destination_eq {root : Path} {recorded : String} {placed : PlacedPath}
    (accepted : place root recorded = .ok placed) : placed.destination = root.under (names recorded) := by
  obtain ⟨filled, proper, -, -⟩ := accepted_of_place accepted
  obtain ⟨-, rfl⟩ := place_eq_ok.mp accepted
  dsimp only
  rw [relative_eq filled proper]
  exact Path.join_origin_under filled proper

end RecordedPath

namespace Install.Plan

open RecordedPath (names)

theorem exists_under_of_build {archive base : Path} {last : String} (ends : ProperName last)
    {entries : List Entry} {plan : Plan}
    (built : build archive (base / last) entries = .ok plan) {path : Path} (member : path ∈ plan.directories) :
    ∃ directory, (∀ name ∈ directory, ProperName name) ∧ path = (base / last).under directory := by
  obtain ⟨placed, done, checked⟩ := build_eq_ok.mp built
  obtain ⟨-, rfl⟩ := checkFiles_eq_ok.mp checked
  have good := (placed_of_placeAll done).1
  obtain ⟨⟨entry, destination⟩, inside, made⟩ := List.mem_flatMap.mp (Path.mem_of_mem_inOrder member)
  obtain ⟨target, found, same⟩ := good.targets _ inside
  obtain ⟨some, proper, -⟩ := good.accepted _ inside
  have same : destination = (base / last).under (names entry.path) :=
    same.symm.trans (RecordedPath.destination_eq found)
  subst same
  rcases List.mem_append.mp made with above | own
  · unfold directoriesAbove at above
    have everywhere : path ∈ ((base / last).under (names entry.path)).ancestors.takeWhile
        fun directory => directory.components ≠ (base / last).components := by
      have different : ((base / last).under (names entry.path)).components ≠ (base / last).components := by
        rw [show _ = _ from Path.extends_under proper]
        simpa using some
      rw [Path.ancestors_eq, List.takeWhile_cons_of_pos (by simpa using different)]
      exact List.mem_cons_of_mem _ above
    obtain ⟨front, shorter, rfl⟩ := Path.eq_under_of_mem_ancestors ends proper everywhere
    exact ⟨front, fun name member => proper name (shorter.subset member), rfl⟩
  · split at own
    · exact ⟨names entry.path, proper, List.mem_singleton.mp own⟩
    · simp at own

end Install.Plan
end WheelInstaller
