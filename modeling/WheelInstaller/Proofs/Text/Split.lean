import Mathlib.Data.List.DropRight
import WheelInstaller.Text.Split

/-! Cutting a text at a separator and joining the pieces again. A text falls into its lines at every line feed,
and what is trimmed neither starts nor ends with white space. -/

namespace WheelInstaller.Text

variable {separator : Char}

theorem splitOn_ne_nil (separator : Char) (text : List Char) : splitOn separator text ≠ [] := by
  cases text with
  | nil => simp [splitOn]
  | cons c rest =>
    simp only [splitOn]
    split
    · simp
    · split <;> simp

theorem splitOn_append (separator : Char) (before after : List Char) :
    splitOn separator (before ++ separator :: after) = splitOn separator before ++ splitOn separator after := by
  induction before with
  | nil => simp [splitOn]
  | cons c before ih =>
    by_cases same : c = separator
    · simp [splitOn, same, ih]
    · simp only [List.cons_append, splitOn, same, if_false, ih]
      cases pieces : splitOn separator before with
      | nil => exact absurd pieces (splitOn_ne_nil separator before)
      | cons first others => rfl

theorem splitOn_of_not_mem {text : List Char} (absent : separator ∉ text) : splitOn separator text = [text] := by
  induction text with
  | nil => rfl
  | cons c rest ih =>
    simp only [List.mem_cons, not_or] at absent
    simp [splitOn, Ne.symm absent.1, ih absent.2]

theorem not_mem_of_mem_splitOn {text piece : List Char} (member : piece ∈ splitOn separator text) :
    separator ∉ piece := by
  induction text generalizing piece with
  | nil => simp_all [splitOn]
  | cons c rest ih =>
    by_cases same : c = separator
    · simp only [splitOn, same, if_true, List.mem_cons] at member
      rcases member with rfl | member
      · exact List.not_mem_nil
      · exact ih member
    · simp only [splitOn, same, if_false] at member
      cases pieces : splitOn separator rest with
      | nil => exact absurd pieces (splitOn_ne_nil separator rest)
      | cons first others =>
        simp only [pieces, List.mem_cons] at member ih
        rcases member with rfl | member
        · simpa [Ne.symm same] using ih (.inl rfl)
        · exact ih (.inr member)

theorem splitOn_joinWith {pieces : List (List Char)} (some : pieces ≠ [])
    (clean : ∀ piece ∈ pieces, separator ∉ piece) : splitOn separator (joinWith separator pieces) = pieces := by
  induction pieces with
  | nil => exact absurd rfl some
  | cons first rest ih =>
    cases rest with
    | nil => exact splitOn_of_not_mem (clean first (by simp))
    | cons second rest =>
      simp only [joinWith]
      rw [splitOn_append, splitOn_of_not_mem (clean first (by simp)),
        ih (by simp) (fun piece member => clean piece (by simp [member]))]
      rfl

theorem splitOnce_eq_some {text before after : List Char} (cut : splitOnce separator text = some (before, after)) :
    separator ∉ before ∧ text = before ++ separator :: after := by
  induction text generalizing before with
  | nil => cases cut
  | cons c rest ih =>
    unfold splitOnce at cut
    split at cut
    next same =>
      cases cut
      exact ⟨List.not_mem_nil, by rw [same, List.nil_append]⟩
    next other =>
      obtain ⟨⟨first, second⟩, inner, same⟩ := Option.map_eq_some_iff.mp cut
      cases same
      obtain ⟨absent, rfl⟩ := ih inner
      exact ⟨by simp [Ne.symm other, absent], rfl⟩

theorem splitOnce_append {before : List Char} (absent : separator ∉ before) (after : List Char) :
    splitOnce separator (before ++ separator :: after) = some (before, after) := by
  induction before with
  | nil => simp [splitOnce]
  | cons c rest ih =>
    simp only [List.mem_cons, not_or] at absent
    simp [splitOnce, Ne.symm absent.1, ih absent.2]

theorem splitOnce_eq_none_iff {text : List Char} : splitOnce separator text = none ↔ separator ∉ text := by
  induction text with
  | nil => simp [splitOnce]
  | cons c rest ih =>
    by_cases same : c = separator
    · simp [splitOnce, same]
    · simp [splitOnce, same, Ne.symm same, ih]

theorem dropSuffix?_eq_some_iff {suffix text before : List Char} : dropSuffix? suffix text = some before ↔
    text = before ++ suffix := by
  unfold dropSuffix?
  constructor
  · intro cut
    split at cut
    next ends =>
      obtain ⟨front, rfl⟩ := List.isSuffixOf_iff_suffix.mp ends
      simpa [eq_comm] using cut
    next => cases cut
  · rintro rfl
    simp

theorem joinWith_cons {separator : Char} {first : List Char} {rest : List (List Char)} (more : rest ≠ []) :
    joinWith separator (first :: rest) = first ++ separator :: joinWith separator rest := by
  obtain ⟨second, others, rfl⟩ := List.exists_cons_of_ne_nil more
  rfl

theorem joinWith_splitOn (separator : Char) (text : List Char) :
    joinWith separator (splitOn separator text) = text := by
  induction text with
  | nil => rfl
  | cons c rest ih =>
    have pieces := splitOn_ne_nil separator rest
    unfold splitOn
    split
    next same => rw [joinWith_cons pieces, ih, same, List.nil_append]
    next =>
      obtain ⟨first, others, split⟩ := List.exists_cons_of_ne_nil pieces
      rw [split] at ih ⊢
      cases others with
      | nil => simpa [joinWith] using ih
      | cons second others => simpa [joinWith] using ih

theorem mem_joinWith {c : Char} {piece : List Char} {pieces : List (List Char)} (member : piece ∈ pieces)
    (inside : c ∈ piece) :
    c ∈ joinWith separator pieces := by
  induction pieces with
  | nil => cases member
  | cons first rest ih =>
    cases rest with
    | nil => simpa [joinWith, List.mem_singleton.mp member] using inside
    | cons second rest =>
      rcases List.mem_cons.mp member with rfl | further
      · simp [joinWith, inside]
      · simp [joinWith, ih further]

theorem mem_of_mem_joinWith {c : Char} {pieces : List (List Char)} (inside : c ∈ joinWith separator pieces) :
    c = separator ∨ ∃ piece ∈ pieces, c ∈ piece := by
  induction pieces with
  | nil => cases inside
  | cons first rest ih =>
    by_cases more : rest = []
    · subst more
      exact .inr ⟨first, by simp, inside⟩
    · rw [joinWith_cons more, List.mem_append, List.mem_cons] at inside
      rcases inside with here | same | further
      · exact .inr ⟨first, by simp, here⟩
      · exact .inl same
      · obtain same | ⟨piece, member, there⟩ := ih further
        · exact .inl same
        · exact .inr ⟨piece, by simp [member], there⟩

theorem mem_of_mem_splitOn {piece text : List Char} {c : Char} (member : piece ∈ splitOn separator text)
    (inside : c ∈ piece) : c ∈ text :=
  joinWith_splitOn separator text ▸ mem_joinWith member inside

/-! ### Trimming -/

variable {line text before : List Char} {pieces more : List (List Char)} {c : Char}

theorem trimEnd_eq_rdropWhile (text : List Char) : trimEnd text = text.rdropWhile isBlank := rfl

theorem trim_isPrefix (text : List Char) : trim text <+: trimStart text :=
  List.rdropWhile_prefix isBlank _

theorem mem_of_mem_trim (member : c ∈ trim text) : c ∈ text :=
  (List.dropWhile_suffix isBlank).subset ((trim_isPrefix text).subset member)

theorem mem_trim_of_visible (member : c ∈ text) (visible : isBlank c = false) : c ∈ trim text := by
  have kept {front : List Char} (inside : c ∈ front) : c ∈ front.dropWhile isBlank := by
    rw [← List.takeWhile_append_dropWhile (p := isBlank) (l := front), List.mem_append] at inside
    refine inside.resolve_left fun skipped => ?_
    simp [List.mem_takeWhile_imp skipped] at visible
  exact List.mem_reverse.mpr (kept (List.mem_reverse.mpr (kept member)))

theorem not_blank_of_head?_trim (first : (trim text).head? = some c) : isBlank c = false := by
  obtain ⟨rest, whole⟩ := trim_isPrefix text
  have start : (text.dropWhile isBlank).head? = some c := by
    change (trimStart text).head? = some c
    rw [← whole, List.head?_append, first, Option.some_or]
  have stopped := List.head?_dropWhile_not isBlank text
  simpa [start] using stopped

theorem not_blank_of_getLast?_trim (last : (trim text).getLast? = some c) : isBlank c = false := by
  have start : ((trimStart text).reverse.dropWhile isBlank).head? = some c := by
    rw [← List.getLast?_reverse]
    exact last
  have stopped := List.head?_dropWhile_not isBlank (trimStart text).reverse
  simpa [start] using stopped

@[simp] theorem trim_trim (text : List Char) : trim (trim text) = trim text := by
  have start : trimStart (trim text) = trim text := by
    cases kept : trim text with
    | nil => rfl
    | cons c rest => simp [trimStart, not_blank_of_head?_trim (show (trim text).head? = some c by simp [kept])]
  rw [trim, start, trim, trimEnd_eq_rdropWhile, trimEnd_eq_rdropWhile, List.rdropWhile_idempotent]

theorem trim_cons_blank (blank : isBlank c = true) (text : List Char) : trim (c :: text) = trim text := by
  simp [trim, trimStart, blank]

theorem trim_of_no_blank (visible : ∀ c ∈ text, isBlank c = false) : trim text = text := by
  have start : trimStart text = text := by
    cases text with
    | nil => rfl
    | cons c rest => exact List.dropWhile_cons_of_neg (by simp [visible c List.mem_cons_self])
  have stop : text.rdropWhile isBlank = text :=
    List.rdropWhile_eq_self_iff.mpr fun filled => by simp [visible _ (List.getLast_mem filled)]
  rw [trim, start, trimEnd_eq_rdropWhile, stop]

theorem trim_eq_nil_iff : trim text = [] ↔ ∀ c ∈ text, isBlank c = true := by
  constructor
  · intro none
    rw [trim, trimEnd_eq_rdropWhile, List.rdropWhile_eq_nil_iff] at none
    cases start : trimStart text with
    | nil => exact List.dropWhile_eq_nil_iff.mp start
    | cons c rest =>
      have first : (text.dropWhile isBlank).head? = some c := congrArg List.head? start
      have stopped := List.head?_dropWhile_not isBlank text
      simp [first, none c (by simp [start])] at stopped
  · intro all
    rw [trim, trimStart, List.dropWhile_eq_nil_iff.mpr all]
    rfl

/-! ### Lines -/

theorem linesOfPieces_append (some : more ≠ []) : linesOfPieces (pieces ++ more) =
    pieces.map dropReturn ++ linesOfPieces more := by
  induction pieces with
  | nil => rfl
  | cons first rest ih =>
    obtain ⟨second, others, shape⟩ := List.exists_cons_of_ne_nil (List.append_ne_nil_of_right_ne_nil rest some)
    rw [List.cons_append, shape, linesOfPieces, ← shape, ih]
    rfl

theorem lines_append (before after : List Char) :
    lines (before ++ '\n' :: after) = (splitOn '\n' before).map dropReturn ++ lines after := by
  rw [lines, splitOn_append, linesOfPieces_append (splitOn_ne_nil _ _)]
  rfl

theorem dropReturn_isPrefix (line : List Char) : dropReturn line <+: line := by
  unfold dropReturn
  cases cut : dropSuffix? ['\r'] line with
  | none => exact List.prefix_refl line
  | some before =>
    rw [dropSuffix?_eq_some_iff.mp cut]
    exact List.prefix_append _ _

theorem dropReturn_of_getLast? (last : line.getLast? ≠ some '\r') : dropReturn line = line := by
  unfold dropReturn
  cases cut : dropSuffix? ['\r'] line with
  | none => rfl
  | some before =>
    rw [dropSuffix?_eq_some_iff.mp cut] at last
    simp at last

theorem exists_piece_of_mem_linesOfPieces (member : line ∈ linesOfPieces pieces) :
    ∃ piece ∈ pieces, line <+: piece := by
  induction pieces with
  | nil => cases member
  | cons first rest ih =>
    cases rest with
    | nil =>
      unfold linesOfPieces at member
      split at member
      · cases member
      · exact ⟨first, List.mem_cons_self, List.mem_singleton.mp member ▸ List.prefix_refl line⟩
    | cons second rest =>
      rcases List.mem_cons.mp member with rfl | further
      · exact ⟨first, List.mem_cons_self, dropReturn_isPrefix first⟩
      · obtain ⟨piece, inside, start⟩ := ih further
        exact ⟨piece, List.mem_cons_of_mem first inside, start⟩

theorem not_mem_of_mem_lines (member : line ∈ lines text) : '\n' ∉ line := by
  obtain ⟨piece, inside, start⟩ := exists_piece_of_mem_linesOfPieces member
  exact fun feed => not_mem_of_mem_splitOn inside (start.subset feed)

theorem mem_of_mem_lines (member : line ∈ lines text) (inside : c ∈ line) : c ∈ text := by
  obtain ⟨piece, among, start⟩ := exists_piece_of_mem_linesOfPieces member
  exact mem_of_mem_splitOn among (start.subset inside)

theorem lines_append_of_ended (ended : before = [] ∨ before.getLast? = some '\n') (after : List Char) :
    lines (before ++ after) = lines before ++ lines after := by
  rcases ended with rfl | last
  · rfl
  · obtain ⟨front, rfl⟩ := List.getLast?_eq_some_iff.mp last
    rw [List.append_assoc, List.singleton_append, lines_append, lines_append, List.append_assoc]
    rfl

theorem lines_flatMap {written : List (List Char)} (clean : ∀ line ∈ written, '\n' ∉ line ∧ line.getLast? ≠ some '\r') :
    lines (written.flatMap (· ++ ['\n'])) = written := by
  induction written with
  | nil => rfl
  | cons line rest ih =>
    obtain ⟨⟨single, last⟩, others⟩ := List.forall_mem_cons.mp clean
    rw [List.flatMap_cons, List.append_assoc, List.singleton_append, lines_append, splitOn_of_not_mem single, ih others]
    simp [dropReturn_of_getLast? last]

end WheelInstaller.Text
