import WheelInstaller.Proofs.Path.Spelling

/-! Which recorded paths are accepted. That is a matter of their text alone: where a path is accepted at all, it
leads below every root, by the names that its segments give and by nothing else. -/

namespace WheelInstaller.RecordedPath

/-- Both slashes end a segment. -/
def separates (c : Char) : Bool :=
  c == '/' || c == '\\'

/-- What the text of a recorded path has to be. -/
structure Acceptable (recorded : String) : Prop where
  clean : '\x00' ∉ recorded.toList
  relative : ∀ c ∈ recorded.toList.head?, separates c = false
  driveless : ∀ letter rest, recorded.toList = letter :: ':' :: rest → letter.isAlpha = false
  forward : ['.', '.'] ∉ recorded.toList.splitOnP separates
  named : ∃ segment ∈ recorded.toList.splitOnP separates, segment ≠ [] ∧ segment ≠ ['.']

theorem segments_eq (recorded : List Char) : segments recorded = recorded.splitOnP separates := by
  unfold segments
  induction recorded with
  | nil => rfl
  | cons c rest ih =>
    rw [List.splitOnP_cons_eq_if_modifyHead, ← ih]
    by_cases slash : c = '/' ∨ c = '\\'
    · rcases slash with rfl | rfl <;> rfl
    · rw [not_or] at slash
      have whole : separates c = false := by simp [separates, slash]
      obtain ⟨first, others, pieces⟩ := List.exists_cons_of_ne_nil (Text.splitOn_ne_nil '/' (unify rest))
      have kept : unify (c :: rest) = c :: unify rest := by simp [unify, slash]
      rw [kept, Text.splitOn, if_neg slash.1, pieces, whole]
      rfl

theorem head?_unify (recorded : List Char) :
    (unify recorded).head? ≠ some '/' ↔ ∀ c ∈ recorded.head?, separates c = false := by
  cases recorded with
  | nil => simp [unify]
  | cons c rest =>
    by_cases back : c = '\\'
    · simp [unify, separates, back]
    · simp [unify, separates, back]

theorem hasDrive_unify (recorded : List Char) :
    hasDrive (unify recorded) = false ↔ ∀ letter rest, recorded = letter :: ':' :: rest → letter.isAlpha = false := by
  match recorded with
  | [] => simp [unify, hasDrive]
  | [c] => simp [unify, hasDrive]
  | c :: second :: rest =>
    by_cases colon : second = ':'
    · subst colon
      have same : (if c = '\\' then '/' else c).isAlpha = c.isAlpha := by
        split
        next back => subst back; decide
        next => rfl
      simp only [unify, List.map_cons, Char.reduceEq, if_false, hasDrive, same]
      constructor
      · rintro letterless letter others shape
        cases shape
        exact letterless
      · intro letterless
        exact letterless c rest rfl
    · have other : (if second = '\\' then '/' else second) ≠ ':' := by
        split
        · decide
        · exact colon
      constructor
      · rintro - letter others shape
        cases shape
        exact absurd rfl colon
      · intro
        simp only [unify, List.map_cons]
        unfold hasDrive
        split
        next shape => exact absurd (List.cons.inj (List.cons.inj shape).2).1 other
        next => rfl

theorem check_iff (recorded : String) : (∃ kept, check recorded.toList = .ok kept) ↔ Acceptable recorded := by
  simp only [check_eq_ok, head?_unify, hasDrive_unify, segments_eq]
  have named : keptSegments recorded.toList ≠ [] ↔
      ∃ segment ∈ recorded.toList.splitOnP separates, segment ≠ [] ∧ segment ≠ ['.'] := by
    simp [keptSegments, segments_eq, isKept]
  constructor
  · rintro ⟨kept, clean, relative, driveless, forward, filled, -⟩
    exact ⟨clean, relative, driveless, forward, named.mp filled⟩
  · rintro ⟨clean, relative, driveless, forward, filled⟩
    exact ⟨_, clean, relative, driveless, forward, named.mpr filled, rfl⟩

theorem place_iff {root : Path} {recorded : String} : (∃ placed, place root recorded = .ok placed) ↔
    Acceptable recorded := by
  simp only [place_eq_ok, exists_and_left, exists_eq, and_true]
  exact check_iff recorded

theorem refusal_of_place {root : Path} {recorded : String} {error : EscapeError}
    (refused : place root recorded = .error error) :
    check recorded.toList = .error error.refusal := by
  rw [place_eq] at refused
  split at refused
  next refusal checked =>
    cases refused
    exact checked
  next => cases refused

theorem check_ne_error {recorded : List Char} :
    check recorded ≠ .error .unnamedStep ∧ check recorded ≠ .error .outside := by
  unfold check
  constructor <;> repeat' split
  all_goals simp

/-- Whether a path is accepted is told by its segments and its first two letters, and where it goes by the segments
that name something. -/
theorem place_exactly (recorded : String) :
    names recorded = ((recorded.toList.splitOnP separates).filter fun segment => segment ≠ [] ∧
      segment ≠ ['.']).map String.ofList ∧
      (∀ root, (∃ placed, place root recorded = .ok placed) ↔ Acceptable recorded) ∧
      (∀ root placed, place root recorded = .ok placed →
        placed.relative = Path.origin.under (names recorded) ∧ placed.relative.components = (names recorded).map .name ∧
          placed.destination.components = root.components ++ (names recorded).map .name ∧
          ∀ other also, place root other = .ok also →
            (placed.destination.same also.destination = true ↔ names recorded = names other)) ∧
      ∀ root error, place root recorded = .error error → error.refusal ≠ .unnamedStep ∧ error.refusal ≠ .outside := by
  refine ⟨?_, fun root => place_iff, fun root placed accepted => ?_, fun root error refused => ?_⟩
  · rw [names, keptSegments, segments_eq]
    congr 1
    apply List.filter_congr
    intro segment _
    rw [Bool.eq_iff_iff]
    simp [isKept]
  · obtain ⟨filled, proper, relative, below⟩ := accepted_of_place accepted
    refine ⟨?_, relative, below, fun other also accepted => ?_⟩
    · obtain ⟨-, rfl⟩ := place_eq_ok.mp accepted
      exact relative_eq filled proper
    · have beside := (accepted_of_place accepted).destination
      simp only [Path.same, decide_eq_true_eq]
      constructor
      · intro same
        exact below.unique (same.trans beside)
      · intro same
        rw [same] at below
        exact Eq.trans below beside.symm
  · have checked := refusal_of_place refused
    constructor
    · intro same
      exact check_ne_error.1 (same ▸ checked)
    · intro same
      exact check_ne_error.2 (same ▸ checked)

/-- A path with both slashes and segments to drop, below a root that goes up and down. -/
theorem place_exactly_mixed :
    let recorded := "./pkg\\sub//m.py"
    let root : Path := ⟨"base/../x"⟩
    let placed : PlacedPath := ⟨recorded, ⟨"pkg/sub/m.py"⟩, ⟨"base/../x/pkg/sub/m.py"⟩⟩
    place root recorded = .ok placed ∧ names recorded = ["pkg", "sub", "m.py"] ∧
      placed.destination.components = root.components ++ (names recorded).map .name := by
  intro recorded root placed
  have accepted : place root recorded = .ok placed := by decide +kernel
  exact ⟨accepted, by decide +kernel, ((place_exactly recorded).2.2.1 root placed accepted).2.2.1⟩

/-! ### Other spellings

What is dropped from a path, and which slash separates its segments, makes no difference to where it goes. It can only
hide that the path starts with a drive.
-/

variable {recorded other : String} {segment : List Char}

theorem hasDrive_unify_eq (text : List Char) : hasDrive (unify text) = hasDrive text := by
  rw [Bool.eq_iff_iff, ← not_iff_not, Bool.not_eq_true, Bool.not_eq_true, hasDrive_unify]
  unfold hasDrive
  split
  next letter rest => simp
  next others =>
    simp only [iff_true]
    intro letter rest shape
    exact absurd shape (others letter rest)

theorem head?_unify_iff (text : List Char) : (unify text).head? = some '/' ↔ text.head?.any separates = true := by
  rw [← not_iff_not, ← ne_eq, head?_unify]
  cases text.head? <;> simp

theorem not_mem_of_mem_segments {text : List Char} (member : segment ∈ segments text) : '\\' ∉ segment := by
  intro inside
  obtain ⟨c, -, same⟩ := List.mem_map.mp (Text.mem_of_mem_splitOn member inside)
  split at same
  · cases same
  next other => exact other same

theorem unify_eq_self {text : List Char} (clean : '\\' ∉ text) : unify text = text := by
  unfold unify
  conv_rhs => rw [← List.map_id text]
  refine List.map_congr_left fun c member => ?_
  have other : c ≠ '\\' := fun same => clean (same ▸ member)
  rw [if_neg other, id]

/-- A letter that separates nothing is in a segment that is kept, unless that is a dot. -/
theorem exists_kept_of_mem {text : List Char} {c : Char} (member : c ∈ text) (whole : separates c = false)
    (named : c ≠ '.') :
    ∃ segment ∈ keptSegments text, c ∈ segment := by
  simp only [separates, Bool.or_eq_false_iff, beq_eq_false_iff_ne] at whole
  have inside : c ∈ unify text := List.mem_map.mpr ⟨c, member, if_neg whole.2⟩
  rw [← Text.joinWith_splitOn '/' (unify text)] at inside
  obtain ⟨segment, found, inside⟩ := (Text.mem_of_mem_joinWith inside).resolve_left whole.1
  refine ⟨segment, List.mem_filter.mpr ⟨found, ?_⟩, inside⟩
  have filled : segment ≠ [] := List.ne_nil_of_mem inside
  have more : segment ≠ ['.'] := by
    rintro rfl
    exact named (List.mem_singleton.mp inside)
  simp [isKept, filled, more]

theorem keptSegments_of_names (same : names other = names recorded) :
    keptSegments other.toList = keptSegments recorded.toList :=
  List.map_injective_iff.mpr (fun _ _ => String.ofList_injective) same

theorem check_respelled {kept : List (List Char)} (checked : check recorded.toList = .ok kept)
    (same : names other = names recorded) :
    check other.toList = if other.toList.head?.any separates then .error .absolute
      else if hasDrive other.toList then .error .drive else .ok kept := by
  obtain ⟨clean, -, -, forward, filled, rfl⟩ := check_eq_ok.mp checked
  have segments_eq := keptSegments_of_names same
  have clean : '\x00' ∉ other.toList := by
    intro nul
    obtain ⟨segment, found, inside⟩ := exists_kept_of_mem nul (by decide) (by decide)
    rw [segments_eq] at found
    have there := Text.mem_of_mem_splitOn (List.mem_filter.mp found).1 inside
    obtain ⟨c, member, turned⟩ := List.mem_map.mp there
    split at turned
    · cases turned
    · exact clean (turned ▸ member)
  have forward : ['.', '.'] ∉ segments other.toList := by
    intro upward
    have found : ['.', '.'] ∈ keptSegments other.toList := List.mem_filter.mpr ⟨upward, by decide⟩
    rw [segments_eq] at found
    exact forward (List.mem_filter.mp found).1
  rw [← segments_eq] at filled ⊢
  unfold check
  simp only [head?_unify_iff, hasDrive_unify_eq, List.contains_iff_mem, List.isEmpty_iff, clean,
    forward, filled, if_false]

theorem place_respelled {root : Path} {placed : PlacedPath} (accepted : place root recorded = .ok placed)
    (same : names other = names recorded) :
    place root other = if other.toList.head?.any separates then .error ⟨other, .absolute⟩
      else if hasDrive other.toList then .error ⟨other, .drive⟩ else .ok { placed with recorded := other } := by
  obtain ⟨⟨kept, checked⟩, rfl⟩ := place_eq_ok.mp accepted
  have spelled : relative other = relative recorded := by
    unfold relative
    rw [keptSegments_of_names same]
  rw [place_eq, check_respelled checked same, spelled]
  by_cases absolute : other.toList.head?.any separates = true
  · rw [if_pos absolute, if_pos absolute]
  · rw [if_neg absolute, if_neg absolute]
    by_cases drive : hasDrive other.toList = true
    · rw [if_pos drive, if_pos drive]
    · rw [if_neg drive, if_neg drive]

/-! The path that is made of the kept segments is one more spelling. -/

theorem segments_relative (filled : keptSegments recorded.toList ≠ []) :
    segments (relative recorded).text.toList = keptSegments recorded.toList := by
  have clean (separator : Char) (never : ∀ segment ∈ segments recorded.toList, separator ∉ segment) :
      ∀ segment ∈ keptSegments recorded.toList, separator ∉ segment :=
    fun segment member => never segment (List.mem_filter.mp member).1
  have forward : '\\' ∉ Text.joinWith '/' (keptSegments recorded.toList) := by
    intro back
    obtain ⟨segment, member, inside⟩ := (Text.mem_of_mem_joinWith back).resolve_left (by decide)
    exact clean '\\' (fun _ => not_mem_of_mem_segments) segment member inside
  unfold segments relative
  rw [String.toList_ofList, unify_eq_self forward]
  exact Text.splitOn_joinWith filled (clean '/' fun _ => Text.not_mem_of_mem_splitOn)

theorem names_relative (filled : keptSegments recorded.toList ≠ []) :
    names (relative recorded).text = names recorded := by
  unfold names
  rw [keptSegments, segments_relative filled, keptSegments, List.filter_filter]
  simp

theorem hasDrive_joinWith {first : List Char} (filled : first ≠ []) (rest : List (List Char)) :
    hasDrive (Text.joinWith '/' (first :: rest)) = hasDrive first := by
  match first, filled with
  | [letter], _ => cases rest <;> simp [Text.joinWith, hasDrive]
  | letter :: second :: more, _ =>
    cases rest with
    | nil => rfl
    | cons => by_cases colon : second = ':' <;> simp [Text.joinWith, hasDrive, colon]

theorem hasDrive_relative (driveless : hasDrive recorded.toList = false)
    (drive : hasDrive (relative recorded).text.toList = true) :
    ∃ dropped rest, segments recorded.toList = dropped :: rest ∧ isKept dropped = false := by
  obtain ⟨first, rest, pieces⟩ := List.exists_cons_of_ne_nil (Text.splitOn_ne_nil '/' (unify recorded.toList))
  refine ⟨first, rest, pieces, ?_⟩
  by_contra kept
  rw [Bool.not_eq_false] at kept
  have filled : first ≠ [] := by
    rintro rfl
    cases kept
  have same : keptSegments recorded.toList = first :: rest.filter isKept := by
    rw [keptSegments, segments, pieces, List.filter_cons_of_pos kept]
  rw [relative, String.toList_ofList, same, hasDrive_joinWith filled, ← hasDrive_joinWith filled rest, ← pieces,
    Text.joinWith_splitOn, hasDrive_unify_eq, driveless] at drive
  cases drive

/-- However an accepted path is spelled, it is accepted again and goes to the same place, unless it then starts with a
slash or with a drive. The relative path that it was given never starts with a slash, and with a drive only if the
recorded one has a segment in front of that which is dropped. -/
theorem place_again {root : Path} {recorded : String} {placed : PlacedPath}
    (accepted : place root recorded = .ok placed) :
    (place root placed.relative.text = if hasDrive placed.relative.text.toList
      then .error ⟨placed.relative.text, .drive⟩
      else .ok { placed with recorded := placed.relative.text }) ∧
    (hasDrive placed.relative.text.toList = true →
      ∃ dropped rest, segments recorded.toList = dropped :: rest ∧ isKept dropped = false) ∧
    ∀ other, names other = names recorded → place root other =
      if other.toList.head?.any separates then .error ⟨other, .absolute⟩
      else if hasDrive other.toList then .error ⟨other, .drive⟩ else .ok { placed with recorded := other } := by
  obtain ⟨⟨kept, checked⟩, made⟩ := place_eq_ok.mp accepted
  obtain ⟨-, -, driveless, -, filled, -⟩ := check_eq_ok.mp checked
  have own : placed.relative = relative recorded := by rw [made]
  have open_ : (relative recorded).text.toList.head?.any separates = false := by
    rw [← Bool.not_eq_true, ← head?_unify_iff]
    have pieces := segments_relative filled
    intro slash
    obtain ⟨rest, shape⟩ := List.head?_eq_some_iff.mp slash
    rw [segments, shape, Text.splitOn, if_pos rfl] at pieces
    have bare : [] ∈ keptSegments recorded.toList := by simp [← pieces]
    cases (List.mem_filter.mp bare).2
  refine ⟨?_, ?_, fun other same => place_respelled accepted same⟩
  · rw [place_respelled accepted (own ▸ names_relative filled), own, open_]
    exact if_neg Bool.false_ne_true
  · rw [own]
    exact hasDrive_relative (hasDrive_unify_eq _ ▸ driveless)

/-- A path with both slashes and segments to drop, and one with a drive behind a dot. -/
theorem place_again_respelled :
    let root : Path := ⟨"base/../x"⟩
    let placed : PlacedPath := ⟨"./pkg\\sub//m.py", ⟨"pkg/sub/m.py"⟩, ⟨"base/../x/pkg/sub/m.py"⟩⟩
    let hidden : PlacedPath := ⟨"./C:/m.py", ⟨"C:/m.py"⟩, ⟨"base/../x/C:/m.py"⟩⟩
    (place root "./pkg\\sub//m.py" = .ok placed ∧
      place root "pkg/sub/m.py" = .ok { placed with recorded := "pkg/sub/m.py" }) ∧
      place root "./C:/m.py" = .ok hidden ∧ place root "C:/m.py" = .error ⟨"C:/m.py", .drive⟩ := by
  intro root placed hidden
  have accepted : place root "./pkg\\sub//m.py" = .ok placed := by decide +kernel
  have also : place root "./C:/m.py" = .ok hidden := by decide +kernel
  have plain : hasDrive placed.relative.text.toList = false := by decide +kernel
  have drive : hasDrive hidden.relative.text.toList = true := by decide +kernel
  refine ⟨⟨accepted, ?_⟩, also, ?_⟩
  · exact (place_again accepted).1.trans (if_neg (Bool.eq_false_iff.mp plain))
  · exact (place_again also).1.trans (if_pos drive)

end WheelInstaller.RecordedPath
