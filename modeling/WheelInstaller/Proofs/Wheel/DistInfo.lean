import Mathlib.Data.List.SplitBy
import WheelInstaller.Proofs.Ordered
import WheelInstaller.Proofs.Wheel.FileName
import WheelInstaller.Wheel.Basic

/-! Metadata directories and the names in them. A name is normalized run by run, and what is normalized beforehand
makes no difference, even if a run is cut by that; so directories that stand for the same distribution are an
equivalence, and a directory may have the name as the file name spells it. Of several directories in one wheel that
agree with the file name the first in order is taken: a directory that is spelled just like it loses to one that sorts
before it. -/

namespace WheelInstaller

variable {previous : Bool} {text run front back : List Char} {pieces : List (List Char)} {c : Char}

/-- The longest runs of separators, and the longest runs of anything else between them. -/
def nameRuns (text : List Char) : List (List Char) :=
  text.splitBy fun first second => isNameSeparator first == isNameSeparator second

/-- A run with one underscore for all of its separators. -/
def collapseRun (run : List Char) : List Char :=
  if run.all isNameSeparator then ['_'] else run

/-! ### Collapsing text -/

/-- Whether a separator comes last, after what came before the text. -/
def endsInSeparator (previous : Bool) (text : List Char) : Bool :=
  (text.getLast?.map isNameSeparator).getD previous

theorem endsInSeparator_cons : endsInSeparator previous (c :: text) = endsInSeparator (isNameSeparator c) text := by
  cases text with
  | nil => rfl
  | cons next rest => simp [endsInSeparator, List.getLast?_cons]

theorem collapseFrom_separator (separator : isNameSeparator c = true) :
    collapseFrom previous (c :: text) = (if previous then [] else ['_']) ++ collapseFrom true text := by
  cases previous <;> simp [collapseFrom, separator]

theorem collapseFrom_other (other : isNameSeparator c = false) : collapseFrom previous (c :: text) = c ::
    collapseFrom false text := by
  simp [collapseFrom, other]

theorem collapseFrom_append :
    collapseFrom previous (front ++ back) = collapseFrom previous front ++ collapseFrom
      (endsInSeparator previous front) back := by
  induction front generalizing previous with
  | nil => rfl
  | cons c rest ih =>
    rw [List.cons_append, endsInSeparator_cons]
    cases separator : isNameSeparator c with
    | true => rw [collapseFrom_separator separator, collapseFrom_separator separator, ih, List.append_assoc]
    | false => rw [collapseFrom_other separator, collapseFrom_other separator, ih, List.cons_append]

theorem isNameSeparator_underscore : isNameSeparator '_' = true := rfl

theorem endsInSeparator_collapseFrom : endsInSeparator previous (collapseFrom previous text) =
    endsInSeparator previous text := by
  induction text generalizing previous with
  | nil => rfl
  | cons c rest ih =>
    rw [endsInSeparator_cons]
    cases separator : isNameSeparator c with
    | true =>
      rw [collapseFrom_separator separator]
      cases previous with
      | true => exact ih
      | false =>
        change endsInSeparator false ('_' :: collapseFrom true rest) = _
        rw [endsInSeparator_cons, isNameSeparator_underscore, ih]
    | false => rw [collapseFrom_other separator, endsInSeparator_cons, separator, ih]

theorem collapseFrom_collapseFrom : collapseFrom previous (collapseFrom previous text) =
    collapseFrom previous text := by
  induction text generalizing previous with
  | nil => rfl
  | cons c rest ih =>
    cases separator : isNameSeparator c with
    | true =>
      rw [collapseFrom_separator separator]
      cases previous with
      | true => exact ih
      | false =>
        change collapseFrom false ('_' :: collapseFrom true rest) = '_' :: collapseFrom true rest
        rw [collapseFrom_separator isNameSeparator_underscore, ih]
        rfl
    | false => rw [collapseFrom_other separator, collapseFrom_other separator, ih]

theorem collapseFrom_of_separators (filled : run ≠ []) (separators : run.all isNameSeparator = true) :
    collapseFrom false run = ['_'] := by
  have rest (others : List Char) (all : others.all isNameSeparator = true) : collapseFrom true others = [] := by
    induction others with
    | nil => rfl
    | cons c others ih =>
      rw [List.all_cons, Bool.and_eq_true] at all
      rw [collapseFrom_separator all.1, ih all.2]
      rfl
  obtain ⟨c, others, rfl⟩ := List.exists_cons_of_ne_nil filled
  rw [List.all_cons, Bool.and_eq_true] at separators
  rw [collapseFrom_separator separators.1, rest others separators.2]
  rfl

theorem collapseFrom_of_others (others : ∀ c ∈ run, isNameSeparator c = false) : collapseFrom previous run = run := by
  induction run generalizing previous with
  | nil => rfl
  | cons c rest ih =>
    rw [collapseFrom_other (others c List.mem_cons_self), ih fun c member => others c (List.mem_cons_of_mem _ member)]

/-! ### Collapsing run by run -/

theorem kinds_of_alike (alike : run.IsChain fun first second => isNameSeparator first == isNameSeparator second) :
    run.all isNameSeparator = true ∨ ∀ c ∈ run, isNameSeparator c = false := by
  induction run with
  | nil => exact .inl rfl
  | cons c rest ih =>
    cases rest with
    | nil =>
      cases separator : isNameSeparator c with
      | true => exact .inl (by simp [separator])
      | false => exact .inr (by simp [separator])
    | cons next rest =>
      obtain ⟨same, further⟩ := List.isChain_cons_cons.mp alike
      rw [beq_iff_eq] at same
      rcases ih further with all | none
      · left
        rw [List.all_cons, same, all, Bool.and_true]
        exact (Bool.and_eq_true_iff.mp all).1
      · right
        exact List.forall_mem_cons.mpr ⟨same.trans (none next List.mem_cons_self), none⟩

theorem collapseFrom_run (filled : run ≠ [])
    (alike : run.IsChain fun first second => isNameSeparator first == isNameSeparator second)
    (start : previous = true → isNameSeparator (run.head filled) = false) :
    collapseFrom previous run = collapseRun run := by
  unfold collapseRun
  rcases kinds_of_alike alike with all | none
  · have first : isNameSeparator (run.head filled) = true := List.all_eq_true.mp all _ (List.head_mem filled)
    cases previous with
    | true => exact absurd (first.symm.trans (start rfl)) (by decide)
    | false => rw [if_pos all, collapseFrom_of_separators filled all]
  · have mixed : ¬ run.all isNameSeparator = true := by
      intro all
      have first := List.all_eq_true.mp all _ (List.head_mem filled)
      exact absurd (first.symm.trans (none _ (List.head_mem filled))) (by decide)
    rw [if_neg mixed, collapseFrom_of_others none]

theorem collapseFrom_flatten (filled : [] ∉ pieces)
    (alike : ∀ piece ∈ pieces, piece.IsChain fun first second => isNameSeparator first == isNameSeparator second)
    (apart : pieces.IsChain fun before after =>
      ∃ some more, (isNameSeparator (before.getLast some) == isNameSeparator (after.head more)) = false)
    (start : previous = true → ∀ c ∈ pieces.flatten.head?, isNameSeparator c = false) :
    collapseFrom previous pieces.flatten = pieces.flatMap collapseRun := by
  induction pieces generalizing previous with
  | nil => rfl
  | cons piece rest ih =>
    rw [List.mem_cons, not_or] at filled
    have some : piece ≠ [] := Ne.symm filled.1
    obtain ⟨here, further⟩ := List.forall_mem_cons.mp alike
    obtain ⟨next, apart⟩ := List.isChain_cons.mp apart
    have first : previous = true → isNameSeparator (piece.head some) = false := fun after =>
      start after _ (by rw [List.flatten_cons, List.head?_append_of_ne_nil _ some, List.head?_eq_some_head some]; rfl)
    have ends : endsInSeparator previous piece = isNameSeparator (piece.getLast some) := by
      simp [endsInSeparator, List.getLast?_eq_some_getLast some]
    rw [List.flatten_cons, collapseFrom_append, collapseFrom_run some here first,
      ih filled.2 further apart, List.flatMap_cons]
    -- The next run is of the other kind.
    intro separator c member
    cases rest with
    | nil => cases member
    | cons following rest =>
      obtain ⟨_, more, differs⟩ := next following rfl
      rw [List.flatten_cons, List.head?_append_of_ne_nil _ more, List.head?_eq_some_head more,
        Option.mem_some_iff] at member
      rw [← member]
      simpa [← ends, separator] using differs

theorem collapseFrom_eq_runs (text : List Char) : collapseFrom false text = (nameRuns text).flatMap collapseRun := by
  have whole : (nameRuns text).flatten = text := List.flatten_splitBy _ _
  have collapsed : collapseFrom false (nameRuns text).flatten = (nameRuns text).flatMap collapseRun :=
    collapseFrom_flatten (List.nil_notMem_splitBy _ _) (fun _ => List.isChain_of_mem_splitBy)
      (List.isChain_getLast_head_splitBy (fun first second => isNameSeparator first == isNameSeparator second) text)
      nofun
  rwa [whole] at collapsed

/-! ### Names that are normalized -/

theorem toList_normalizeName (name : String) : (normalizeName name).toList = collapseFrom false name.toList :=
  String.toList_ofList

/-- The front of a name may be normalized beforehand, wherever a run of separators is cut by that. -/
theorem normalizeName_append (front back : String) : normalizeName (normalizeName front ++ back) =
    normalizeName (front ++ back) := by
  apply String.toList_inj.mp
  simp only [toList_normalizeName, String.toList_append, collapseFrom_append, collapseFrom_collapseFrom,
    endsInSeparator_collapseFrom]

theorem normalizeName_normalizeName (name : String) : normalizeName (normalizeName name) = normalizeName name := by
  simpa using normalizeName_append name ""

theorem sameDistInfo_iff {first second : String} :
    sameDistInfo first second = true ↔ (normalizeName first).toList.map Char.toLower =
    (normalizeName second).toList.map Char.toLower := by
  simp [sameDistInfo, Text.sameIgnoringCase]

theorem equivalence_sameDistInfo : Equivalence fun first second => sameDistInfo first second = true where
  refl _ := sameDistInfo_iff.mpr rfl
  symm same := sameDistInfo_iff.mpr (sameDistInfo_iff.mp same).symm
  trans first second := sameDistInfo_iff.mpr ((sameDistInfo_iff.mp first).trans (sameDistInfo_iff.mp second))

theorem sameDistInfo_of_normalizeName_eq {first second : String} (same : normalizeName first = normalizeName second) :
    sameDistInfo first second = true :=
  sameDistInfo_iff.mpr (by rw [same])

namespace WheelName

theorem exists_render_eq (name : WheelName) : ∃ tags : String, name.render = s!"{name.name}-{name.version}-{tags}" := by
  obtain ⟨first, version, build, python, abi, platform⟩ := name
  cases build with
  | none => exact ⟨s!"{python}-{abi}-{platform}.whl", by simp [render, toString, String.append_assoc]⟩
  | some tag => exact ⟨s!"{tag}-{python}-{abi}-{platform}.whl", by simp [render, toString, String.append_assoc]⟩

theorem sameDistInfo_distInfo (name : WheelName) :
    sameDistInfo s!"{name.name}-{name.version}.dist-info" name.distInfo = true := by
  have same := normalizeName_append name.name s!"-{name.version}.dist-info"
  refine sameDistInfo_of_normalizeName_eq ?_
  simpa [distInfo, toString, String.append_assoc] using same.symm

end WheelName

/-- Normalizing a name replaces every run of separators, and it agrees with putting texts together. So it tells which
directories stand for the same distribution, and the one that is spelled like the file name is among them. -/
theorem normalizeName_congruence :
    (∀ name, (normalizeName name).toList = (nameRuns name.toList).flatMap collapseRun) ∧
      (∀ name, normalizeName (normalizeName name) = normalizeName name) ∧
      (∀ front back, normalizeName (normalizeName front ++ back) = normalizeName (front ++ back)) ∧
      (Equivalence fun first second => sameDistInfo first second = true) ∧
      ∀ fileName name, WheelName.parse? fileName = some name →
        (∃ tags : String, fileName = s!"{name.name}-{name.version}-{tags}") ∧
          sameDistInfo s!"{name.name}-{name.version}.dist-info" name.distInfo = true := by
  refine ⟨fun name => ?_, normalizeName_normalizeName, normalizeName_append, equivalence_sameDistInfo,
    fun fileName name read => ?_⟩
  · rw [toList_normalizeName, collapseFrom_eq_runs]
  · obtain ⟨tags, written⟩ := name.exists_render_eq
    exact ⟨⟨tags, (WheelName.parse?_eq_some_iff.mp read).2.symm.trans written⟩, name.sameDistInfo_distInfo⟩

theorem normalizeName_congruence_of_runs :
    WheelName.parse? "My.._Tool-1.0-py3-none-any.whl" = some ⟨"My.._Tool", "1.0", none, "py3", "none", "any"⟩ ∧
      sameDistInfo "My.._Tool-1.0.dist-info" "My_Tool-1.0.dist-info" = true := by
  have read : WheelName.parse? "My.._Tool-1.0-py3-none-any.whl" =
    some ⟨"My.._Tool", "1.0", none, "py3", "none", "any"⟩ := by
    decide +kernel
  exact ⟨read, (normalizeName_congruence.2.2.2.2 _ _ read).2⟩

/-! ### The choice in a wheel -/

namespace Wheel

variable {path : Path} {entries : List Entry} {name : WheelName} {wanted found other : String}

theorem mem_distInfoCandidates : found ∈ distInfoCandidates entries ↔ ∃ entry ∈ entries,
    distInfoOf? entry = some found := by
  unfold distInfoCandidates
  rw [Ordered.mem_ofList, List.mem_filterMap]

theorem sameDistInfo_self (directory : String) : sameDistInfo directory directory = true :=
  equivalence_sameDistInfo.refl directory

/-- The first, in order, of the directories that stand for the same distribution as the wanted one. -/
structure Chosen (entries : List Entry) (wanted found : String) : Prop where
  carried : ∃ entry ∈ entries, distInfoOf? entry = some found
  agrees : sameDistInfo found wanted = true
  first : ∀ entry ∈ entries, ∀ other, distInfoOf? entry = some other → sameDistInfo other wanted = true →
    compare other found ≠ .lt

theorem Chosen.eq_of_chosen (chosen : Chosen entries wanted found)
    (also : Chosen entries wanted other) : found = other := by
  obtain ⟨entry, inside, told⟩ := chosen.carried
  obtain ⟨entry', inside', told'⟩ := also.carried
  have notAfter := chosen.first entry' inside' other told' also.agrees
  have notBefore := also.first entry inside found told chosen.agrees
  cases compared : compare found other with
  | lt => exact absurd compared notBefore
  | eq => exact Std.LawfulEqCmp.eq_of_compare compared
  | gt => exact absurd (Std.OrientedCmp.lt_of_gt compared) notAfter

theorem chosen_of_find?
    (least : (distInfoCandidates entries).find? (fun candidate => sameDistInfo candidate wanted) = some found) :
    Chosen entries wanted found := by
  obtain ⟨agrees, before, after, split, skipped⟩ := List.find?_eq_some_iff_append.mp least
  have member : found ∈ distInfoCandidates entries := List.mem_of_find?_eq_some least
  refine ⟨mem_distInfoCandidates.mp member, agrees, ?_⟩
  intro entry inside other told same less
  have candidate : other ∈ distInfoCandidates entries := mem_distInfoCandidates.mpr ⟨entry, inside, told⟩
  have ascending : (distInfoCandidates entries).Pairwise fun first second => compare first second = .lt :=
    Ordered.ascending_ofList _
  rw [split] at candidate ascending
  rcases List.mem_append.mp candidate with earlier | later
  · have differs : sameDistInfo other wanted = false := by simpa using skipped other earlier
    rw [differs] at same
    cases same
  · rcases List.mem_cons.mp later with rfl | behind
    · have same : compare other other = .eq := Std.ReflCmp.compare_self
      rw [same] at less
      cases less
    · obtain ⟨-, rest, -⟩ := List.pairwise_append.mp ascending
      have greater : compare found other = .lt := (List.pairwise_cons.mp rest).1 other behind
      rw [Std.OrientedCmp.gt_of_lt greater] at less
      cases less

theorem exists_find?_eq_some (carried : ∃ entry ∈ entries, distInfoOf? entry = some wanted) :
    ∃ least, (distInfoCandidates entries).find? (fun candidate => sameDistInfo candidate wanted) = some least := by
  apply Option.isSome_iff_exists.mp
  rw [List.find?_isSome]
  exact ⟨wanted, mem_distInfoCandidates.mpr carried, sameDistInfo_self wanted⟩

theorem findDistInfo_eq_ok_of_chosen (named : WheelName.ofPath? path = some name)
    (carried : ∃ entry ∈ entries, distInfoOf? entry = some name.distInfo)
    (chosen : Chosen entries name.distInfo found) : findDistInfo path entries = .ok found := by
  have member : found ∈ distInfoCandidates entries := mem_distInfoCandidates.mpr chosen.carried
  obtain ⟨least, first⟩ := exists_find?_eq_some carried
  have same : least = found := (chosen_of_find? first).eq_of_chosen chosen
  subst same
  unfold findDistInfo
  split
  next none => simp [none] at member
  next only sole =>
    rw [sole, List.mem_singleton] at member
    rw [member]
  next =>
    rw [named]
    dsimp only
    rw [first]

/-- A wheel that carries the directory its file name spells is read from the first directory that
stands for the same distribution, which is that very one exactly if no other sorts before it. -/
theorem findDistInfo_chooses_first_agreeing (named : WheelName.ofPath? path = some name)
    (carried : ∃ entry ∈ entries, distInfoOf? entry = some name.distInfo) :
    (∃ found, findDistInfo path entries = .ok found ∧ Chosen entries name.distInfo found) ∧
      (findDistInfo path entries = .ok name.distInfo ↔
        ∀ entry ∈ entries, ∀ other, distInfoOf? entry = some other → sameDistInfo other name.distInfo = true →
        compare other name.distInfo ≠ .lt) := by
  obtain ⟨found, least⟩ := exists_find?_eq_some carried
  have chosen : Chosen entries name.distInfo found := chosen_of_find? least
  have read : findDistInfo path entries = .ok found := findDistInfo_eq_ok_of_chosen named carried chosen
  refine ⟨⟨found, read, chosen⟩, ?_, ?_⟩
  · intro spelled
    have same : found = name.distInfo := Except.ok.inj (read.symm.trans spelled)
    subst same
    exact chosen.first
  · intro none
    have spelled : Chosen entries name.distInfo name.distInfo := ⟨carried, sameDistInfo_self name.distInfo, none⟩
    exact findDistInfo_eq_ok_of_chosen named carried spelled

theorem findDistInfo_chooses_first_agreeing_vendored :
    let path : Path := ⟨"wheels/My.Tool-1.0-py3-none-any.whl"⟩
    let entries : List Entry :=
      [⟨0, "vendored-2.0.dist-info/WHEEL", 80, false, none⟩, ⟨1, "my.tool-1.0.dist-info/WHEEL", 80, false, none⟩,
        ⟨2, "My_Tool-1.0.dist-info/WHEEL", 80, false, none⟩, ⟨3, "My_Tool-1.1.dist-info/WHEEL", 80, false, none⟩]
    ∃ name, WheelName.ofPath? path = some name ∧ name.distInfo = "My_Tool-1.0.dist-info" ∧
      (∃ entry ∈ entries, distInfoOf? entry = some name.distInfo) ∧
      findDistInfo path entries = .ok "My_Tool-1.0.dist-info" := by
  intro path entries
  have named : WheelName.ofPath? path = some ⟨"My.Tool", "1.0", none, "py3", "none", "any"⟩ := by decide +kernel
  have spelled : WheelName.distInfo ⟨"My.Tool", "1.0", none, "py3", "none", "any"⟩ = "My_Tool-1.0.dist-info" := by
    decide +kernel
  have carried : ∃ entry ∈ entries,
    distInfoOf? entry = some (WheelName.distInfo ⟨"My.Tool", "1.0", none, "py3", "none", "any"⟩) := by
    decide +kernel
  have taken := (findDistInfo_chooses_first_agreeing named carried).2
  rw [spelled] at taken carried
  refine ⟨_, named, spelled, by rwa [spelled], taken.mpr ?_⟩
  decide +kernel

example :
    sameDistInfo "demo-1-0.dist-info" "demo-1.0.dist-info" = true ∧
    compare "demo-1-0.dist-info" "demo-1.0.dist-info" = .lt := by
  decide +kernel

end Wheel
end WheelInstaller
