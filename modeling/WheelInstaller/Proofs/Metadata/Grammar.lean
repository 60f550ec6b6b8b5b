import WheelInstaller.Proofs.Metadata.Declarations

/-!
Reading entry points accepts exactly the grammatical texts, collects exactly the console scripts
that these declare, and refuses every other text at its first line that does not follow.
-/

namespace WheelInstaller.ConsoleScript

open Text (trim splitOnce)

variable {line group name value : List Char} {before since : List (List Char)} {progress after : Progress} {flaw : Flaw}

/-! ### One line -/

theorem readLine_skipped (skipped : isSkipped line = true) : readLine progress line = .ok progress := by
  simp [readLine, skipped]

theorem readLine_bracket (header : List Char) :
    readLine progress ('[' :: header) = (readGroup ('[' :: header) header).map fun group =>
    { progress with group := some group, names := [] } := by
  simp only [readLine, isSkipped]
  cases readGroup ('[' :: header) header <;> rfl

theorem readLine_plain (significant : isSkipped line = false) (plain : line.head? ≠ some '[') :
    readLine progress line =
      match progress.group with
      | none => .error .outsideGroup
      | some group =>
        match splitOnce '=' line with
        | none => .error (.noEqualsSign (String.ofList line))
        | some (name, value) => readDeclaration progress group (trim name) (trim value) := by
  unfold readLine
  rw [if_neg (by simp [significant])]
  split
  · exact absurd rfl plain
  · rfl

theorem readLine_opens (opens : Opens line group) :
    readLine progress line = .ok { progress with group := some group, names := [] } := by
  obtain ⟨inner, rfl, same⟩ := opens
  rw [readLine_bracket, (readGroup_eq_ok_iff _).mpr ⟨inner, rfl, same⟩]
  rfl

theorem readLine_declares (declared : Declares line name value) (inside : progress.group = some group) :
    readLine progress line = readDeclaration progress group name value := by
  obtain ⟨plain, significant, cut⟩ := declared
  obtain ⟨left, right, found, rfl, rfl⟩ := cutAt_iff.mp cut
  rw [readLine_plain significant plain, inside, found]

theorem readLine_cases (read : readLine progress line = .ok after) :
    isSkipped line = true ∧ after = progress ∨
      (∃ group, Opens line group ∧ after = { progress with group := some group, names := [] }) ∨
      ∃ group name value, progress.group = some group ∧ Declares line name value ∧
      readDeclaration progress group name value = .ok after := by
  cases skipped : isSkipped line with
  | true =>
    rw [readLine_skipped skipped] at read
    cases read
    exact .inl ⟨rfl, rfl⟩
  | false =>
    refine .inr ?_
    by_cases bracket : line.head? = some '['
    · obtain ⟨header, rfl⟩ := List.head?_eq_some_iff.mp bracket
      rw [readLine_bracket] at read
      cases told : readGroup ('[' :: header) header with
      | error flaw =>
        rw [told] at read
        cases read
      | ok group =>
        rw [told] at read
        cases read
        exact .inl ⟨group, (readGroup_eq_ok_iff _).mp told, rfl⟩
    · rw [readLine_plain skipped bracket] at read
      cases inside : progress.group with
      | none =>
        rw [inside] at read
        cases read
      | some group =>
        rw [inside] at read
        cases cut : splitOnce '=' line with
        | none =>
          rw [cut] at read
          cases read
        | some parts =>
          rw [cut] at read
          exact .inr ⟨group, trim parts.1, trim parts.2, rfl,
            ⟨bracket, skipped, cutAt_iff.mpr ⟨parts.1, parts.2, cut, rfl, rfl⟩⟩, read⟩

theorem readDeclaration_eq_ok_iff :
    readDeclaration progress group name value = .ok after ↔
      name ≠ [] ∧ name ∉ progress.names ∧
        ((∃ moduleName object, group = groupName ∧ References value moduleName object ∧
            after = { progress with
              names := name :: progress.names
              scripts := ⟨String.ofList name, String.ofList moduleName, String.ofList object⟩ :: progress.scripts }) ∨
          (group ≠ groupName ∧ value ≠ [] ∧ after = { progress with names := name :: progress.names })) := by
  simp only [← readReference_eq_ok_iff]
  unfold readDeclaration
  by_cases named : name = []
  · simp [named]
  by_cases repeated : name ∈ progress.names
  · simp [named, repeated]
  simp only [List.isEmpty_iff, named, if_false, List.contains_eq_mem, repeated, decide_false, Bool.false_eq_true,
    ne_eq, not_false_eq_true, true_and]
  by_cases scripts : group = groupName
  · rw [if_pos scripts]
    cases told : readReference value with
    | error flaw => simp [scripts, bind, Except.bind]
    | ok parts =>
      simp only [bind, Except.bind, pure, Except.pure, Except.ok.injEq, scripts, true_and,
        not_true, false_and, or_false]
      constructor
      · rintro rfl
        exact ⟨parts.1, parts.2, rfl, rfl⟩
      · rintro ⟨moduleName, object, rfl, rfl⟩
        rfl
  · rw [if_neg scripts]
    by_cases empty : value = []
    · simp [scripts, empty]
    · simp only [empty, if_false, pure, Except.pure, Except.ok.injEq, scripts, false_and, exists_const,
        not_false_eq_true, true_and, false_or]
      exact eq_comm

/-! ### What the lines so far leave -/

/-- The progress tells of these lines what matters for the next one. -/
structure Reached (before : List (List Char)) (progress : Progress) : Prop where
  inside : ∀ group, progress.group = some group → ∃ since, Under before group since ∧
    ∀ name, name ∈ progress.names ↔ ∃ earlier ∈ since, ∃ value, Declares earlier name value
  outside : progress.group = none → ∀ group since, ¬ Under before group since
  grammatical : Grammatical Declares before
  collects : Collects before progress.scripts.reverse

theorem reached_nil : Reached [] {} where
  inside group same := by cases same
  outside _ group since under := by
    obtain ⟨earlier, header, same, -⟩ := under
    exact absurd same (by simp)
  grammatical := grammatical_nil
  collects := .nil

theorem Reached.skipped (reached : Reached before progress) (skipped : isSkipped line = true) :
    Reached (before ++ [line]) progress := by
  have silent (name value : List Char) : ¬ Declares line name value := by
    intro declared
    rw [declared.2.1] at skipped
    cases skipped
  have plain (other : List Char) : ¬ Opens line other := by
    intro opens
    rw [opens.isSkipped] at skipped
    cases skipped
  constructor
  case inside =>
    intro group same
    obtain ⟨since, under, told⟩ := reached.inside group same
    refine ⟨since ++ [line], under.concat plain, ?_⟩
    intro name
    simp [told, or_and_right, exists_or, silent]
  case outside =>
    intro none group since under
    obtain ⟨earlier, -, under⟩ := (under_concat_iff plain).mp under
    exact reached.outside none group earlier under
  case grammatical => exact grammatical_concat_iff.mpr ⟨reached.grammatical, .skipped skipped⟩
  case collects =>
    apply reached.collects.other
    rintro script ⟨since, name, value, moduleName, object, under, declared, -⟩
    exact silent name value declared

theorem Reached.opens (reached : Reached before progress) (opens : Opens line group) :
    Reached (before ++ [line]) { progress with group := some group, names := [] } := by
  constructor
  case inside =>
    intro other same
    cases same
    exact ⟨[], opens.under, by simp⟩
  case outside =>
    intro none
    cases none
  case grammatical => exact grammatical_concat_iff.mpr ⟨reached.grammatical, .header opens⟩
  case collects =>
    apply reached.collects.other
    rintro script ⟨since, name, value, moduleName, object, under, declared, -⟩
    exact opens.not_declares declared

theorem Reached.declares (reached : Reached before progress) (inside : progress.group = some group)
    (declared : Declares line name value)
    (read : readDeclaration progress group name value = .ok after) : Reached (before ++ [line]) after := by
  obtain ⟨since, under, told⟩ := reached.inside group inside
  obtain ⟨named, new, kept⟩ := readDeclaration_eq_ok_iff.mp read
  have plain (other : List Char) : ¬ Opens line other := fun opens => opens.not_declares declared
  have fresh : ∀ earlier ∈ since, ∀ other, ¬ Declares earlier name other := by
    intro earlier member other again
    exact new ((told name).mpr ⟨earlier, member, other, again⟩)
  have grown : after.group = some group ∧ after.names = name :: progress.names := by
    rcases kept with ⟨-, -, -, -, rfl⟩ | ⟨-, -, rfl⟩
    · exact ⟨inside, rfl⟩
    · exact ⟨inside, rfl⟩
  constructor
  case inside =>
    intro other same
    rw [grown.1] at same
    cases same
    refine ⟨since ++ [line], under.concat plain, ?_⟩
    intro other
    have here : (∃ value, Declares line other value) ↔ other = name := by
      constructor
      · rintro ⟨value', again⟩
        exact (again.unique declared).1
      · rintro rfl
        exact ⟨value, declared⟩
    simp [grown.2, told, or_and_right, exists_or, here, or_comm]
  case outside =>
    intro none
    rw [grown.1] at none
    cases none
  case grammatical =>
    refine grammatical_concat_iff.mpr ⟨reached.grammatical, .declaration under declared named fresh ?_ ?_⟩
    · intro scripts
      rcases kept with ⟨moduleName, object, -, references, -⟩ | ⟨different, -⟩
      · exact ⟨moduleName, object, references⟩
      · exact absurd scripts different
    · intro different
      rcases kept with ⟨-, -, scripts, -⟩ | ⟨-, filled, -⟩
      · exact absurd scripts different
      · exact filled
  case collects =>
    rcases kept with ⟨moduleName, object, rfl, references, rfl⟩ | ⟨different, -, rfl⟩
    · rw [List.reverse_cons]
      exact reached.collects.script ⟨since, name, value, moduleName, object, under, declared, references, rfl⟩
    · apply reached.collects.other
      rintro script ⟨since', name', value', moduleName, object, under', -⟩
      exact different (under.unique under').1

theorem Reached.readLine (reached : Reached before progress) (read : readLine progress line = .ok after) :
    Reached (before ++ [line]) after := by
  rcases readLine_cases read with ⟨skipped, rfl⟩ | ⟨group, opens, rfl⟩ | ⟨group, name, value, inside, declared, read⟩
  · exact reached.skipped skipped
  · exact reached.opens opens
  · exact reached.declares inside declared read

/-- A line that may follow is read, so one that is refused may not. -/
theorem Reached.exists_readLine (reached : Reached before progress) (wellFormed : WellFormed Declares before line) :
    ∃ after, ConsoleScript.readLine progress line = .ok after := by
  cases wellFormed with
  | skipped skipped => exact ⟨progress, readLine_skipped skipped⟩
  | header opens => exact ⟨_, readLine_opens opens⟩
  | @declaration group name value since under told named fresh script other =>
    cases inside : progress.group with
    | none => exact absurd under (reached.outside inside group since)
    | some current =>
      obtain ⟨since', under', names⟩ := reached.inside current inside
      obtain ⟨rfl, rfl⟩ := under.unique under'
      have new : name ∉ progress.names := by
        intro member
        obtain ⟨earlier, member, other, again⟩ := (names name).mp member
        exact fresh earlier member other again
      rw [readLine_declares told inside]
      by_cases scripts : group = groupName
      · obtain ⟨moduleName, object, references⟩ := script scripts
        exact ⟨_, readDeclaration_eq_ok_iff.mpr ⟨named, new, .inl ⟨moduleName, object, scripts, references, rfl⟩⟩⟩
      · exact ⟨_, readDeclaration_eq_ok_iff.mpr ⟨named, new, .inr ⟨scripts, other scripts, rfl⟩⟩⟩

/-! ### All lines -/

variable {number : Nat} {lines : List (List Char)} {scripts : List ConsoleScript} {found : LineFlaw}

theorem Reached.readLines_ok (reached : Reached before progress)
    (read : readLines number progress lines = .ok scripts) :
    ∃ final, Reached (before ++ lines.map trim) final ∧ scripts = final.scripts.reverse := by
  induction lines generalizing number before progress with
  | nil =>
    cases read
    exact ⟨progress, by simpa using reached, rfl⟩
  | cons line rest ih =>
    unfold readLines at read
    split at read
    · cases read
    next next told =>
      obtain ⟨final, done, same⟩ := ih (reached.readLine told) read
      exact ⟨final, by simpa using done, same⟩

theorem Reached.readLines_error (reached : Reached before progress)
    (refused : readLines number progress lines = .error found) :
    ∃ front line rest, lines.map trim = front ++ line :: rest ∧ found.line = number + front.length ∧
      Grammatical Declares (before ++ front) ∧ ¬ WellFormed Declares (before ++ front) line ∧
        ∀ others : List (List Char), front ++ [line] <+: others.map trim →
        readLines number progress others = .error found := by
  induction lines generalizing number before progress with
  | nil => cases refused
  | cons line rest ih =>
    unfold readLines at refused
    split at refused
    next flaw told =>
      cases refused
      refine ⟨[], trim line, rest.map trim, rfl, rfl, by simpa using reached.grammatical, ?_, ?_⟩
      · intro wellFormed
        rw [List.append_nil] at wellFormed
        obtain ⟨after, read⟩ := reached.exists_readLine wellFormed
        rw [told] at read
        cases read
      · intro others same
        obtain ⟨first, others, rfl⟩ : ∃ first tail, others = first :: tail := by
          cases others with
          | nil => simp at same
          | cons first tail => exact ⟨first, tail, rfl⟩
        have first : trim line = trim first := by simpa using same
        rw [readLines, ← first, told]
    next next told =>
      obtain ⟨front, bad, tail, split, position, grammatical, bad', same⟩ := ih (reached.readLine told) refused
      refine ⟨trim line :: front, bad,
        tail, by simp [split], by simp [position]; omega, by simpa using grammatical, by simpa using bad', ?_⟩
      intro others alike
      obtain ⟨first, others, rfl⟩ : ∃ first tail, others = first :: tail := by
        cases others with
        | nil => simp at alike
        | cons first tail => exact ⟨first, tail, rfl⟩
      obtain ⟨first, alike⟩ : trim line = trim first ∧ front ++ [bad] <+: others.map trim := by simpa using alike
      rw [readLines, ← first, told]
      exact same others alike

/-- Lines that may follow are passed, whatever comes after them. -/
theorem Reached.readLines_append {front rest : List (List Char)} (reached : Reached before progress) (number : Nat)
    (split : lines.map trim = front ++ rest) (grammatical : Grammatical Declares (before ++ front)) :
    ∃ final others, Reached (before ++ front) final ∧ others.map trim = rest ∧
      readLines number progress lines = readLines (number + front.length) final others := by
  induction front generalizing number before progress lines with
  | nil => exact ⟨progress, lines, by simpa using reached, split, rfl⟩
  | cons line front ih =>
    obtain ⟨first, others, rfl, rfl, tail⟩ := List.map_eq_cons_iff.mp split
    obtain ⟨after, read⟩ := reached.exists_readLine (grammatical before (trim first) front rfl)
    rw [List.append_cons] at grammatical
    obtain ⟨final, left, reached, same, passed⟩ := ih (reached.readLine read) (number + 1) tail grammatical
    refine ⟨final, left, by simpa using reached, same, ?_⟩
    rw [readLines, read]
    dsimp only
    rw [passed, List.length_cons, Nat.add_assoc, Nat.add_comm 1]

/-- The lines of a text, without the white space around them. -/
def trimmedLines (text : String) : List (List Char) :=
  (Text.lines text.toList).map trim

theorem reached_of_parseAll {text : String} (read : parseAll text = .ok scripts) :
    Grammatical Declares (trimmedLines text) ∧ Collects (trimmedLines text) scripts := by
  obtain ⟨final, reached, rfl⟩ := reached_nil.readLines_ok read
  exact ⟨reached.grammatical, reached.collects⟩

/-- Exactly the grammatical texts are read, each to the scripts that it declares, and any other text is
refused at its first line that may not follow, whatever comes after that line. -/
theorem parseAll_reads_grammar (text : String) :
    ((∃ scripts, parseAll text = .ok scripts) ↔ Grammatical Declares (trimmedLines text)) ∧
      (∀ scripts, parseAll text = .ok scripts → Collects (trimmedLines text) scripts) ∧
        ∀ found, parseAll text = .error found →
          ∃ before line after, trimmedLines text = before ++ line :: after ∧ found.line = before.length + 1 ∧
            Grammatical Declares before ∧ ¬ WellFormed Declares before line ∧
              ∀ other, before ++ [line] <+: trimmedLines other → parseAll other = .error found := by
  have refused (found : LineFlaw) (read : parseAll text = .error found) :
      ∃ before line after, trimmedLines text = before ++ line :: after ∧ found.line = before.length + 1 ∧
        Grammatical Declares before ∧ ¬ WellFormed Declares before line ∧
          ∀ other, before ++ [line] <+: trimmedLines other → parseAll other = .error found := by
    obtain ⟨before, line, after, split, position, grammatical, bad, same⟩ := reached_nil.readLines_error read
    rw [Nat.add_comm] at position
    exact ⟨before, line, after, split, position, grammatical, bad, fun other alike =>
      same (Text.lines other.toList) alike⟩
  refine ⟨⟨?_, ?_⟩, fun scripts read => (reached_of_parseAll read).2, refused⟩
  · rintro ⟨scripts, read⟩
    exact (reached_of_parseAll read).1
  · intro grammatical
    cases read : parseAll text with
    | ok scripts => exact ⟨scripts, rfl⟩
    | error found =>
      obtain ⟨before, line, after, split, -, -, bad, -⟩ := refused found read
      exact absurd (grammatical before line after split) bad

/-- A line that starts with a bracket is never read as a declaration, even if it has the form of one. -/
theorem parseAll_refuses_bracketed_name :
    ¬ ((∃ scripts, parseAll "[other]\n[a = b" = .ok scripts) ↔
      Grammatical Assigns (trimmedLines "[other]\n[a = b")) := by
  have lines : trimmedLines "[other]\n[a = b" = [] ++ ["[other]".toList] ++ ["[a = b".toList] := by decide +kernel
  have read : parseAll "[other]\n[a = b" = .error ⟨2, .unterminatedGroup "[a = b"⟩ := by rfl
  have opens : Opens "[other]".toList "other".toList := ⟨"other".toList, by decide, by decide +kernel, by decide⟩
  have assigns : Assigns "[a = b".toList "[a".toList "b".toList :=
    ⟨by decide, "[a ".toList, " b".toList, by decide, by decide, by decide +kernel, by decide +kernel⟩
  have grammatical : Grammatical Assigns (trimmedLines "[other]\n[a = b") := by
    rw [lines, grammatical_concat_iff, grammatical_concat_iff]
    refine ⟨⟨grammatical_nil, .header opens⟩, ?_⟩
    exact .declaration opens.under assigns (by decide) (by simp) (fun same => absurd same (by decide)) (by decide)
  intro iff
  obtain ⟨scripts, accepted⟩ := iff.mpr grammatical
  rw [read] at accepted
  cases accepted

end WheelInstaller.ConsoleScript
