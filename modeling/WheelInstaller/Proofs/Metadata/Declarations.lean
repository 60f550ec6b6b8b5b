import WheelInstaller.Metadata.Summary
import WheelInstaller.Proofs.Text.Split

/-!
The language of entry point declarations, line by line and without the state that reading carries:
which lines are group headers and declarations, which header a line stands under, and which values
tell a module and an object. All lines are trimmed ones.
-/

namespace WheelInstaller.ConsoleScript

open Text (trim splitOnce)

/-- Identifiers with dots between them. -/
def DottedIdentifier (text : List Char) : Prop :=
  ∃ parts, parts ≠ [] ∧ (∀ part ∈ parts, isIdentifier part = true) ∧ text = Text.joinWith '.' parts

/-- The parts of a text around its first separator, trimmed. -/
def CutAt (separator : Char) (text left right : List Char) : Prop :=
  ∃ before after, text = before ++ separator :: after ∧ separator ∉ before ∧ left = trim before ∧ right = trim after

/-- A header `[group]`. -/
def Opens (line group : List Char) : Prop :=
  ∃ inner, line = '[' :: (inner ++ [']']) ∧ group = trim inner ∧ group ≠ []

/-- A line `name = value`, also one that starts like a header. -/
def Assigns (line name value : List Char) : Prop :=
  isSkipped line = false ∧ CutAt '=' line name value

/-- A line `name = value` that does not start like a header. -/
def Declares (line name value : List Char) : Prop :=
  line.head? ≠ some '[' ∧ Assigns line name value

/-- A value `module:object`, with or without extras in brackets at its end. -/
def References (value moduleName object : List Char) : Prop :=
  ∃ reference,
    ('[' ∉ value ∧ reference = value ∨ value.getLast? = some ']' ∧ ∃ extras, CutAt '[' value reference extras) ∧
      CutAt ':' reference moduleName object ∧ DottedIdentifier moduleName ∧ DottedIdentifier object

/-- The last header among these lines, and the lines after it. -/
def Under (before : List (List Char)) (group : List Char) (since : List (List Char)) : Prop :=
  ∃ earlier header, before = earlier ++ header :: since ∧ Opens header group ∧ ∀ later ∈ since,
  ∀ other, ¬ Opens later other

/-- A line that may follow these, where `declares` tells which lines are declarations. -/
inductive WellFormed (declares : List Char → List Char → List Char → Prop) (before : List (List Char))
    (line : List Char) : Prop
  | skipped (skipped : isSkipped line = true)
  | header {group : List Char} (opens : Opens line group)
  | declaration {group name value : List Char} {since : List (List Char)} (under : Under before group since)
      (told : declares line name value) (named : name ≠ [])
      (fresh : ∀ earlier ∈ since, ∀ other, ¬ declares earlier name other)
      (script : group = groupName → ∃ moduleName object, References value moduleName object)
      (other : group ≠ groupName → value ≠ [])

/-- The console script that a line after these declares. -/
def Scripts (before : List (List Char)) (line : List Char) (script : ConsoleScript) : Prop :=
  ∃ since name value moduleName object, Under before groupName since ∧ Declares line name value ∧
    References value moduleName object ∧ script = ⟨String.ofList name, String.ofList moduleName, String.ofList object⟩

/-- Every line may follow the ones before it. -/
def Grammatical (declares : List Char → List Char → List Char → Prop) (lines : List (List Char)) : Prop :=
  ∀ before line after, lines = before ++ line :: after → WellFormed declares before line

/-- The console scripts that lines declare, in order. -/
inductive Collects : List (List Char) → List ConsoleScript → Prop
  | nil : Collects [] []
  | script {before : List (List Char)} {line : List Char} {scripts : List ConsoleScript} {script : ConsoleScript}
      (collects : Collects before scripts) (found : Scripts before line script) :
      Collects (before ++ [line]) (scripts ++ [script])
  | other {before : List (List Char)} {line : List Char} {scripts : List ConsoleScript}
      (collects : Collects before scripts) (none : ∀ script, ¬ Scripts before line script) :
      Collects (before ++ [line]) scripts

/-! ### Reading the parts of a line -/

section Parts

variable {separator : Char} {text left right line header name value group moduleName object : List Char}

theorem isIdentifier_clean {part : List Char} (identifier : isIdentifier part = true) : '.' ∉ part := by
  intro dot
  cases part with
  | nil => cases dot
  | cons first rest =>
    simp only [isIdentifier, Bool.and_eq_true, List.all_eq_true] at identifier
    obtain ⟨start, others⟩ := identifier
    rcases List.mem_cons.mp dot with rfl | inside
    · exact absurd start (by decide)
    · exact absurd (others '.' inside) (by decide +kernel)

theorem isDottedIdentifier_iff : isDottedIdentifier text = true ↔ DottedIdentifier text := by
  unfold isDottedIdentifier DottedIdentifier
  rw [List.all_eq_true]
  constructor
  · intro identifiers
    exact ⟨Text.splitOn '.' text, Text.splitOn_ne_nil '.' text, identifiers, (Text.joinWith_splitOn '.' text).symm⟩
  · rintro ⟨parts, filled, identifiers, rfl⟩
    rw [Text.splitOn_joinWith filled fun part member => isIdentifier_clean (identifiers part member)]
    exact identifiers

theorem cutAt_iff :
    CutAt separator text left right ↔ ∃ before after, splitOnce separator text = some (before, after) ∧
    left = trim before ∧ right = trim after := by
  constructor
  · rintro ⟨before, after, rfl, absent, parts⟩
    exact ⟨before, after, Text.splitOnce_append absent after, parts⟩
  · rintro ⟨before, after, cut, parts⟩
    obtain ⟨absent, same⟩ := Text.splitOnce_eq_some cut
    exact ⟨before, after, same, absent, parts⟩

theorem CutAt.unique {left' right' : List Char} (cut : CutAt separator text left right)
    (again : CutAt separator text left' right') :
    left = left' ∧ right = right' := by
  obtain ⟨before, after, found, rfl, rfl⟩ := cutAt_iff.mp cut
  obtain ⟨before', after', found', rfl, rfl⟩ := cutAt_iff.mp again
  rw [found] at found'
  cases found'
  exact ⟨rfl, rfl⟩

theorem Opens.head? (opens : Opens line group) : line.head? = some '[' := by
  obtain ⟨inner, rfl, -⟩ := opens
  rfl

theorem Opens.unique {other : List Char} (opens : Opens line group) (again : Opens line other) : group = other := by
  obtain ⟨inner, rfl, rfl, -⟩ := opens
  obtain ⟨inner', same, rfl, -⟩ := again
  simp only [List.cons.injEq, true_and, List.append_cancel_right_eq] at same
  rw [same]

theorem Opens.isSkipped (opens : Opens line group) : isSkipped line = false := by
  obtain ⟨inner, rfl, -⟩ := opens
  simp [ConsoleScript.isSkipped]

theorem readGroup_eq_ok_iff (line : List Char) : readGroup line header = .ok group ↔ Opens ('[' :: header) group := by
  unfold readGroup Opens
  simp only [List.cons.injEq, true_and, ← Text.dropSuffix?_eq_some_iff]
  cases cut : Text.dropSuffix? [']'] header with
  | none => simp
  | some inner =>
    simp only [Option.some.injEq, exists_eq_left', List.isEmpty_iff]
    constructor
    · intro read
      split at read
      · cases read
      next named =>
        cases read
        exact ⟨rfl, named⟩
    · rintro ⟨rfl, named⟩
      rw [if_neg named]

theorem dropExtras_eq_ok_iff {reference : List Char} :
    dropExtras value = .ok reference ↔
      '[' ∉ value ∧ reference = value ∨ value.getLast? = some ']' ∧ ∃ extras, CutAt '[' value reference extras := by
  unfold dropExtras
  cases cut : splitOnce '[' value with
  | none =>
    have absent := Text.splitOnce_eq_none_iff.mp cut
    simp [cutAt_iff, cut, absent, eq_comm]
  | some parts =>
    obtain ⟨before, extras⟩ := parts
    obtain ⟨-, same⟩ := Text.splitOnce_eq_some cut
    have bracket : '[' ∈ value := by simp [same]
    by_cases closed : value.getLast? = some ']'
    · simp only [closed, if_true, Except.ok.injEq, bracket, not_true, false_and, true_and, false_or, cutAt_iff, cut,
        Option.some.injEq, Prod.mk.injEq]
      constructor
      · rintro rfl
        exact ⟨trim extras, before, extras, ⟨rfl, rfl⟩, rfl, rfl⟩
      · rintro ⟨-, -, -, ⟨rfl, -⟩, rfl, -⟩
        rfl
    · simp [closed, bracket]

theorem readReference_eq_ok_iff : readReference value = .ok (moduleName, object) ↔
    References value moduleName object := by
  unfold readReference References
  simp only [← dropExtras_eq_ok_iff]
  cases dropped : dropExtras value with
  | error flaw => simp [bind, Except.bind]
  | ok reference =>
    simp only [bind, Except.bind, Except.ok.injEq, exists_eq_left', cutAt_iff, ← isDottedIdentifier_iff]
    cases cut : splitOnce ':' reference with
    | none => simp
    | some parts =>
      obtain ⟨before, after⟩ := parts
      constructor
      · intro read
        dsimp only at read
        split at read
        · cases read
        next first =>
          split at read
          · cases read
          next second =>
            cases read
            exact ⟨⟨before, after, rfl, rfl, rfl⟩, by simpa using first, by simpa using second⟩
      · rintro ⟨⟨before', after', same, rfl, rfl⟩, first, second⟩
        cases same
        simp [first, second]

end Parts

/-! ### Lines before a line -/

section Lines

variable {line group name value : List Char} {before since lines : List (List Char)} {script : ConsoleScript}
  {declares : List Char → List Char → List Char → Prop}

theorem Opens.not_declares (opens : Opens line group) : ¬ Declares line name value := by
  intro declared
  exact declared.1 opens.head?

theorem Declares.unique {name' value' : List Char} (declared : Declares line name value)
    (again : Declares line name' value') :
    name = name' ∧ value = value' :=
  declared.2.2.unique again.2.2

theorem Opens.under (opens : Opens line group) : Under (before ++ [line]) group [] :=
  ⟨before, line, rfl, opens, by simp⟩

theorem Under.concat (under : Under before group since) (plain : ∀ other, ¬ Opens line other) :
    Under (before ++ [line]) group (since ++ [line]) := by
  obtain ⟨earlier, header, rfl, opens, last⟩ := under
  refine ⟨earlier, header, by simp, opens, ?_⟩
  intro later member other
  rcases List.mem_append.mp member with inside | same
  · exact last later inside other
  · rw [List.mem_singleton.mp same]
    exact plain other

theorem under_concat_iff (plain : ∀ other, ¬ Opens line other) :
    Under (before ++ [line]) group since ↔ ∃ earlier, since = earlier ++ [line] ∧ Under before group earlier := by
  constructor
  · rintro ⟨front, header, same, opens, last⟩
    rcases List.eq_nil_or_concat since with rfl | ⟨earlier, final, rfl⟩
    · obtain ⟨-, rest⟩ := List.append_inj' same rfl
      cases rest
      exact absurd opens (plain group)
    · rw [List.concat_eq_append] at same last ⊢
      rw [← List.cons_append, ← List.append_assoc] at same
      obtain ⟨rfl, rest⟩ := List.append_inj' same rfl
      cases rest
      exact ⟨earlier, rfl, front, header, rfl, opens, fun later member => last later (by simp [member])⟩
  · rintro ⟨earlier, rfl, under⟩
    exact under.concat plain

theorem Under.unique {group' : List Char} {since' : List (List Char)} (under : Under before group since)
    (again : Under before group' since') :
    group = group' ∧ since = since' := by
  obtain ⟨earlier, header, rfl, opens, last⟩ := under
  obtain ⟨earlier', header', same, opens', last'⟩ := again
  rcases List.append_eq_append_iff.mp same with ⟨gap, -, rest⟩ | ⟨gap, -, rest⟩
  · cases gap with
    | nil =>
      cases rest
      exact ⟨opens.unique opens', rfl⟩
    | cons first gap =>
      cases rest
      exact absurd opens' (last header' (by simp) group')
  · cases gap with
    | nil =>
      cases rest
      exact ⟨opens.unique opens', rfl⟩
    | cons first gap =>
      cases rest
      exact absurd opens (last' header (by simp) group)

theorem grammatical_nil : Grammatical declares [] := by
  intro before line after same
  exact absurd same.symm (by simp)

theorem grammatical_concat_iff : Grammatical declares (lines ++ [line]) ↔ Grammatical declares lines ∧
    WellFormed declares lines line := by
  constructor
  · intro all
    refine ⟨?_, all lines line [] rfl⟩
    rintro before earlier after rfl
    exact all before earlier (after ++ [line]) (by simp)
  · rintro ⟨all, last⟩ before earlier after same
    rcases List.eq_nil_or_concat after with rfl | ⟨after, final, rfl⟩
    · obtain ⟨rfl, rest⟩ := List.append_inj' same rfl
      cases rest
      exact last
    · rw [List.concat_eq_append, ← List.cons_append, ← List.append_assoc] at same
      obtain ⟨rfl, -⟩ := List.append_inj' same rfl
      exact all before earlier after rfl

end Lines

end WheelInstaller.ConsoleScript
