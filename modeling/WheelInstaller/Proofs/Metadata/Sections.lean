import WheelInstaller.Proofs.Metadata.Grammar

/-!
Where names of console scripts may repeat. Reading remembers the names since the last header only,
so they differ within the lines under one header, and a name may come back under another header of
the same group.
-/

namespace WheelInstaller.ConsoleScript

variable {line header group name value : List Char} {lines before body since front : List (List Char)}
  {script : ConsoleScript} {scripts : List ConsoleScript}

/-- A header of console scripts, the lines up to the next such header, and the scripts they declare. -/
structure Section where
  header : List Char
  body : List (List Char)
  scripts : List ConsoleScript

/-- The section with one more line, and the scripts that this line declares. -/
def Section.extend (part : Section) (line : List Char) (found : List ConsoleScript) : Section :=
  { part with body := part.body ++ [line], scripts := part.scripts ++ found }

/-- The lines of a section declare its scripts, each under a name of its own. -/
structure Section.Holds (part : Section) : Prop where
  opens : Opens part.header groupName
  closed : ∀ line ∈ part.body, ¬ Opens line groupName
  collects : Collects (part.header :: part.body) part.scripts
  nodup : (part.scripts.map (·.name)).Nodup

/-- Lines before any header of console scripts, and the sections that follow. -/
structure Divides (lines : List (List Char)) (scripts : List ConsoleScript) (front : List (List Char))
    (parts : List Section) : Prop where
  lines : lines = front ++ parts.flatMap fun part => part.header :: part.body
  scripts : scripts = parts.flatMap (·.scripts)
  before : ∀ line ∈ front, ¬ Opens line groupName
  parts : ∀ part ∈ parts, part.Holds

theorem WellFormed.fresh (wellFormed : WellFormed Declares before line) (under : Under before group since)
    (declared : Declares line name value) :
    name ≠ [] ∧ ∀ earlier ∈ since, ∀ other, ¬ Declares earlier name other := by
  cases wellFormed with
  | skipped skipped =>
    rw [declared.2.1] at skipped
    cases skipped
  | header opens => exact absurd declared opens.not_declares
  | declaration under' declared' named fresh _ _ =>
    obtain ⟨-, rfl⟩ := under.unique under'
    obtain ⟨rfl, -⟩ := declared.unique declared'
    exact ⟨named, fresh⟩

/-- Under console scripts, what counts is the last header of console scripts and the lines after it. -/
theorem Under.since_eq (under : Under (front ++ header :: body) groupName since) (opens : Opens header groupName)
    (closed : ∀ line ∈ body, ¬ Opens line groupName) : since = body := by
  obtain ⟨earlier, last, same, opens', none⟩ := under
  rcases List.append_eq_append_iff.mp same with ⟨gap, -, rest⟩ | ⟨gap, -, rest⟩
  · cases gap with
    | nil =>
      cases rest
      rfl
    | cons first gap =>
      cases rest
      exact absurd opens' (closed last (by simp))
  · cases gap with
    | nil =>
      cases rest
      rfl
    | cons first gap =>
      cases rest
      exact absurd opens (none header (by simp) groupName)

theorem Under.append_left (under : Under before group since) (front : List (List Char)) :
    Under (front ++ before) group since := by
  obtain ⟨earlier, header, rfl, opens, last⟩ := under
  exact ⟨front ++ earlier, header, by simp, opens, last⟩

/-- A line after a header of console scripts declares what it declares within the section. -/
theorem scripts_section_iff (opens : Opens header groupName) (closed : ∀ line ∈ body, ¬ Opens line groupName) :
    Scripts (front ++ header :: body) line script ↔ Scripts (header :: body) line script := by
  constructor
  · rintro ⟨since, name, value, moduleName, object, under, told⟩
    have same := under.since_eq opens closed
    subst same
    obtain ⟨-, -, -, -, none⟩ := under
    exact ⟨since, name, value, moduleName, object, ⟨[], header, rfl, opens, none⟩, told⟩
  · rintro ⟨since, name, value, moduleName, object, under, told⟩
    exact ⟨since, name, value, moduleName, object, under.append_left front, told⟩

theorem Collects.exists_of_mem (collects : Collects lines scripts) (member : script ∈ scripts) :
    ∃ before line after, lines = before ++ line :: after ∧ Scripts before line script := by
  induction collects with
  | nil => cases member
  | @script earlier line found last collects told ih =>
    rcases List.mem_append.mp member with member | same
    · obtain ⟨before, line', after, rfl, told'⟩ := ih member
      exact ⟨before, line', after ++ [line], by simp, told'⟩
    · rw [List.mem_singleton.mp same]
      exact ⟨earlier, line, [], rfl, told⟩
  | @other earlier line found collects none ih =>
    obtain ⟨before, line', after, rfl, told⟩ := ih member
    exact ⟨before, line', after ++ [line], by simp, told⟩

theorem not_scripts_nil : ¬ Scripts [] line script := by
  rintro ⟨since, name, value, moduleName, object, ⟨earlier, header, same, -⟩, -⟩
  exact absurd same (by simp)

/-! ### One more line -/

variable {parts : List Section} {part : Section} {found : List ConsoleScript}

theorem Section.Holds.closed_extend (holds : part.Holds) (closed : ¬ Opens line groupName) :
    ∀ other ∈ (part.extend line found).body, ¬ Opens other groupName := by
  intro other member
  rcases List.mem_append.mp member with inside | same
  · exact holds.closed other inside
  · rw [List.mem_singleton.mp same]
    exact closed

theorem Section.Holds.silent (holds : part.Holds) (closed : ¬ Opens line groupName)
    (none : ∀ script, ¬ Scripts (part.header :: part.body) line script) : (part.extend line []).Holds where
  opens := holds.opens
  closed := holds.closed_extend closed
  collects := by simpa [Section.extend] using holds.collects.other none
  nodup := by simpa [Section.extend] using holds.nodup

theorem Section.Holds.declared (holds : part.Holds) (closed : ¬ Opens line groupName)
    (told : Scripts (part.header :: part.body) line script)
    (wellFormed : WellFormed Declares (front ++ part.header :: part.body) line) :
    (part.extend line [script]).Holds where
  opens := holds.opens
  closed := holds.closed_extend closed
  collects := holds.collects.script told
  nodup := by
    obtain ⟨since, name, value, moduleName, object, under, declared, -, rfl⟩ := told
    have under : Under ([] ++ part.header :: part.body) groupName since := under
    have same : since = part.body := under.since_eq holds.opens holds.closed
    subst same
    obtain ⟨-, fresh⟩ := wellFormed.fresh (under.append_left front) declared
    have new : String.ofList name ∉ part.scripts.map (·.name) := by
      intro member
      obtain ⟨other, inside, same⟩ := List.mem_map.mp member
      obtain ⟨before, earlier, after, split, told⟩ := holds.collects.exists_of_mem inside
      obtain ⟨first, before, rfl⟩ : ∃ first rest, before = first :: rest := by
        cases before with
        | nil => exact absurd told not_scripts_nil
        | cons first rest => exact ⟨first, rest, rfl⟩
      obtain ⟨since, name', value', moduleName', object', -, declared', -, rfl⟩ := told
      have inside : earlier ∈ part.body := by
        rw [(List.cons.inj split).2]
        simp
      have same : name' = name := String.ofList_injective same
      subst same
      exact fresh earlier inside value' declared'
    simp only [Section.extend, List.map_append, List.map_singleton, List.nodup_append]
    refine ⟨holds.nodup, by simp, ?_⟩
    intro other member last final
    rw [List.mem_singleton.mp final]
    rintro rfl
    exact new member

theorem Divides.opens (divides : Divides lines scripts front parts) (opens : Opens line groupName) :
    Divides (lines ++ [line]) scripts front (parts ++ [⟨line, [], []⟩]) := by
  constructor
  case lines => simp [divides.lines]
  case scripts => simp [divides.scripts]
  case before => exact divides.before
  case parts =>
    intro part member
    rcases List.mem_append.mp member with inside | same
    · exact divides.parts part inside
    · rw [List.mem_singleton.mp same]
      have collects : Collects ([] ++ [line]) [] := Collects.nil.other fun script => not_scripts_nil
      exact ⟨opens, by simp, collects, by simp⟩

theorem Divides.outside (divides : Divides lines scripts front []) (closed : ¬ Opens line groupName) :
    Divides (lines ++ [line]) scripts (front ++ [line]) [] := by
  constructor
  case lines => simp [divides.lines]
  case scripts => exact divides.scripts
  case before =>
    intro other member
    rcases List.mem_append.mp member with inside | same
    · exact divides.before other inside
    · rw [List.mem_singleton.mp same]
      exact closed
  case parts => simp

theorem Divides.extend (divides : Divides lines scripts front (parts ++ [part]))
    (holds : (part.extend line found).Holds) :
    Divides (lines ++ [line]) (scripts ++ found) front (parts ++ [part.extend line found]) := by
  constructor
  case lines => simp [divides.lines, Section.extend]
  case scripts => simp [divides.scripts, Section.extend]
  case before => exact divides.before
  case parts =>
    intro other member
    rcases List.mem_append.mp member with inside | same
    · exact divides.parts other (by simp [inside])
    · rw [List.mem_singleton.mp same]
      exact holds

theorem Divides.last (divides : Divides lines scripts front (parts ++ [part])) :
    part.Holds ∧ ∃ earlier, lines = earlier ++ part.header :: part.body := by
  refine ⟨divides.parts part (by simp), front ++ parts.flatMap (fun part => part.header :: part.body), ?_⟩
  simp [divides.lines]

theorem exists_divides (collects : Collects lines scripts) (grammatical : Grammatical Declares lines) :
    ∃ front parts, Divides lines scripts front parts := by
  induction collects with
  | nil => exact ⟨[], [], by simp, by simp, by simp, by simp⟩
  | @script before line scripts script collects told ih =>
    obtain ⟨grammatical, wellFormed⟩ := grammatical_concat_iff.mp grammatical
    obtain ⟨front, parts, divides⟩ := ih grammatical
    -- A script is declared by the latest section, and there is one since its header came before.
    have closed : ¬ Opens line groupName := by
      intro opens
      obtain ⟨-, name, value, -, -, -, declared, -⟩ := told
      exact opens.not_declares declared
    rcases List.eq_nil_or_concat parts with rfl | ⟨parts, part, rfl⟩
    · obtain ⟨since, -, -, -, -, ⟨earlier, header, same, opens, -⟩, -⟩ := told
      have member : header ∈ before := by simp [same]
      rw [divides.lines, List.flatMap_nil, List.append_nil] at member
      exact absurd opens (divides.before header member)
    · rw [List.concat_eq_append] at divides
      obtain ⟨holds, earlier, rfl⟩ := divides.last
      have inside := (scripts_section_iff holds.opens holds.closed).mp told
      exact ⟨front, _, divides.extend (holds.declared closed inside wellFormed)⟩
  | @other before line scripts collects none ih =>
    obtain ⟨front, parts, divides⟩ := ih (grammatical_concat_iff.mp grammatical).1
    by_cases opens : Opens line groupName
    · exact ⟨front, _, divides.opens opens⟩
    · rcases List.eq_nil_or_concat parts with rfl | ⟨parts, part, rfl⟩
      · exact ⟨front ++ [line], [], divides.outside opens⟩
      · rw [List.concat_eq_append] at divides
        obtain ⟨holds, earlier, rfl⟩ := divides.last
        have silent : ∀ script, ¬ Scripts (part.header :: part.body) line script := by
          intro script told
          exact none script ((scripts_section_iff holds.opens holds.closed).mpr told)
        have extended := divides.extend (holds.silent opens silent)
        rw [List.append_nil] at extended
        exact ⟨front, _, extended⟩

theorem Divides.nodup (divides : Divides lines scripts front parts)
    (single : ∀ before first middle second after, lines = before ++ first :: (middle ++ second :: after) →
      Opens first groupName → ¬ Opens second groupName) :
    (scripts.map (·.name)).Nodup := by
  rw [divides.scripts]
  match parts, divides with
  | [], _ => simp
  | [part], divides => simpa using (divides.parts part (by simp)).nodup
  | first :: second :: rest, divides =>
    have opens := (divides.parts first (by simp)).opens
    have again := (divides.parts second (by simp)).opens
    refine absurd again (single front first.header first.body second.header ?_ ?_ opens)
    · exact second.body ++ rest.flatMap fun part => part.header :: part.body
    · simp [divides.lines]

theorem name_ne_nil (grammatical : Grammatical Declares before) (member : line ∈ before)
    (declared : Declares line name value) : name ≠ [] := by
  obtain ⟨earlier, after, rfl⟩ := List.append_of_mem member
  cases grammatical earlier line after rfl with
  | skipped skipped =>
    rw [declared.2.1] at skipped
    cases skipped
  | header opens => exact absurd declared opens.not_declares
  | declaration under declared' named _ _ _ =>
    obtain ⟨rfl, -⟩ := declared.unique declared'
    exact named

/-- A name that the lines since the last header declare is refused on the next line. -/
theorem parseAll_of_repeated {text : String} {earlier other : List Char} {after : List (List Char)}
    (split : trimmedLines text = before ++ line :: after)
    (grammatical : Grammatical Declares before) (under : Under before group since) (member : earlier ∈ since)
    (first : Declares earlier name other) (again : Declares line name value) :
    parseAll text = .error ⟨before.length + 1, .duplicateName (String.ofList name)⟩ := by
  obtain ⟨final, others, reached, same, passed⟩ := reached_nil.readLines_append 1 split grammatical
  obtain ⟨next, rest, rfl, rfl, -⟩ := List.map_eq_cons_iff.mp same
  have named : name ≠ [] := by
    obtain ⟨front, header, rfl, -⟩ := under
    exact name_ne_nil grammatical (by simp [member]) first
  cases inside : final.group with
  | none => exact absurd under (reached.outside inside group since)
  | some current =>
    obtain ⟨since', under', names⟩ := reached.inside current inside
    obtain ⟨rfl, rfl⟩ := under.unique under'
    have known : name ∈ final.names := (names name).mpr ⟨earlier, member, other, first⟩
    unfold parseAll
    rw [passed, readLines, readLine_declares again inside]
    simp [readDeclaration, named, known, Nat.add_comm]

/-- The names of console scripts differ within each section of a text. They differ throughout if no
header of console scripts comes twice, and a name that comes twice under one header is refused. -/
theorem parseAll_names_nodup_per_section (text : String) :
    (∀ scripts, parseAll text = .ok scripts →
      (∃ front parts, Divides (trimmedLines text) scripts front parts) ∧
        ((∀ before first middle second after, trimmedLines text = before ++ first :: (middle ++ second :: after) →
            Opens first groupName → ¬ Opens second groupName) → (scripts.map (·.name)).Nodup)) ∧
      ∀ before line after group since name, trimmedLines text = before ++ line :: after → Grammatical Declares before →
        Under before group since → (∃ earlier ∈ since, ∃ value, Declares earlier name value) →
        (∃ value, Declares line name value) →
          parseAll text = .error ⟨before.length + 1, .duplicateName (String.ofList name)⟩ := by
  constructor
  · intro scripts read
    obtain ⟨grammatical, collects⟩ := reached_of_parseAll read
    obtain ⟨front, parts, divides⟩ := exists_divides collects grammatical
    exact ⟨⟨front, parts, divides⟩, divides.nodup⟩
  · rintro before line after group since name split grammatical under ⟨earlier, member, other, first⟩ ⟨value, again⟩
    exact parseAll_of_repeated split grammatical under member first again

/-- A group that is opened again may declare a name again. -/
example :
    parseAll "[console_scripts]\nrun = a:main\n[console_scripts]\nrun = b:main" =
    .ok [⟨"run", "a", "main"⟩, ⟨"run", "b", "main"⟩] := by
  rfl

end WheelInstaller.ConsoleScript
