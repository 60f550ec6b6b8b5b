import WheelInstaller.Metadata.HeaderBlock
import WheelInstaller.Proofs.Text.Split

/-!
Header blocks as texts. A block is written with a line for each line of its values, all but the first of
a value indented; and the blocks that can be written so are exactly those that are read.
-/

namespace WheelInstaller.HeaderBlock

open Text (trim isBlank splitOn joinWith)

/-- Something to be told before a colon: no colon, no line feed, and no white space around it. -/
structure KeyFormed (key : List Char) : Prop where
  filled : key ≠ []
  trimmed : trim key = key
  noColon : ':' ∉ key
  oneLine : '\n' ∉ key

/-- Trimmed lines, of which only the first may be empty. -/
structure ValueFormed (value : List Char) : Prop where
  trimmed : ∀ line ∈ splitOn '\n' value, trim line = line
  filled : ∀ line ∈ (splitOn '\n' value).tail, line ≠ []

/-- A field that can be written. -/
def FieldFormed (field : List Char × List Char) : Prop :=
  KeyFormed field.1 ∧ ValueFormed field.2

/-- The letters of the fields. -/
def letters (block : HeaderBlock) : List (List Char × List Char) :=
  block.fields.map fun (key, value) => (key.toList, value.toList)

/-- All fields can be written. -/
def WellFormed (block : HeaderBlock) : Prop :=
  ∀ field ∈ block.letters, FieldFormed field

instance (key : List Char) : Decidable (KeyFormed key) :=
  decidable_of_iff (key ≠ [] ∧ trim key = key ∧ ':' ∉ key ∧ '\n' ∉ key)
    ⟨fun ⟨filled, trimmed, noColon, oneLine⟩ => ⟨filled, trimmed, noColon, oneLine⟩,
      fun formed => ⟨formed.filled, formed.trimmed, formed.noColon, formed.oneLine⟩⟩

instance (value : List Char) : Decidable (ValueFormed value) :=
  decidable_of_iff ((∀ line ∈ splitOn '\n' value, trim line = line) ∧ ∀ line ∈ (splitOn '\n' value).tail, line ≠ [])
    ⟨fun ⟨trimmed, filled⟩ => ⟨trimmed, filled⟩, fun formed => ⟨formed.trimmed, formed.filled⟩⟩

instance (block : HeaderBlock) : Decidable block.WellFormed :=
  inferInstanceAs (Decidable (∀ field ∈ block.letters, KeyFormed field.1 ∧ ValueFormed field.2))

/-- The lines of a field: its key and the first line of its value, and the other lines indented. -/
def writtenField (field : List Char × List Char) : List (List Char) :=
  match splitOn '\n' field.2 with
  | [] => [field.1 ++ [':']]
  | first :: more => (field.1 ++ ':' :: ' ' :: first) :: more.map (' ' :: ·)

/-- The text of a block. -/
def render (block : HeaderBlock) : String :=
  String.ofList ((block.letters.flatMap writtenField).flatMap (· ++ ['\n']))

/-- What may follow a header block: nothing, or a blank line and whatever comes after it. -/
def IsBody (text : String) : Prop :=
  ∃ blank after, text.toList = blank ++ after ∧ (∀ c ∈ blank, isBlank c = true) ∧ (after = [] ∨ after.head? = some '\n')

variable {key value first line : List Char} {more lines rest : List (List Char)} {number : Nat}
  {field : List Char × List Char} {latest fields : List (List Char × List Char)} {block : HeaderBlock}

/-! ### Reading what was written -/

theorem exists_lines (value : List Char) : ∃ first more, splitOn '\n' value = first :: more ∧
    value = joinWith '\n' (first :: more) := by
  obtain ⟨first, more, shape⟩ := List.exists_cons_of_ne_nil (Text.splitOn_ne_nil '\n' value)
  exact ⟨first, more, shape, by rw [← shape, Text.joinWith_splitOn]⟩

theorem isBlank_space : isBlank ' ' = true := by decide

theorem isBlank_tab : isBlank '\t' = true := by decide

theorem isBlank_return : isBlank '\r' = true := by decide

theorem KeyFormed.exists_start (formed : KeyFormed key) : ∃ c rest, key = c :: rest ∧ isBlank c = false := by
  obtain ⟨c, rest, rfl⟩ := List.exists_cons_of_ne_nil formed.filled
  have start : (trim (c :: rest)).head? = some c := by
    rw [formed.trimmed]
    rfl
  exact ⟨c, rest, rfl, Text.not_blank_of_head?_trim start⟩

theorem readField_written (formed : KeyFormed key) (trimmed : trim first = first) :
    readField (key ++ ':' :: ' ' :: first) = .ok (key, first) := by
  unfold readField
  rw [Text.splitOnce_append formed.noColon]
  simp [formed.trimmed, formed.filled, Text.trim_cons_blank isBlank_space, trimmed]

theorem addLine_written (formed : KeyFormed key) (trimmed : trim first = first) :
    addLine latest (key ++ ':' :: ' ' :: first) = .ok ((key, first) :: latest) := by
  obtain ⟨c, rest, rfl, visible⟩ := formed.exists_start
  have start : isContinuation (c :: rest ++ ':' :: ' ' :: first) = false := by
    have noSpace : c ≠ ' ' := by
      rintro rfl
      exact absurd isBlank_space (by simp [visible])
    have noTab : c ≠ '\t' := by
      rintro rfl
      exact absurd isBlank_tab (by simp [visible])
    simp [isContinuation, noSpace, noTab]
  unfold addLine
  rw [start, readField_written formed trimmed]
  rfl

theorem readLines_further (formed : ∀ line ∈ more, trim line = line ∧ line ≠ []) :
    readLines number ((key, first) :: latest) (more.map (' ' :: ·) ++ rest) =
      readLines (number + more.length) ((key, joinWith '\n' (first :: more)) :: latest) rest := by
  induction more generalizing number first with
  | nil => rfl
  | cons line more ih =>
    obtain ⟨⟨trimmed, filled⟩, others⟩ := List.forall_mem_cons.mp formed
    have joined : joinWith '\n' ((first ++ '\n' :: line) :: more) = joinWith '\n' (first :: line :: more) := by
      cases more <;> simp [joinWith]
    have visible : (trim (' ' :: line)).isEmpty = false := by simp [Text.trim_cons_blank isBlank_space, trimmed, filled]
    have added : addLine ((key, first) :: latest) (' ' :: line) = .ok ((key, first ++ '\n' :: line) :: latest) := by
      simp [addLine, isContinuation, Text.trim_cons_blank isBlank_space, trimmed]
    rw [List.map_cons, List.cons_append, readLines, visible, added]
    simp only [Bool.false_eq_true, if_false]
    rw [ih others, joined, List.length_cons, Nat.add_assoc, Nat.add_comm 1]

theorem readLines_field (formed : FieldFormed field) :
    readLines number latest (writtenField field ++ rest) = readLines (number + (writtenField field).length)
    (field :: latest) rest := by
  obtain ⟨key, value⟩ := field
  obtain ⟨keyed, valued⟩ := formed
  obtain ⟨first, more, shape, whole⟩ := exists_lines value
  have trimmed := valued.trimmed
  have filled := valued.filled
  simp only [shape, List.forall_mem_cons, List.tail_cons] at trimmed filled
  have visible : (trim (key ++ ':' :: ' ' :: first)).isEmpty = false := by
    obtain ⟨c, tail, rfl, visible⟩ := keyed.exists_start
    rw [List.isEmpty_eq_false_iff]
    intro none
    simp [Text.trim_eq_nil_iff.mp none c (by simp)] at visible
  have written : writtenField (key, value) = (key ++ ':' :: ' ' :: first) :: more.map (' ' :: ·) := by
    simp [writtenField, shape]
  rw [written, List.cons_append, readLines, visible, addLine_written keyed trimmed.1]
  simp only [Bool.false_eq_true, if_false]
  rw [readLines_further fun line member => ⟨trimmed.2 line member, filled line member⟩, ← whole]
  simp [Nat.add_assoc, Nat.add_comm 1]

theorem readLines_fields (formed : ∀ field ∈ fields, FieldFormed field) :
    readLines number latest (fields.flatMap writtenField) = .ok (latest.reverse ++ fields) := by
  induction fields generalizing number latest with
  | nil => simp [readLines]
  | cons field rest ih =>
    obtain ⟨first, others⟩ := List.forall_mem_cons.mp formed
    rw [List.flatMap_cons, readLines_field first, ih others]
    simp

theorem clean_writtenField (formed : FieldFormed field) (member : line ∈ writtenField field) :
    '\n' ∉ line ∧ line.getLast? ≠ some '\r' := by
  obtain ⟨key, value⟩ := field
  obtain ⟨keyed, valued⟩ := formed
  obtain ⟨first, more, shape, -⟩ := exists_lines value
  have trimmed := valued.trimmed
  rw [shape] at trimmed
  have single : ∀ line ∈ first :: more, '\n' ∉ line := fun line member => Text.not_mem_of_mem_splitOn (shape ▸ member)
  -- A space or a trimmed line is at the end, so no carriage return is taken for a part of the line end.
  have visible : ∀ line ∈ first :: more, (' ' :: line).getLast? ≠ some '\r' := by
    intro line member last
    cases ending : line.getLast? with
    | none => simp [List.getLast?_cons, ending] at last
    | some c =>
      have same : c = '\r' := by simpa [List.getLast?_cons, ending] using last
      have ended : (trim line).getLast? = some c := by rw [trimmed line member, ending]
      have visible := Text.not_blank_of_getLast?_trim ended
      rw [same, isBlank_return] at visible
      cases visible
  simp only [writtenField, shape, List.mem_cons, List.mem_map] at member
  rcases member with rfl | ⟨other, member, rfl⟩
  · refine ⟨by simp [keyed.oneLine, single first (by simp)], ?_⟩
    rw [List.append_cons, List.getLast?_append_of_ne_nil _ (List.cons_ne_nil ' ' first)]
    exact visible first (by simp)
  · exact ⟨by simp [single other (by simp [member])], visible other (by simp [member])⟩

theorem letters_toList (block : HeaderBlock) :
    (block.letters.map fun (key, value) => (String.ofList key, String.ofList value)) = block.fields := by
  simp [letters, Function.comp_def]

theorem parse_render (formed : block.WellFormed) : parse block.render = .ok block := by
  have lines : Text.lines block.render.toList = block.letters.flatMap writtenField := by
    rw [render, String.toList_ofList]
    refine Text.lines_flatMap fun line member => ?_
    obtain ⟨field, inside, written⟩ := List.mem_flatMap.mp member
    exact clean_writtenField (formed field inside) written
  rw [parse, lines, readLines_fields formed, List.reverse_nil, List.nil_append]
  exact congrArg Except.ok (congrArg HeaderBlock.mk block.letters_toList)

/-! ### What is read can be written -/

theorem fieldFormed_of_readField (single : '\n' ∉ line) (read : readField line = .ok field) : FieldFormed field := by
  unfold readField at read
  split at read
  · cases read
  next before after cut =>
    obtain ⟨noColon, rfl⟩ := Text.splitOnce_eq_some cut
    simp only [List.mem_append, List.mem_cons, not_or] at single
    dsimp only at read
    split at read
    · cases read
    next filled =>
      cases read
      have oneLine : '\n' ∉ trim after := fun inside => single.2.2 (Text.mem_of_mem_trim inside)
      refine ⟨⟨by simpa using filled, Text.trim_trim _, fun inside => noColon (Text.mem_of_mem_trim inside),
        fun inside => single.1 (Text.mem_of_mem_trim inside)⟩, ?_⟩
      constructor <;> simp [Text.splitOn_of_not_mem oneLine]

theorem ValueFormed.further (formed : ValueFormed value) (single : '\n' ∉ line) (visible : trim line ≠ []) :
    ValueFormed (value ++ '\n' :: trim line) := by
  have oneLine : '\n' ∉ trim line := fun inside => single (Text.mem_of_mem_trim inside)
  have lines : splitOn '\n' (value ++ '\n' :: trim line) = splitOn '\n' value ++ [trim line] := by
    rw [Text.splitOn_append, Text.splitOn_of_not_mem oneLine]
  constructor
  · rw [lines]
    simpa [or_imp, forall_and] using formed.trimmed
  · rw [lines, List.tail_append_of_ne_nil (Text.splitOn_ne_nil _ _)]
    simpa [or_imp, forall_and, visible] using formed.filled

theorem formed_of_addLine (known : ∀ field ∈ latest, FieldFormed field) (single : '\n' ∉ line)
    (visible : trim line ≠ []) (added : addLine latest line = .ok fields) : ∀ field ∈ fields, FieldFormed field := by
  unfold addLine at added
  split at added
  · cases latest with
    | nil => cases added
    | cons field earlier =>
      cases added
      obtain ⟨⟨keyed, valued⟩, others⟩ := List.forall_mem_cons.mp known
      exact List.forall_mem_cons.mpr ⟨⟨keyed, valued.further single visible⟩, others⟩
  · cases read : readField line with
    | error flaw => simp [read, Except.map] at added
    | ok field =>
      simp only [read, Except.map, Except.ok.injEq] at added
      subst added
      exact List.forall_mem_cons.mpr ⟨fieldFormed_of_readField single read, known⟩

theorem formed_of_readLines (known : ∀ field ∈ latest, FieldFormed field) (single : ∀ line ∈ lines, '\n' ∉ line)
    (read : readLines number latest lines = .ok fields) : ∀ field ∈ fields, FieldFormed field := by
  induction lines generalizing number latest with
  | nil =>
    cases read
    simpa using known
  | cons line rest ih =>
    obtain ⟨first, others⟩ := List.forall_mem_cons.mp single
    unfold readLines at read
    split at read
    next =>
      cases read
      simpa using known
    next visible =>
      split at read
      · cases read
      next added => exact ih (formed_of_addLine known first (by simpa using visible) added) others read

theorem wellFormed_of_parse {text : String} (read : parse text = .ok block) : block.WellFormed := by
  unfold parse at read
  cases found : readLines 1 [] (Text.lines text.toList) with
  | error flaw => simp [found, Except.map] at read
  | ok fields =>
    simp only [found, Except.map, Except.ok.injEq] at read
    subst read
    have formed := formed_of_readLines (by simp) (fun _ => Text.not_mem_of_mem_lines) found
    simpa [WellFormed, letters, Function.comp_def] using formed

/-! ### The body -/

theorem readLines_body (blank : trim line = []) :
    readLines number latest (lines ++ line :: rest) = readLines number latest lines := by
  induction lines generalizing number latest with
  | nil => simp [readLines, blank]
  | cons first lines ih =>
    rw [List.cons_append, readLines, readLines]
    simp only [ih]

theorem IsBody.blank_line {body : String} (isBody : IsBody body) (starts : Text.lines body.toList = line :: rest) :
    trim line = [] := by
  obtain ⟨blank, after, whole, dark, none | feed⟩ := isBody
  · refine Text.trim_eq_nil_iff.mpr fun c member => dark c ?_
    rw [whole, none, List.append_nil] at starts
    exact Text.mem_of_mem_lines (starts ▸ List.mem_cons_self) member
  · obtain ⟨more, rfl⟩ := List.head?_eq_some_iff.mp feed
    obtain ⟨first, others, pieces, -⟩ := exists_lines blank
    rw [whole, Text.lines_append, pieces] at starts
    obtain ⟨rfl, -⟩ := List.cons.inj starts
    refine Text.trim_eq_nil_iff.mpr fun c member => dark c ?_
    exact Text.mem_of_mem_splitOn (pieces ▸ List.mem_cons_self) ((Text.dropReturn_isPrefix first).subset member)

theorem parse_append {before body : String} (ended : before = "" ∨ before.toList.getLast? = some '\n')
    (isBody : IsBody body) :
    parse (before ++ body) = parse before := by
  have ended : before.toList = [] ∨ before.toList.getLast? = some '\n' := ended.imp_left fun none => by simp [none]
  unfold parse
  rw [String.toList_append, Text.lines_append_of_ended ended]
  cases starts : Text.lines body.toList with
  | nil => rw [List.append_nil]
  | cons line rest => rw [readLines_body (isBody.blank_line starts)]

theorem ended_render (block : HeaderBlock) : block.render = "" ∨ block.render.toList.getLast? = some '\n' := by
  rcases List.eq_nil_or_concat' (block.letters.flatMap writtenField) with none | ⟨front, last, whole⟩
  · exact .inl (by simp [render, none])
  · exact .inr (by simp [render, whole])

/-- Every block that can be written is read back from its text, whatever body follows it; only such blocks are read,
from any text; and what follows a blank line makes no difference to the fields or the flaw that are told. -/
theorem parse_inverts_render :
    (∀ (block : HeaderBlock) (body : String), block.WellFormed → IsBody body →
      parse (block.render ++ body) = .ok block) ∧
      (∀ (text : String) (block : HeaderBlock), parse text = .ok block → block.WellFormed ∧
        parse block.render = .ok block) ∧
        ∀ before body : String, before = "" ∨ before.toList.getLast? = some '\n' → IsBody body →
        parse (before ++ body) = parse before := by
  refine ⟨fun block body formed isBody => ?_, fun text block read => ?_, fun before body => parse_append⟩
  · rw [parse_append block.ended_render isBody, parse_render formed]
  · have formed := wellFormed_of_parse read
    exact ⟨formed, parse_render formed⟩

/-- A value that starts with an empty line and goes on with one that looks like a field, before a body that is no
field. -/
theorem parse_inverts_render_folded :
    let block : HeaderBlock := ⟨[("Name", "demo"), ("Description", "\nfirst\nSecond: x")]⟩
    let body := " \t\r\nno field"
    block.WellFormed ∧ IsBody body ∧ parse (block.render ++ body) = .ok block ∧
      parse "Name :demo\r\nDescription:\n\tfirst\n  Second: x  \n" = .ok block ∧ parse block.render = .ok block ∧
        parse ("unfinished\n" ++ body) = parse "unfinished\n" := by
  intro block body
  have formed : block.WellFormed := by decide +kernel
  have blank : ∀ c ∈ [' ', '\t', '\r'], isBlank c = true := List.all_eq_true.mp (by decide)
  have isBody : IsBody body :=
    ⟨[' ', '\t', '\r'], "\nno field".toList, by decide +kernel, blank, .inr (by decide +kernel)⟩
  have read : parse "Name :demo\r\nDescription:\n\tfirst\n  Second: x  \n" = .ok block := by decide +kernel
  obtain ⟨back, only, apart⟩ := parse_inverts_render
  exact ⟨formed, isBody, back block body formed isBody, read, (only _ block read).2,
    apart _ body (.inr (by decide)) isBody⟩

end WheelInstaller.HeaderBlock
