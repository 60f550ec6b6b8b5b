import WheelInstaller.Metadata.Summary

/-!
Documents as texts. A document is read by the grammar of JSON, whatever the layout, and reading what was
written gives the document back; so a summary file determines its summary. Only numbers that documents do
not have are left out of the grammar, and the words for truth values.
-/

namespace WheelInstaller

namespace Json

/-- The characters that may stand between the parts of a document. -/
def isSpace (c : Char) : Bool :=
  c = ' ' || c = '\t' || c = '\n' || c = '\r'

/-- The text from the next part on. -/
def skipSpace (text : List Char) : List Char :=
  text.dropWhile isSpace

/-! ### Strings -/

/-- The value of a hexadecimal digit. -/
def hexDigit? (c : Char) : Option Nat :=
  if c.isDigit then some (c.toNat - '0'.toNat)
  else if 'a' ≤ c ∧ c ≤ 'f' then some (c.toNat - 'a'.toNat + 10)
  else if 'A' ≤ c ∧ c ≤ 'F' then some (c.toNat - 'A'.toNat + 10)
  else none

/-- The number that four hexadecimal digits stand for. -/
def codeUnit? (first second third fourth : Char) : Option Nat := do
  let first ← hexDigit? first
  let second ← hexDigit? second
  let third ← hexDigit? third
  let fourth ← hexDigit? fourth
  return ((16 * first + second) * 16 + third) * 16 + fourth

/-- The first half of a character that takes two numbers. -/
def isHigh (unit : Nat) : Bool :=
  0xD800 ≤ unit && unit < 0xDC00

/-- The second half of such a character. -/
def isLow (unit : Nat) : Bool :=
  0xDC00 ≤ unit && unit < 0xE000

/-- The character that a letter stands for after a backslash. -/
def escaped? : Char → Option Char
  | '"' => some '"'
  | '\\' => some '\\'
  | '/' => some '/'
  | 'b' => some '\x08'
  | 'f' => some '\x0c'
  | 'n' => some '\n'
  | 'r' => some '\r'
  | 't' => some '\t'
  | _ => none

/-- What was read, with one more character in front. -/
def prepend (c : Char) (read : Option (List Char × List Char)) : Option (List Char × List Char) :=
  read.map fun (chars, rest) => (c :: chars, rest)

/-- The characters of a string up to its closing quote, and the text after that. -/
def readText : List Char → Option (List Char × List Char)
  | [] => none
  | c :: rest =>
    if c = '"' then some ([], rest)
    else if c = '\\' then
      match rest with
      | 'u' :: first :: second :: third :: fourth :: rest => do
        let unit ← codeUnit? first second third fourth
        if isHigh unit then
          match rest with
          | '\\' :: 'u' :: first :: second :: third :: fourth :: rest => do
            let low ← codeUnit? first second third fourth
            if isLow low then
              prepend (Char.ofNat (0x10000 + (unit - 0xD800) * 0x400 + (low - 0xDC00))) (readText rest)
            else none
          | _ => none
        else if isLow unit then none
        else prepend (Char.ofNat unit) (readText rest)
      | letter :: rest => do
        let c ← escaped? letter
        prepend c (readText rest)
      | [] => none
    else if c.toNat < 0x20 then none
    else prepend c (readText rest)

/-! ### Documents -/

/-- A number in digits, which starts with a zero only if it is zero, and the text after it. -/
def readNumber (input : List Char) : Option (Nat × List Char) :=
  let digits := input.takeWhile Char.isDigit
  if digits = [] ∨ (digits.head? = some '0' ∧ digits ≠ ['0']) then none
  else some (Nat.ofDigitChars 10 digits 0, input.dropWhile Char.isDigit)

/-- At most so many items with commas between them, up to the closing bracket. -/
def readSome {α : Type} (readOne : List Char → Option (α × List Char)) (closing : Char) :
    (limit : Nat) → List Char → Option (List α × List Char)
  | 0, _ => none
  | limit + 1, input => do
    let (item, rest) ← readOne input
    match skipSpace rest with
    | [] => none
    | c :: rest =>
      if c = ',' then do
        let (items, rest) ← readSome readOne closing limit rest
        return (item :: items, rest)
      else if c = closing then return ([item], rest)
      else none

/-- Items with commas between them, or none, up to the closing bracket. -/
def readItems {α : Type} (readOne : List Char → Option (α × List Char)) (closing : Char) (input : List Char) :
    Option (List α × List Char) :=
  match skipSpace input with
  | [] => none
  | c :: rest => if c = closing then some ([], rest) else readSome readOne closing input.length input

/-- A name, a colon and a value. -/
def readField (readOne : List Char → Option (Json × List Char)) (input : List Char) :
    Option ((String × Json) × List Char) :=
  match skipSpace input with
  | '"' :: rest => do
    let (name, rest) ← readText rest
    match skipSpace rest with
    | ':' :: rest => do
      let (value, rest) ← readOne rest
      return ((String.ofList name, value), rest)
    | _ => none
  | _ => none

/-- A document with less than so many collections around one another, and the text after it. -/
def readValue : (depth : Nat) → List Char → Option (Json × List Char)
  | 0, _ => none
  | depth + 1, input =>
    match skipSpace input with
    | 'n' :: 'u' :: 'l' :: 'l' :: rest => some (.null, rest)
    | '"' :: rest => (readText rest).map fun (chars, rest) => (.text (String.ofList chars), rest)
    | '[' :: rest => (readItems (readValue depth) ']' rest).map fun (elements, rest) => (.list elements, rest)
    | '\x7b' :: rest =>
      (readItems (readField (readValue depth)) '\x7d' rest).map fun (fields, rest) => (.record fields, rest)
    | other => (readNumber other).map fun (value, rest) => (.number value, rest)

/-- The document that a text holds and nothing else. Each collection takes a character at least, so there are not more
around one another than characters. -/
def read? (text : String) : Option Json :=
  match readValue text.length text.toList with
  | some (document, rest) => if skipSpace rest = [] then some document else none
  | none => none

/-- The value of the only field with the name. -/
def field? (name : String) : Json → Option Json
  | .record fields =>
    match fields.filter (·.1 = name) with
    | [(_, value)] => some value
    | _ => none
  | _ => none

def text? : Json → Option String
  | .text value => some value
  | _ => none

def elements? : Json → Option (List Json)
  | .list elements => some elements
  | _ => none

/-! ### Reading what was written -/

variable {α : Type} {c closing : Char} {input rest : List Char} {level depth limit : Nat}

theorem skipSpace_newLine (level : Nat) (input : List Char) : skipSpace (newLine level ++ input) = skipSpace input := by
  apply List.dropWhile_append_of_pos
  intro c member
  rcases List.mem_cons.mp member with rfl | blank
  · decide
  · rw [List.eq_of_mem_replicate blank]
    decide

theorem skipSpace_cons (visible : isSpace c = false) (rest : List Char) : skipSpace (c :: rest) = c :: rest :=
  List.dropWhile_cons_of_neg (by simp [visible])

theorem codeUnit?_twoDigits : ∀ n < 0x20, codeUnit? '0' '0' (Nat.digitChar (n / 16))
    (Nat.digitChar (n % 16)) = some n := by
  decide

theorem readText_quote (rest : List Char) : readText ('"' :: rest) = some ([], rest) := by
  rw [readText.eq_def]
  rfl

theorem readText_plain (quote : c ≠ '"') (backslash : c ≠ '\\') (visible : ¬ c.toNat < 0x20) (rest : List Char) :
    readText (c :: rest) = prepend c (readText rest) := by
  rw [readText.eq_def]
  simp only [if_neg quote, if_neg backslash, if_neg visible]

/-- A character is read back from the way it is written, whatever follows. -/
theorem readText_escapeChar (c : Char) (rest : List Char) : readText (escapeChar c ++ rest) =
    prepend c (readText rest) := by
  unfold escapeChar
  split
  · simp [readText, escaped?]
  · simp [readText, escaped?]
  · simp [readText, escaped?]
  · simp [readText, escaped?]
  · simp [readText, escaped?]
  · simp [readText, escaped?]
  · simp [readText, escaped?]
  next quote backslash _ _ _ _ _ =>
    split
    next control =>
      have unit := codeUnit?_twoDigits c.toNat control
      have high : isHigh c.toNat = false := by simp [isHigh]; omega
      have low : isLow c.toNat = false := by simp [isLow]; omega
      simp [readText, twoDigits, unit, high, low, Char.ofNat_toNat]
    next visible => exact readText_plain quote backslash visible rest

theorem readText_written (chars rest : List Char) :
    readText (chars.flatMap escapeChar ++ '"' :: rest) = some (chars, rest) := by
  induction chars with
  | nil => exact readText_quote rest
  | cons c chars ih => rw [List.flatMap_cons, List.append_assoc, readText_escapeChar, ih]; rfl

theorem writeText_append (value : String) (rest : List Char) :
    writeText value ++ rest = '"' :: (value.toList.flatMap escapeChar ++ '"' :: rest) := by
  simp [writeText]

/-- What may follow a number: anything but another digit. -/
def Apart (rest : List Char) : Prop :=
  ∀ c ∈ rest.head?, c.isDigit = false

theorem apart_cons (other : c.isDigit = false) (rest : List Char) : Apart (c :: rest) := by
  simp [Apart, other]

theorem head?_toDigits_ne_zero {n : Nat} (positive : 0 < n) : (Nat.toDigits 10 n).head? ≠ some '0' := by
  induction n using Nat.strongRecOn with
  | ind n ih =>
    by_cases small : n < 10
    · have single : ∀ digit < 10, 0 < digit → [Nat.digitChar digit].head? ≠ some '0' := by decide
      rw [Nat.toDigits_of_lt_base small]
      exact single n small positive
    · rw [Nat.toDigits_of_base_le (by decide) (by omega), List.head?_append, Option.or_of_isSome (by simp)]
      exact ih (n / 10) (by omega) (by omega)

theorem readNumber_written (n : Nat) (apart : Apart rest) :
    readNumber (Nat.toDigits 10 n ++ rest) = some (n, rest) := by
  have digits : ∀ c ∈ Nat.toDigits 10 n, c.isDigit = true := fun c member =>
    Nat.isDigit_of_mem_toDigits (by decide) (by decide) member
  have stop : rest.takeWhile Char.isDigit = [] ∧ rest.dropWhile Char.isDigit = rest := by
    cases rest with
    | nil => exact ⟨rfl, rfl⟩
    | cons c rest => simp [apart c rfl]
  have plain : ¬ (Nat.toDigits 10 n = [] ∨ ((Nat.toDigits 10 n).head? = some '0' ∧ Nat.toDigits 10 n ≠ ['0'])) := by
    rintro (empty | ⟨zero, more⟩)
    · exact Nat.toDigits_ne_nil empty
    · rcases Nat.eq_zero_or_pos n with rfl | positive
      · exact more (Nat.toDigits_zero 10)
      · exact head?_toDigits_ne_zero positive zero
  unfold readNumber
  rw [List.takeWhile_append_of_pos digits, List.dropWhile_append_of_pos digits, stop.1, stop.2, List.append_nil]
  exact (if_neg plain).trans (by rw [Nat.ofDigitChars_ten_toDigits])

/-! ### Collections -/

/-- Something written that no reader takes for white space, for a comma or for the end of a collection. -/
def Begins (closing : Char) (written : List Char) : Prop :=
  ∃ c rest, written = c :: rest ∧ isSpace c = false ∧ c ≠ closing

/-- A character that may close a collection. -/
structure Closes (closing : Char) : Prop where
  visible : isSpace closing = false
  noComma : closing ≠ ','

variable {readOne : List Char → Option (α × List Char)} {written : α → List Char} {items more : List α} {first : α}

/-- An item after the first is written on a line of its own, after a comma. -/
def furtherItems (level : Nat) (written : α → List Char) (items : List α) : List Char :=
  items.flatMap fun item => ',' :: newLine level ++ written item

theorem apart_newLine (level : Nat) (rest : List Char) : Apart (newLine level ++ rest) :=
  apart_cons (by decide) _

theorem furtherItems_cons (level : Nat) (written : α → List Char) (second : α) (others : List α) (tail : List Char) :
    furtherItems level written (second :: others) ++ tail =
      ',' :: (newLine level ++ (written second ++ (furtherItems level written others ++ tail))) := by
  simp [furtherItems]

theorem length_furtherItems_lt (level : Nat) (written : α → List Char) (second : α) (others : List α) :
    (furtherItems level written others).length < (furtherItems level written (second :: others)).length := by
  simp only [furtherItems, List.flatMap_cons, List.length_append, List.length_cons]
  omega

/-- Items are read up to the closing bracket if each of them is read from its own line. -/
theorem readSome_written (closes : Closes closing) (outer : Nat) (rest : List Char)
    (each : ∀ item ∈ first :: more, ∀ rest, Apart rest →
      readOne (newLine level ++ (written item ++ rest)) = some (item, rest))
    (enough : (furtherItems level written more).length < limit) :
    readSome readOne closing limit
      (newLine level ++ (written first ++ (furtherItems level written more ++ (newLine outer ++ closing :: rest)))) =
        some (first :: more, rest) := by
  obtain ⟨limit, rfl⟩ := Nat.exists_eq_succ_of_ne_zero (Nat.ne_of_gt (Nat.zero_lt_of_lt enough))
  induction more generalizing first limit with
  | nil =>
    have read := each first List.mem_cons_self _ (apart_newLine outer (closing :: rest))
    simp [readSome, furtherItems, read, skipSpace_newLine, skipSpace_cons closes.visible, closes.noComma]
  | cons second others ih =>
    have shorter := length_furtherItems_lt level written second others
    obtain ⟨limit, rfl⟩ := Nat.exists_eq_succ_of_ne_zero (Nat.ne_of_gt (show 0 < limit by omega))
    have further := ih (fun item member => each item (List.mem_cons_of_mem _ member)) limit (by omega)
    have apart : Apart
      (',' :: (newLine level ++
        (written second ++ (furtherItems level written others ++ (newLine outer ++ closing :: rest))))) :=
      apart_cons (by decide) _
    rw [readSome, furtherItems_cons, each first List.mem_cons_self _ apart]
    simp [skipSpace_cons (show isSpace ',' = false by decide), further]

theorem readItems_bracket (closes : Closes closing) (opening : Char)
    (each : ∀ item ∈ items, ∀ rest, Apart rest →
      readOne (newLine (level + 1) ++ (written item ++ rest)) = some (item, rest))
    (begins : ∀ item ∈ items, Begins closing (written item)) :
    ∃ inner, bracket opening closing level (items.map written) ++ rest = opening :: inner ∧
      readItems readOne closing inner = some (items, rest) := by
  cases items with
  | nil => exact ⟨closing :: rest, rfl, by simp [readItems, skipSpace_cons closes.visible]⟩
  | cons first more =>
    refine ⟨newLine (level + 1) ++
      (written first ++ (furtherItems (level + 1) written more ++ (newLine level ++ closing :: rest))), ?_, ?_⟩
    · simp [bracket, furtherItems, List.flatMap_map]
    · obtain ⟨c, tail, shape, visible, other⟩ := begins first List.mem_cons_self
      have enough : (furtherItems (level + 1) written more).length <
          (newLine (level + 1) ++
            (written first ++
              (furtherItems (level + 1) written more ++ (newLine level ++ closing :: rest)))).length := by
        simp only [List.length_append, List.length_cons]
        omega
      have read := readSome_written closes level rest each enough
      unfold readItems
      rw [skipSpace_newLine, shape, List.cons_append, skipSpace_cons visible]
      simp only [if_neg other]
      rwa [shape] at read

theorem length_lt_bracket {opening : Char} {elements : List (List Char)} {element : List Char}
    (member : element ∈ elements) :
    element.length < (bracket opening closing level elements).length := by
  cases elements with
  | nil => cases member
  | cons first rest =>
    simp only [bracket, List.length_append, List.length_cons]
    rcases List.mem_cons.mp member with rfl | further
    · omega
    · have inside :=
        (List.sublist_flatten_of_mem
          (List.mem_map_of_mem (f := fun element => ',' :: newLine (level + 1) ++ element) further)).length_le
      rw [← List.flatMap_def] at inside
      simp only [List.length_append, List.length_cons] at inside
      omega

/-! ### Documents as they are written -/

def writeField (level : Nat) (field : String × Json) : List Char :=
  writeText field.1 ++ ':' :: ' ' :: write level field.2

theorem writeElements_eq_map (level : Nat) (elements : List Json) : writeElements level elements =
    elements.map (write level) := by
  induction elements with
  | nil => rfl
  | cons first rest ih => rw [writeElements, ih, List.map_cons]

theorem writeFields_eq_map (level : Nat) (fields : List (String × Json)) :
    writeFields level fields = fields.map (writeField level) := by
  induction fields with
  | nil => rfl
  | cons first rest ih => rw [writeFields, ih, List.map_cons]; rfl

theorem isSpace_of_isDigit (digit : c.isDigit = true) : isSpace c = false := by
  simp only [isSpace, Bool.or_eq_false_iff, decide_eq_false_iff_not]
  refine ⟨⟨⟨?_, ?_⟩, ?_⟩, ?_⟩ <;> rintro rfl <;> exact absurd digit (by decide)

theorem exists_digit (n : Nat) : ∃ c rest, Nat.toDigits 10 n = c :: rest ∧ c.isDigit = true := by
  obtain ⟨c, rest, shape⟩ := List.exists_cons_of_ne_nil (Nat.toDigits_ne_nil (n := n) (b := 10))
  exact ⟨c, rest, shape, Nat.isDigit_of_mem_toDigits (b := 10) (n := n) (by decide) (by decide) (by simp [shape])⟩

theorem exists_bracket (opening closing : Char) (level : Nat) (elements : List (List Char)) :
    ∃ inner, bracket opening closing level elements = opening :: inner := by
  cases elements with
  | nil => exact ⟨_, rfl⟩
  | cons first rest => exact ⟨_, rfl⟩

theorem exists_bracket_closed (opening closing : Char) (level : Nat) (elements : List (List Char)) :
    ∃ inner, bracket opening closing level elements = inner ++ [closing] := by
  cases elements with
  | nil => exact ⟨[opening], rfl⟩
  | cons first rest => exact ⟨_, rfl⟩

theorem begins_write (level : Nat) (document : Json) : Begins ']' (write level document) := by
  cases document with
  | null => exact ⟨'n', _, rfl, by decide, by decide⟩
  | number value =>
    obtain ⟨c, rest, shape, digit⟩ := exists_digit value
    refine ⟨c, rest, shape, isSpace_of_isDigit digit, ?_⟩
    rintro rfl
    exact absurd digit (by decide)
  | text value => exact ⟨'"', _, rfl, by decide, by decide⟩
  | list elements =>
    obtain ⟨inner, shape⟩ := exists_bracket '[' ']' level (writeElements (level + 1) elements)
    exact ⟨'[', inner, shape, by decide, by decide⟩
  | record fields =>
    obtain ⟨inner, shape⟩ := exists_bracket '\x7b' '\x7d' level (writeFields (level + 1) fields)
    exact ⟨'\x7b', inner, shape, by decide, by decide⟩

theorem begins_writeField (level : Nat) (field : String × Json) : Begins '\x7d' (writeField level field) :=
  ⟨'"', _, rfl, by decide, by decide⟩

theorem readValue_congr {other : List Char} (same : skipSpace input = skipSpace other) :
    readValue depth input = readValue depth other := by
  cases depth with
  | zero => rfl
  | succ depth => rw [readValue, readValue, same]

theorem readValue_number (digit : c.isDigit = true) (rest : List Char) :
    readValue (depth + 1) (c :: rest) = (readNumber (c :: rest)).map fun (value, rest) => (.number value, rest) := by
  rw [readValue, skipSpace_cons (isSpace_of_isDigit digit)]
  split
  next same => cases same; exact absurd digit (by decide)
  next same => cases same; exact absurd digit (by decide)
  next same => cases same; exact absurd digit (by decide)
  next same => cases same; exact absurd digit (by decide)
  next => rfl

theorem readField_written {field : String × Json}
    (read : readValue depth (write level field.2 ++ rest) = some (field.2, rest)) :
    readField (readValue depth) (newLine level ++ (writeField level field ++ rest)) = some (field, rest) := by
  have value : readValue depth (' ' :: (write level field.2 ++ rest)) = some (field.2, rest) := by
    rw [← read]
    exact readValue_congr rfl
  unfold readField
  rw [skipSpace_newLine, writeField, List.append_assoc, writeText_append, skipSpace_cons (by decide)]
  simp [readText_written, skipSpace_cons (show isSpace ':' = false by decide), value]

/-- A document is read back from its text, at every level and whatever follows it. The induction is on the depth,
since a collection is longer than each of the documents in it. -/
theorem readValue_written (document : Json) (enough : (write level document).length ≤ depth) (apart : Apart rest) :
    readValue depth (write level document ++ rest) = some (document, rest) := by
  induction depth generalizing level document rest with
  | zero =>
    obtain ⟨c, tail, shape, -⟩ := begins_write level document
    simp [shape] at enough
  | succ depth ih =>
    cases document with
    | null => rfl
    | number value =>
      obtain ⟨c, tail, shape, digit⟩ := exists_digit value
      have read := readNumber_written value apart
      rw [shape, List.cons_append] at read
      rw [write, shape, List.cons_append, readValue_number digit, read]
      rfl
    | text value =>
      rw [write, writeText_append, readValue, skipSpace_cons (by decide)]
      simp [readText_written]
    | list elements =>
      rw [write, writeElements_eq_map] at enough ⊢
      have closes : Closes ']' := ⟨by decide, by decide⟩
      have each : ∀ element ∈ elements, ∀ rest, Apart rest →
          readValue depth (newLine (level + 1) ++ (write (level + 1) element ++ rest)) = some (element, rest) := by
        intro element member rest apart
        have shorter := Nat.lt_of_lt_of_le (length_lt_bracket (List.mem_map_of_mem member)) enough
        rw [readValue_congr (skipSpace_newLine _ _)]
        exact ih element (Nat.le_of_lt_succ shorter) apart
      obtain ⟨inner, shape, read⟩ := readItems_bracket closes '[' each fun element _ => begins_write _ element
      rw [shape, readValue, skipSpace_cons (by decide)]
      simp [read]
    | record fields =>
      rw [write, writeFields_eq_map] at enough ⊢
      have closes : Closes '\x7d' := ⟨by decide, by decide⟩
      have each : ∀ field ∈ fields, ∀ rest, Apart rest →
          readField (readValue depth)
          (newLine (level + 1) ++ (writeField (level + 1) field ++ rest)) = some (field, rest) := by
        intro field member rest apart
        have shorter := Nat.lt_of_lt_of_le (length_lt_bracket (List.mem_map_of_mem member)) enough
        simp only [writeField, List.length_append, List.length_cons] at shorter
        exact readField_written (ih field.2 (by omega) apart)
      obtain ⟨inner, shape, read⟩ := readItems_bracket closes '\x7b' each fun field _ => begins_writeField _ field
      rw [shape, readValue, skipSpace_cons (by decide)]
      simp [read]

theorem read?_render (document : Json) {space : String} (blank : skipSpace space.toList = [])
    (apart : Apart space.toList) :
    read? (document.render ++ space) = some document := by
  have letters : (document.render ++ space).toList = write 0 document ++ space.toList := by simp [render]
  have enough : (write 0 document).length ≤ (document.render ++ space).length := by
    rw [← String.length_toList, letters, List.length_append]
    omega
  unfold read?
  rw [letters, readValue_written document enough apart]
  exact if_pos blank

/-- Another layout, and other escapes than those that are written. -/
example :
    (read? " \x7b\t\"\\u00e9\\ud83d\\ude00\\/\"\r\n: \"\\b\" \x7d ").map render =
    some "\x7b\n  \"é😀/\": \"\\b\"\n\x7d" := by
  decide +kernel

end Json

/-! ### Summaries -/

/-- The console script that a document describes. -/
def ConsoleScript.ofJson? (document : Json) : Option ConsoleScript := do
  let name ← (← document.field? "name").text?
  let moduleName ← (← document.field? "module").text?
  let object ← (← document.field? "attribute").text?
  return ⟨name, moduleName, object⟩

theorem ConsoleScript.ofJson?_toJson (script : ConsoleScript) : ofJson? script.toJson = some script := by
  simp [ofJson?, toJson, Json.field?, Json.text?]

namespace Summary

/-- The summary that a document describes. -/
def ofJson? (document : Json) : Option Summary := do
  let scripts ← (← document.field? "entry_points").elements?
  let scripts ← scripts.mapM ConsoleScript.ofJson?
  let pythonVersion ← (← document.field? "python_version").text?
  return ⟨scripts, pythonVersion⟩

/-- The summary that the content of a summary file tells. -/
def decode? (text : String) : Option Summary :=
  (Json.read? text).bind ofJson?

theorem mapM_ofJson? (scripts : List ConsoleScript) :
    (scripts.map ConsoleScript.toJson).mapM ConsoleScript.ofJson? = some scripts := by
  induction scripts with
  | nil => rfl
  | cons script rest ih => rw [List.map_cons, List.mapM_cons, script.ofJson?_toJson, ih]; rfl

theorem ofJson?_toJson (summary : Summary) : ofJson? summary.toJson = some summary := by
  simp [ofJson?, toJson, Json.field?, Json.elements?, Json.text?, -List.mapM_map, mapM_ofJson?]

theorem read?_render (summary : Summary) : Json.read? summary.render = some summary.toJson :=
  summary.toJson.read?_render (by decide) (Json.apart_cons (by decide) [])

theorem decode?_render (summary : Summary) : decode? summary.render = some summary := by
  rw [decode?, read?_render]
  exact summary.ofJson?_toJson

theorem exists_toList_render (summary : Summary) : ∃ before, summary.render.toList = before ++ ['\x7d', '\n'] := by
  obtain ⟨before, shape⟩ : ∃ before, summary.toJson.write 0 = before ++ ['\x7d'] := by
    rw [toJson, Json.write]
    exact Json.exists_bracket_closed _ _ _ _
  exact ⟨before, by simp [render, Json.render, shape]⟩

/-- A summary file holds one record, of the entry points in their order and the version of the interpreter, and ends
with one line feed after it. It tells exactly the summary that it was written from, so no two summaries have the same
file. -/
theorem render_determines (summary : Summary) :
    (∃ before, summary.render.toList = before ++ ['\x7d', '\n']) ∧
      Json.read? summary.render = some (.record [
        ("entry_points", .list (summary.scripts.map fun script => .record [("name", .text script.name),
          ("module", .text script.moduleName), ("attribute", .text script.object)])),
        ("python_version", .text summary.pythonVersion)]) ∧
      decode? summary.render = some summary ∧ ∀ other : Summary, other.render = summary.render → other = summary := by
  refine ⟨summary.exists_toList_render, summary.read?_render, summary.decode?_render, fun other same => ?_⟩
  have told := other.decode?_render
  rw [same, summary.decode?_render] at told
  exact (Option.some.inj told).symm

end Summary
end WheelInstaller
