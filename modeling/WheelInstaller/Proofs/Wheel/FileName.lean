import WheelInstaller.Proofs.Text.Split
import WheelInstaller.Proofs.Wheel.Content

/-!
File names and format versions as texts. A wheel is named by its parts with a dash between neighbours, so a
part must not be empty and must not hold a dash itself, and a sixth part must look like a build tag. Dots are
no separators: a part may hold them, and may even end like a file name. A version of the format is two numbers
of four bytes with a dot between them, the first of value one; a number may have zeros in front and also a plus
sign, which is no digit.
-/

namespace WheelInstaller

namespace WheelName

open Text (splitOn joinWith)

/-- The parts of a name, in the order in which they are written. -/
def parts (name : WheelName) : List String :=
  match name.build with
  | none => [name.name, name.version, name.python, name.abi, name.platform]
  | some tag => [name.name, name.version, tag, name.python, name.abi, name.platform]

/-- A name that its file name tells. -/
structure WellFormed (name : WheelName) : Prop where
  filled : ∀ part ∈ name.parts, part ≠ ""
  noDash : ∀ part ∈ name.parts, '-' ∉ part.toList
  numbered : ∀ tag, name.build = some tag → ∃ digit rest, tag.toList = digit :: rest ∧ digit.isDigit = true

variable {name : WheelName} {fileName : String} {pieces : List (List Char)} {tag : List Char}

theorem parts_ne_nil (name : WheelName) : name.parts ≠ [] := by
  unfold parts
  split <;> exact List.cons_ne_nil _ _

theorem toList_render (name : WheelName) : name.render.toList = joinWith '-'
    (name.parts.map String.toList) ++ suffix := by
  cases tag : name.build with
  | none => simp [render, parts, tag, joinWith, suffix, toString]
  | some text => simp [render, parts, tag, joinWith, suffix, toString]

theorem isBuildTag_iff : isBuildTag tag = true ↔ ∃ digit rest, tag = digit :: rest ∧ digit.isDigit = true := by
  cases tag <;> simp [isBuildTag]

theorem ofParts?_eq_some_iff :
    ofParts? pieces = some name ↔
      pieces = name.parts.map String.toList ∧ ∀ tag, name.build = some tag → isBuildTag tag.toList = true := by
  constructor
  · intro made
    unfold ofParts? at made
    split at made
    · cases made
      simp [parts]
    · split at made
      next numbered =>
        cases made
        simpa [parts] using numbered
      · cases made
    · cases made
  · rintro ⟨rfl, numbered⟩
    obtain ⟨first, version, build, python, abi, platform⟩ := name
    cases build with
    | none => simp [ofParts?, parts]
    | some tag => simp [ofParts?, parts, numbered tag rfl]

theorem parse?_eq_some_iff_pieces :
    parse? fileName = some name ↔
      ∃ stem, fileName.toList = stem ++ suffix ∧ (∀ piece ∈ splitOn '-' stem, piece ≠ []) ∧
      ofParts? (splitOn '-' stem) = some name := by
  unfold parse?
  simp only [bind, Option.bind_eq_some_iff, Text.dropSuffix?_eq_some_iff]
  refine exists_congr fun stem => and_congr_right fun _ => ?_
  split
  next holds =>
    obtain ⟨piece, member, empty⟩ := List.any_eq_true.mp holds
    exact iff_of_false (by simp) fun ⟨filled, _⟩ => filled piece member (List.isEmpty_iff.mp empty)
  next holds =>
    refine (and_iff_right fun piece member empty => holds ?_).symm
    exact List.any_eq_true.mpr ⟨piece, member, List.isEmpty_iff.mpr empty⟩

theorem parse?_eq_some_iff : parse? fileName = some name ↔ name.WellFormed ∧ name.render = fileName := by
  rw [parse?_eq_some_iff_pieces]
  constructor
  · rintro ⟨stem, whole, filled, made⟩
    obtain ⟨pieces, numbered⟩ := ofParts?_eq_some_iff.mp made
    rw [pieces] at filled
    have noDash : ∀ part ∈ name.parts, '-' ∉ part.toList := by
      intro part member
      apply Text.not_mem_of_mem_splitOn
      rw [pieces]
      exact List.mem_map_of_mem member
    refine ⟨⟨fun part member empty => ?_, noDash, fun tag told => isBuildTag_iff.mp (numbered tag told)⟩, ?_⟩
    · exact filled _ (List.mem_map_of_mem member) (by rw [empty]; rfl)
    · rw [← String.toList_inj, toList_render, ← pieces, Text.joinWith_splitOn, whole]
  · rintro ⟨formed, rfl⟩
    have clean : ∀ piece ∈ name.parts.map String.toList, '-' ∉ piece := List.forall_mem_map.mpr formed.noDash
    have pieces : splitOn '-' (joinWith '-' (name.parts.map String.toList)) = name.parts.map String.toList :=
      Text.splitOn_joinWith (by simpa using name.parts_ne_nil) clean
    refine ⟨_, name.toList_render, ?_, ?_⟩
    · rw [pieces]
      simpa [List.forall_mem_map] using formed.filled
    · rw [pieces]
      exact ofParts?_eq_some_iff.mpr ⟨rfl, fun tag told => isBuildTag_iff.mpr (formed.numbered tag told)⟩

/-- What is read from a file name is well formed and has that very file name, and every well-formed name is read from
its own. So the file names that are read are those of well-formed names, and two of them are never read as the same
name. -/
theorem parse?_inverts_render :
    (∀ (fileName : String) (name : WheelName), parse? fileName = some name ↔ name.WellFormed ∧ name.render = fileName) ∧
      (∀ fileName, (parse? fileName).isSome = true ↔ ∃ name : WheelName, name.WellFormed ∧ name.render = fileName) ∧
        ∀ first second, (parse? first).isSome = true → parse? first = parse? second → first = second := by
  refine ⟨fun fileName name => parse?_eq_some_iff, fun fileName => ?_, fun first second read same => ?_⟩
  · rw [Option.isSome_iff_exists]
    exact exists_congr fun name => parse?_eq_some_iff
  · obtain ⟨name, found⟩ := Option.isSome_iff_exists.mp read
    exact (parse?_eq_some_iff.mp found).2.symm.trans (parse?_eq_some_iff.mp (same ▸ found)).2

/-- A platform that ends like a file name, after a build tag that goes on after its digit. -/
theorem parse?_inverts_render_dotted :
    let name : WheelName := ⟨"my.tool", "1.0", some "2_b.whl", "py3", "none", "any.whl"⟩
    name.WellFormed ∧ name.render = "my.tool-1.0-2_b.whl-py3-none-any.whl.whl" ∧
      parse? "my.tool-1.0-2_b.whl-py3-none-any.whl.whl" = some name := by
  intro name
  have written : name.render = "my.tool-1.0-2_b.whl-py3-none-any.whl.whl" := by decide +kernel
  have formed : name.WellFormed :=
    ⟨by decide +kernel, by decide +kernel, by rintro _ ⟨⟩; exact ⟨'2', "_b.whl".toList, by decide +kernel, by decide⟩⟩
  exact ⟨formed, written, (parse?_inverts_render.1 _ name).mpr ⟨formed, written⟩⟩

end WheelName

namespace WheelFormat

open Text (trim isBlank)

/-- Text of nothing but decimal digits, and the number that it stands for. -/
structure Digits (text : List Char) (value : Nat) : Prop where
  filled : text ≠ []
  digits : ∀ c ∈ text, c.isDigit = true
  value : Nat.ofDigitChars 10 text 0 = value

/-- A number of four bytes in digits, with or without a plus sign in front. -/
def Numeral (text : List Char) (value : Nat) : Prop :=
  value < 0x100000000 ∧ (Digits text value ∨ ∃ digits, text = '+' :: digits ∧ Digits digits value)

/-- What a known version looks like once the white space around it is taken away. -/
def Spells (version : String) (format : WheelFormat) : Prop :=
  ∃ major minor, trim version.toList = major ++ '.' :: minor ∧ Numeral major 1 ∧ Numeral minor format.minor

/-- The same without a sign: nothing but digits on both sides of the dot. -/
def SpellsPlainly (version : String) (format : WheelFormat) : Prop :=
  ∃ major minor, trim version.toList = major ++ '.' :: minor ∧ Digits major 1 ∧ Digits minor format.minor ∧
    format.minor < 0x100000000

variable {c : Char} {text : List Char} {value : Nat} {version : String} {format : WheelFormat}

/-! ### Numbers -/

theorem Digits.not_mem (number : Digits text value) (other : c.isDigit = false) : c ∉ text := by
  intro member
  simp [number.digits c member] at other

theorem Numeral.no_dot (number : Numeral text value) : '.' ∉ text := by
  rcases number.2 with plain | ⟨digits, rfl, signed⟩
  · exact plain.not_mem (by decide)
  · simpa using signed.not_mem (by decide)

/-- Digits are read by their value, which is told as long as it fits. -/
theorem readDigits_iff :
    (if !text.isEmpty && text.all Char.isDigit && digitsValue text < 0x100000000 then some (digitsValue text)
      else none) = some value ↔
      value < 0x100000000 ∧ Digits text value := by
  have told : digitsValue text = Nat.ofDigitChars 10 text 0 := rfl
  simp only [Option.ite_none_right_eq_some, Option.some.injEq, told, Bool.and_eq_true,
    Bool.not_eq_true', List.all_eq_true,
    decide_eq_true_eq, List.isEmpty_eq_false_iff]
  constructor
  · rintro ⟨⟨⟨filled, digits⟩, fits⟩, rfl⟩
    exact ⟨fits, filled, digits, rfl⟩
  · rintro ⟨fits, filled, digits, rfl⟩
    exact ⟨⟨⟨filled, digits⟩, fits⟩, rfl⟩

theorem readNumber?_eq_some_iff : readNumber? text = some value ↔ Numeral text value := by
  unfold readNumber? Numeral
  dsimp only
  split
  next rest =>
    rw [readDigits_iff]
    refine and_congr_right fun _ => ⟨fun digits => .inr ⟨rest, rfl, digits⟩, ?_⟩
    rintro (plain | ⟨digits, same, signed⟩)
    · exact absurd (List.mem_cons_self) (plain.not_mem (c := '+') (by decide))
    · cases same
      exact signed
  next unsigned =>
    rw [readDigits_iff]
    refine and_congr_right fun _ => ⟨.inl, ?_⟩
    rintro (plain | ⟨digits, same, -⟩)
    · exact plain
    · exact absurd same (unsigned digits)

/-! ### Versions -/

theorem parse?_eq_some_iff : parse? version = some format ↔ Spells version format := by
  have read : parse? version = some format ↔
      ∃ pair, Text.splitOnce '.' (trim version.toList) = some pair ∧ ∃ major, readNumber? pair.1 = some major ∧
        ∃ minor, readNumber? pair.2 = some minor ∧
        (if major = 1 then some (⟨minor⟩ : WheelFormat) else none) = some format := by
    simp only [parse?, bind, Option.bind_eq_some_iff]
  rw [read]
  constructor
  · rintro ⟨⟨major, minor⟩, cut, value, first, fraction, second, known⟩
    split at known
    next one =>
      cases known
      subst one
      exact ⟨major, minor, (Text.splitOnce_eq_some cut).2, readNumber?_eq_some_iff.mp first,
        readNumber?_eq_some_iff.mp second⟩
    · cases known
  · rintro ⟨major, minor, whole, first, second⟩
    refine ⟨⟨major, minor⟩, ?_, 1, readNumber?_eq_some_iff.mpr first, format.minor,
      readNumber?_eq_some_iff.mpr second, if_pos rfl⟩
    rw [whole, Text.splitOnce_append first.no_dot]

theorem SpellsPlainly.no_sign (spelled : SpellsPlainly version format) : '+' ∉ version.toList := by
  obtain ⟨major, minor, whole, first, second, -⟩ := spelled
  intro member
  have kept := Text.mem_trim_of_visible member (by decide +kernel)
  rw [whole, List.mem_append, List.mem_cons] at kept
  rcases kept with left | dot | right
  · exact first.not_mem (by decide) left
  · exact absurd dot (by decide)
  · exact second.not_mem (by decide) right

theorem spells_iff_of_no_sign (unsigned : '+' ∉ version.toList) : Spells version format ↔
    SpellsPlainly version format := by
  refine exists₂_congr fun major minor => and_congr_right fun whole => ?_
  have clean : '+' ∉ major ++ '.' :: minor := fun member => unsigned (Text.mem_of_mem_trim (whole ▸ member))
  have plain {text : List Char} {value : Nat} (inside : '+' ∉ text) : Numeral text value ↔ value < 0x100000000 ∧
    Digits text value := by
    refine and_congr_right fun _ => or_iff_left ?_
    rintro ⟨digits, rfl, -⟩
    exact inside List.mem_cons_self
  simp only [List.mem_append, List.mem_cons, not_or] at clean
  rw [plain clean.1, plain clean.2.2]
  constructor
  · rintro ⟨⟨-, one⟩, fits, number⟩
    exact ⟨one, number, fits⟩
  · rintro ⟨one, number, fits⟩
    exact ⟨⟨by decide, one⟩, fits, number⟩

/-- Only a sign is taken beside what is nothing but digits. -/
theorem parse?_plainly_iff :
    (∀ format, parse? version = some format ↔ SpellsPlainly version format) ↔
    ('+' ∈ version.toList → parse? version = none) := by
  constructor
  · intro plain signed
    refine Option.eq_none_iff_forall_ne_some.mpr fun format known => ?_
    exact ((plain format).mp known).no_sign signed
  · intro refused format
    by_cases signed : '+' ∈ version.toList
    · rw [refused signed]
      exact iff_of_false nofun fun spelled => spelled.no_sign signed
    · rw [parse?_eq_some_iff, spells_iff_of_no_sign signed]

theorem isBlank_of_isDigit (digit : c.isDigit = true) : isBlank c = false := by
  simp only [Char.isDigit, Bool.and_eq_true, decide_eq_true_eq] at digit
  have low : 48 ≤ c.toNat := digit.1
  have high : c.toNat ≤ 57 := digit.2
  simp [isBlank, Text.whiteSpaceRanges, Text.CodeRange.holds]
  omega

theorem digits_toDigits (n : Nat) : Digits (Nat.toDigits 10 n) n :=
  ⟨Nat.toDigits_ne_nil, fun _ member => Nat.isDigit_of_mem_toDigits (by decide) (by decide) member,
    Nat.ofDigitChars_ten_toDigits⟩

theorem render_eq (format : WheelFormat) : format.render.toList = '1' :: '.' :: Nat.toDigits 10 format.minor := by
  simp [render, toString]

/-- A format is told by its own text as long as its number fits. -/
theorem spells_render_iff : Spells format.render format ↔ format.minor < 0x100000000 := by
  have whole : trim format.render.toList = ['1'] ++ '.' :: Nat.toDigits 10 format.minor := by
    rw [render_eq]
    apply Text.trim_of_no_blank
    simp only [List.forall_mem_cons]
    exact ⟨by decide, by decide, fun c member => isBlank_of_isDigit ((digits_toDigits format.minor).digits c member)⟩
  constructor
  · rintro ⟨major, minor, -, -, number⟩
    exact number.1
  · intro fits
    exact ⟨['1'], Nat.toDigits 10 format.minor, whole, ⟨by decide, .inl ⟨by simp, by simp, by decide⟩⟩, fits,
      .inl (digits_toDigits format.minor)⟩

end WheelFormat

namespace Wheel

variable {path : Path} {content : Except OsError ByteArray} {wheel : Wheel}

/-- The format of a wheel is what the first version header of its `WHEEL` member tells. -/
theorem parse?_of_ofContent (done : ofContent path content = .ok wheel) :
    ∃ index entry text block version, openContainer path content = .ok index ∧ entry ∈ wheel.entries ∧
      entry.path = s!"{wheel.distInfo}/WHEEL" ∧ readEntry path index entry = .ok text ∧
      HeaderBlock.parse text = .ok block ∧
        block.get? "Wheel-Version" = some version ∧ WheelFormat.parse? version = some wheel.format := by
  obtain ⟨-, index, entry, text, opened, -, -, found, told, known⟩ := ofContent_eq_ok done
  unfold readFormat at known
  split at known; · cases known
  next block headers =>
  split at known; · cases known
  next version first =>
  split at known; · cases known
  next format accepted =>
  cases known
  have named := List.find?_some found
  rw [decide_eq_true_eq] at named
  exact ⟨index, entry, text, block, version, opened, List.mem_of_find?_eq_some found, named, told,
    headers, first, accepted⟩

end Wheel

namespace WheelFormat

open Text (trim)

/-- A version is known exactly if it is two numbers with a dot between them, the first of value one and the second the
minor version. That is two numbers of nothing but digits exactly for the versions that are not known by a plus sign in
them. The text of a format is read as that format exactly if its minor version fits four bytes. And a wheel only opens
if the first version in its `WHEEL` member is so spelled, as the format that it is opened with. -/
theorem parse?_knows_exactly (version : String) (format : WheelFormat) :
    (parse? version = some format ↔ Spells version format) ∧
      ((∀ format, parse? version = some format ↔ SpellsPlainly version format) ↔
        ('+' ∈ version.toList → parse? version = none)) ∧
      (parse? format.render = some format ↔ format.minor < 0x100000000) ∧
      ∀ path content wheel, Wheel.ofContent path content = .ok wheel →
        ∃ index entry text block version, Wheel.openContainer path content = .ok index ∧ entry ∈ wheel.entries ∧
          entry.path = s!"{wheel.distInfo}/WHEEL" ∧ Wheel.readEntry path index entry = .ok text ∧
          HeaderBlock.parse text = .ok block ∧ block.get? "Wheel-Version" = some version ∧
          Spells version wheel.format := by
  refine ⟨parse?_eq_some_iff, parse?_plainly_iff, ?_, fun path content wheel done => ?_⟩
  · rw [parse?_eq_some_iff, spells_render_iff]
  · obtain ⟨index, entry, text, block, version, opened, member, named, told, headers, first, known⟩ :=
      Wheel.parse?_of_ofContent done
    exact ⟨index, entry, text, block, version, opened, member, named, told, headers, first, parse?_eq_some_iff.mp known⟩

/-- Zeros in front, white space around, and the largest number of four bytes; one more is too many. -/
theorem parse?_knows_exactly_padded :
    '+' ∉ " 001.04294967295\t".toList ∧ parse? " 001.04294967295\t" = some ⟨4294967295⟩ ∧
      parse? (render ⟨4294967295⟩) = some ⟨4294967295⟩ ∧ parse? (render ⟨4294967296⟩) ≠ some ⟨4294967296⟩ := by
  have unsigned : '+' ∉ " 001.04294967295\t".toList := by decide +kernel
  have major : Digits "001".toList 1 := ⟨by decide, List.all_eq_true.mp (by decide +kernel), by decide +kernel⟩
  have minor : Digits "04294967295".toList 4294967295 :=
    ⟨by decide, List.all_eq_true.mp (by decide +kernel), by decide +kernel⟩
  obtain ⟨-, plain, back, -⟩ := parse?_knows_exactly " 001.04294967295\t" ⟨4294967295⟩
  obtain ⟨-, -, wide, -⟩ := parse?_knows_exactly " 001.04294967295\t" ⟨4294967296⟩
  have known := (plain.mpr fun signed => absurd signed unsigned) ⟨4294967295⟩
  refine ⟨unsigned, known.mpr ⟨_, _, by decide +kernel, major, minor, by decide⟩, back.mpr (by decide), fun read => ?_⟩
  exact absurd (wide.mp read) (by decide)

example : parse? "+1.+0" = some ⟨0⟩ := by decide +kernel

end WheelFormat
end WheelInstaller
