import Mathlib.Data.List.Nodup
import WheelInstaller.Proofs.Wheel.Content

/-! What becomes of the records of a central directory when a wheel is opened. Two readers go over the same bytes: the
index keeps one record for each decoded name, and the check for repetitions compares the names as they stand in the
file. -/

namespace WheelInstaller.Container

open Bytes

instance lawfulBEqByteArray : LawfulBEq ByteArray where
  eq_of_beq {first second} same := by
    cases first
    cases second
    exact congrArg ByteArray.mk (eq_of_beq same)
  rfl {bytes} := by
    cases bytes
    exact BEq.rfl (α := Array UInt8)

def rawName (file : ByteArray) (position : Nat) : ByteArray :=
  file.extract (position + recordSize) (position + recordSize + number file (position + 28) 2)

/-- Where the record at a position ends. -/
def recordEnd (file : ByteArray) (position : Nat) : Nat :=
  position + recordSize + number file (position + 28) 2 + number file (position + 30) 2 + number file (position + 32) 2

/-- The raw names of so many records, one after the other. -/
def rawNames (file : ByteArray) : (count position : Nat) → List ByteArray
  | 0, _ => []
  | count + 1, position => rawName file position :: rawNames file count (recordEnd file position)

/-- A record starts at the position: its mark, and every byte that stands before a name. -/
def Starts (file : ByteArray) (position : Nat) : Prop :=
  position + recordSize ≤ file.size ∧ standsAt recordMark file position = true

/-- The file holds the whole name of the record at the position. -/
def NameInside (file : ByteArray) (position : Nat) : Prop :=
  position + recordSize + number file (position + 28) 2 ≤ file.size

instance (file : ByteArray) (position : Nat) : Decidable (NameInside file position) :=
  Nat.decLe _ _

theorem le_recordEnd (file : ByteArray) (position : Nat) : position + recordSize ≤ recordEnd file position := by
  unfold recordEnd
  omega

theorem nameInside_of_recordEnd_le {file : ByteArray} {position : Nat} (room : recordEnd file position ≤ file.size) :
    NameInside file position := by
  unfold recordEnd at room
  unfold NameInside
  omega

theorem Record.read_eq_ok {file : ByteArray} {offset position next : Nat} {record : Record}
    (done : Record.read file offset position = .ok (record, next)) :
    Starts file position ∧ recordEnd file position ≤ file.size ∧ next = recordEnd file position := by
  unfold Record.read at done
  split at done
  · cases done
  next marked =>
    simp only [bind, Except.bind] at done
    split at done
    · cases done
    next room =>
      split at done; · cases done
      split at done; · cases done
      cases done
      simp only [Bool.not_eq_true, Bool.not_eq_false', Bool.and_eq_true, decide_eq_true_eq] at marked
      exact ⟨marked.symm, Nat.le_of_not_lt room, rfl⟩

theorem Record.readAll_succ_eq_ok {file : ByteArray} {offset count position : Nat} {records : List Record}
    (done : Record.readAll file offset (count + 1) position = .ok records) :
    ∃ record rest, Record.read file offset position = .ok (record, recordEnd file position) ∧
      Record.readAll file offset count (recordEnd file position) = .ok rest ∧ records = record :: rest := by
  simp only [Record.readAll, bind, Except.bind] at done
  split at done; · cases done
  next pair first =>
  obtain ⟨record, next⟩ := pair
  split at done; · cases done
  next rest further =>
  cases done
  have ended := (Record.read_eq_ok first).2.2
  dsimp only at further
  rw [ended] at first further
  exact ⟨record, rest, first, further, rfl⟩

theorem Record.length_of_readAll {file : ByteArray} {offset count position : Nat} {records : List Record}
    (done : Record.readAll file offset count position = .ok records) : records.length = count := by
  induction count generalizing position records with
  | zero => cases done; rfl
  | succ count ih =>
    obtain ⟨record, rest, -, further, rfl⟩ := Record.readAll_succ_eq_ok done
    exact congrArg (· + 1) (ih further)

theorem length_rawNames (file : ByteArray) (count position : Nat) : (rawNames file count position).length = count := by
  induction count generalizing position with
  | zero => rfl
  | succ count ih => exact congrArg (· + 1) (ih _)

theorem walkNames_of_inside {file : ByteArray} {position : Nat} (starts : Starts file position)
    (inside : NameInside file position) (seen : List ByteArray) :
    walkNames file seen position =
      if seen.contains (rawName file position) then .repeated (rawName file position)
      else walkNames file (rawName file position :: seen) (recordEnd file position) := by
  rw [walkNames, dif_pos starts.1, if_pos starts.2]
  dsimp only
  rw [if_neg (Nat.not_lt.mpr inside)]
  rfl

theorem walkNames_of_outside {file : ByteArray} {position : Nat} (starts : Starts file position)
    (outside : ¬ NameInside file position) (seen : List ByteArray) : walkNames file seen position = .nameCutOff := by
  rw [walkNames, dif_pos starts.1, if_pos starts.2]
  exact if_pos (Nat.not_le.mp outside)

theorem walkNames_of_not_starts {file : ByteArray} {position : Nat} (ended : ¬ Starts file position)
    (seen : List ByteArray) :
    walkNames file seen position = .distinct := by
  rw [walkNames]
  split
  next room => exact if_neg fun marked => ended ⟨room, marked⟩
  next => rfl

theorem walkNames_of_readAll {file : ByteArray} {offset count position : Nat} {records : List Record}
    (done : Record.readAll file offset count position = .ok records) (seen : List ByteArray) :
    ((rawNames file count position).Nodup ∧ ∀ name ∈ rawNames file count position, name ∉ seen) ∨
      ∃ name ∈ rawNames file count position, walkNames file seen position = .repeated name := by
  induction count generalizing position records seen with
  | zero => exact .inl ⟨.nil, by simp [rawNames]⟩
  | succ count ih =>
    obtain ⟨record, rest, first, further, -⟩ := Record.readAll_succ_eq_ok done
    obtain ⟨starts, room, -⟩ := Record.read_eq_ok first
    rw [walkNames_of_inside starts (nameInside_of_recordEnd_le room), rawNames]
    by_cases known : rawName file position ∈ seen
    · exact .inr ⟨_, .head _, if_pos (List.contains_iff_mem.mpr known)⟩
    · rw [if_neg (by simpa using known)]
      rcases ih further (rawName file position :: seen) with ⟨distinct, fresh⟩ | ⟨name, member, repeated⟩
      · refine .inl ⟨List.nodup_cons.mpr ⟨fun again => fresh _ again (.head _), distinct⟩, fun name member => ?_⟩
        rcases List.mem_cons.mp member with rfl | member
        · exact known
        · exact fun old => fresh name member (.tail _ old)
      · exact .inr ⟨name, .tail _ member, repeated⟩

/-! ### The walk as a whole -/

/-- Where the records start that follow one another from a position on, for as long as there is one. -/
inductive Run (file : ByteArray) : (start : Nat) → List Nat → Prop
  | stop {start : Nat} (ended : ¬ Starts file start) : Run file start []
  | step {start : Nat} {rest : List Nat} (starts : Starts file start) (further : Run file (recordEnd file start) rest) :
    Run file start (start :: rest)

/-- The names of the records lie in the file and are distinct. -/
structure Clean (file : ByteArray) (positions : List Nat) : Prop where
  inside : ∀ position ∈ positions, NameInside file position
  distinct : (positions.map (rawName file)).Nodup

/-- What a walk over these records has to come to: it stops at the first name that is cut off or occurred before. -/
inductive ComesTo (file : ByteArray) : (positions : List Nat) → Walk → Prop
  | distinct {positions : List Nat} (clean : Clean file positions) : ComesTo file positions .distinct
  | repeated {before after : List Nat} {position : Nat} (clean : Clean file before) (inside : NameInside file position)
    (known : rawName file position ∈ before.map (rawName file)) :
    ComesTo file (before ++ position :: after) (.repeated (rawName file position))
  | nameCutOff {before after : List Nat} {position : Nat} (clean : Clean file before)
    (outside : ¬ NameInside file position) :
    ComesTo file (before ++ position :: after) .nameCutOff

variable {file : ByteArray} {start count offset : Nat} {positions others before after : List Nat}
    {seen : List ByteArray} {walk : Walk}

theorem Run.unique (run : Run file start positions) (also : Run file start others) : others = positions := by
  induction run generalizing others with
  | stop ended =>
    cases also with
    | stop => rfl
    | step starts => exact absurd starts ended
  | step starts _ ih =>
    cases also with
    | stop ended => exact absurd starts ended
    | step _ further => rw [ih further]

/-- Every record takes up room in the file, so there is an end to them. -/
theorem exists_run (file : ByteArray) (start : Nat) : ∃ positions, Run file start positions := by
  induction left : file.size - start using Nat.strongRecOn generalizing start with
  | ind left ih =>
    subst left
    by_cases starts : Starts file start
    · have shorter : file.size - recordEnd file start < file.size - start := by
        have ahead := le_recordEnd file start
        have room := starts.1
        simp only [recordSize] at ahead room
        omega
      obtain ⟨rest, further⟩ := ih _ shorter _ rfl
      exact ⟨_, .step starts further⟩
    · exact ⟨[], .stop starts⟩

theorem Run.length_le (run : Run file start positions) : recordSize * positions.length ≤ file.size - start := by
  induction run with
  | stop => simp
  | @step start rest starts _ ih =>
    have ahead := le_recordEnd file start
    have room := starts.1
    rw [List.length_cons, Nat.mul_succ]
    omega

theorem Clean.append (clean : Clean file before) {position : Nat} (inside : NameInside file position)
    (fresh : rawName file position ∉ before.map (rawName file)) : Clean file (before ++ [position]) := by
  refine ⟨?_, ?_⟩
  · intro other member
    rcases List.mem_append.mp member with earlier | last
    · exact clean.inside other earlier
    · rwa [List.mem_singleton.mp last]
  · rw [List.map_append, List.map_singleton, ← List.concat_eq_append, List.nodup_concat]
    exact ⟨fresh, clean.distinct⟩

/-- The walk comes to what it has to, once the records that it passed are clean and their names are those seen. -/
theorem walkNames_comesTo (run : Run file start positions) (clean : Clean file before)
    (same : ∀ name, name ∈ seen ↔ name ∈ before.map (rawName file)) :
    ComesTo file (before ++ positions) (walkNames file seen start) := by
  induction run generalizing before seen with
  | stop ended =>
    rw [walkNames_of_not_starts ended, List.append_nil]
    exact .distinct clean
  | @step start rest starts _ ih =>
    by_cases inside : NameInside file start
    · rw [walkNames_of_inside starts inside]
      by_cases known : rawName file start ∈ seen
      · rw [if_pos (List.contains_iff_mem.mpr known)]
        exact .repeated clean inside ((same _).mp known)
      · rw [if_neg (mt List.contains_iff_mem.mp known), List.append_cons]
        refine ih (clean.append inside (mt (same _).mpr known)) fun name => ?_
        simp [same, or_comm]
    · rw [walkNames_of_outside starts inside]
      exact .nameCutOff clean inside

theorem not_nodup_of_known {position : Nat} (known : rawName file position ∈ before.map (rawName file)) :
    ¬ ((before ++ position :: after).map (rawName file)).Nodup := by
  rw [List.map_append, List.map_cons]
  exact fun distinct => (List.nodup_append.mp distinct).2.2 _ known _ (.head _) rfl

theorem ComesTo.distinct_iff (comes : ComesTo file positions walk) : walk = .distinct ↔ Clean file positions := by
  cases comes with
  | distinct clean => exact iff_of_true rfl clean
  | repeated _ _ known => exact iff_of_false nofun fun clean => not_nodup_of_known known clean.distinct
  | nameCutOff _ outside => exact iff_of_false nofun fun clean => outside (clean.inside _ (by simp))

/-- If no name is cut off and not all are distinct, the walk tells the first that occurred before. -/
theorem ComesTo.of_inside (comes : ComesTo file positions walk)
    (inside : ∀ position ∈ positions, NameInside file position) (repeats : ¬ (positions.map (rawName file)).Nodup) :
    ∃ before position after, positions = before ++ position :: after ∧ (before.map (rawName file)).Nodup ∧
      rawName file position ∈ before.map (rawName file) ∧ walk = .repeated (rawName file position) := by
  cases comes with
  | distinct clean => exact absurd clean.distinct repeats
  | repeated clean _ known => exact ⟨_, _, _, rfl, clean.distinct, known, rfl⟩
  | nameCutOff _ outside => exact absurd (inside _ (by simp)) outside

theorem ComesTo.of_outside {position : Nat} (comes : ComesTo file (before ++ position :: after) walk)
    (distinct : (before.map (rawName file)).Nodup) (outside : ¬ NameInside file position) : walk = .nameCutOff := by
  generalize whole : before ++ position :: after = positions at comes
  cases comes with
  | distinct clean => exact absurd (clean.inside position (by simp [← whole])) outside
  | @repeated front _ again clean inside known =>
    rcases List.append_eq_append_iff.mp whole with ⟨middle, rfl, rest⟩ | ⟨middle, rfl, rest⟩
    · cases middle with
      | nil =>
        cases rest
        exact absurd inside outside
      | cons first middle =>
        cases rest
        exact absurd (clean.inside position (by simp)) outside
    · cases middle with
      | nil =>
        cases rest
        exact absurd inside outside
      | cons first middle =>
        cases rest
        exact absurd distinct (not_nodup_of_known known)
  | nameCutOff => rfl

/-- The index is read from the records that the walk goes over, in the same order and from the same places. -/
theorem Run.prefix_of_readAll {records : List Record} (run : Run file start positions)
    (done : Record.readAll file offset count start = .ok records) :
    ∃ read, read <+: positions ∧
      List.Forall₂ (fun position record => ∃ next, Record.read file offset position = .ok (record, next)) read
      records := by
  induction count generalizing start positions records with
  | zero =>
    cases done
    exact ⟨[], List.nil_prefix, .nil⟩
  | succ count ih =>
    obtain ⟨record, rest, first, further, rfl⟩ := Record.readAll_succ_eq_ok done
    cases run with
    | stop ended => exact absurd (Record.read_eq_ok first).1 ended
    | step _ run =>
      obtain ⟨read, front, each⟩ := ih run further
      exact ⟨start :: read, List.cons_prefix_cons.mpr ⟨rfl, front⟩, .cons ⟨_, first⟩ each⟩

namespace Index

theorem names_addRecord (records : List Record) (record : Record) :
    (addRecord records record).map (·.name) =
      if record.name ∈ records.map (·.name) then records.map (·.name) else records.map (·.name) ++ [record.name] := by
  have asked : records.any (·.name = record.name) = true ↔ record.name ∈ records.map (·.name) := by simp
  unfold addRecord
  by_cases known : record.name ∈ records.map (·.name)
  · rw [if_pos (asked.mpr known), if_pos known, List.map_map]
    refine List.map_congr_left fun other _ => ?_
    dsimp only [Function.comp_apply]
    split
    next same => exact same.symm
    next => rfl
  · rw [if_neg (mt asked.mp known), if_neg known, List.map_append, List.map_singleton]

theorem nodup_addRecord {records : List Record} (distinct : (records.map (·.name)).Nodup) (record : Record) :
    ((addRecord records record).map (·.name)).Nodup := by
  rw [names_addRecord]
  split
  · exact distinct
  next fresh =>
    exact List.nodup_append.mpr
      ⟨distinct, List.nodup_singleton _, by rintro name member _ (_ | ⟨_, ⟨⟩⟩); rintro rfl; exact fresh member⟩

theorem mem_addRecord {records : List Record} {record : Record} {name : String} :
    name ∈ (addRecord records record).map (·.name) ↔ name ∈ records.map (·.name) ∨ name = record.name := by
  rw [names_addRecord]
  split
  next known => exact ⟨.inl, fun member => member.elim id fun same => same ▸ known⟩
  next => simp

theorem nodup_byName (records : List Record) : ((byName records).map (·.name)).Nodup := by
  have folded (known : List Record) (distinct : (known.map (·.name)).Nodup) :
      ((records.foldl addRecord known).map (·.name)).Nodup := by
    induction records generalizing known with
    | nil => exact distinct
    | cons record rest ih => exact ih _ (nodup_addRecord distinct record)
  exact folded [] .nil

theorem mem_byName {records : List Record} {name : String} :
    name ∈ (byName records).map (·.name) ↔ name ∈ records.map (·.name) := by
  have folded (known : List Record) :
      name ∈ (records.foldl addRecord known).map (·.name) ↔ name ∈ known.map (·.name) ∨
      name ∈ records.map (·.name) := by
    induction records generalizing known with
    | nil => simp
    | cons record rest ih => rw [List.foldl_cons, ih, mem_addRecord, List.map_cons, List.mem_cons, or_assoc]
  exact (folded []).trans (by simp)

theorem byName_eq_self {records : List Record} : byName records = records ↔ (records.map (·.name)).Nodup := by
  refine ⟨fun same => same ▸ nodup_byName records, fun distinct => ?_⟩
  have folded (records known : List Record) (distinct : ((known ++ records).map (·.name)).Nodup) :
      records.foldl addRecord known = known ++ records := by
    induction records generalizing known with
    | nil => simp
    | cons record rest ih =>
      have fresh : record.name ∉ known.map (·.name) := by
        rw [List.map_append, List.map_cons] at distinct
        exact fun member => (List.nodup_append.mp distinct).2.2 _ member _ (.head _) rfl
      have added : addRecord known record = known ++ [record] := if_neg (by simpa using fresh)
      rw [List.foldl_cons, added, ih _ (by simpa using distinct)]
      simp
  exact folded records [] distinct

/-- The records that a container is read from: those of the directory that the last end record leads to from which a
directory can be read. -/
structure ReadFrom (file : ByteArray) (directory : Directory) (records : List Record) : Prop where
  ended : ∃ position < file.size, standsAt endMark file position ∧ directoryAt? file position = some (.ok directory) ∧
    ∀ later < file.size, position < later → standsAt endMark file later →
    ∀ index, attempt? file later ≠ some (.ok index)
  read : readDirectory file directory = .ok records

theorem readFrom_of_ofFile {file : ByteArray} {index : Index} (opened : ofFile file = .ok index) :
    ∃ directory records, ReadFrom file directory records ∧ index = ⟨file, directory.start, byName records⟩ := by
  have before (failure : Option Error) (limit : Nat) (opened : openBefore file failure limit = .ok index) :
      ∃ position < limit, standsAt endMark file position ∧ attempt? file position = some (.ok index) ∧
        ∀ later < limit, position < later → standsAt endMark file later →
        ∀ other, attempt? file later ≠ some (.ok other) := by
    induction limit generalizing failure with
    | zero => cases opened
    | succ limit ih =>
      -- An end record that leads nowhere is no better than none.
      have further (failure : Option Error) (opened : openBefore file failure limit = .ok index)
          (useless : standsAt endMark file limit → ∀ other, attempt? file limit ≠ some (.ok other)) :
          ∃ position < limit + 1, standsAt endMark file position ∧ attempt? file position = some (.ok index) ∧
            ∀ later < limit + 1, position < later → standsAt endMark file later →
            ∀ other, attempt? file later ≠ some (.ok other) := by
        obtain ⟨position, under, marked, found, last⟩ := ih failure opened
        refine ⟨position, by omega, marked, found, fun later below past => ?_⟩
        rcases Nat.lt_succ_iff_lt_or_eq.mp below with below | rfl
        · exact last later below past
        · exact useless
      rw [openBefore] at opened
      split at opened
      next nothing => exact further _ opened fun marked other found => by simp [marked, found] at nothing
      next known found =>
        cases opened
        split at found
        next marked => exact ⟨limit, by omega, marked, found, fun later below past => absurd past (by omega)⟩
        · cases found
      next error failed => exact further _ opened fun marked other found => by simp [marked, found] at failed
  obtain ⟨position, inside, marked, found, last⟩ := before none file.size opened
  obtain ⟨directory, records, leads, read, same⟩ := attempt?_eq_ok found
  exact ⟨directory, records, ⟨⟨position, inside, marked, leads, last⟩, read⟩, same⟩

theorem ReadFrom.readAll {file : ByteArray} {directory : Directory} {records : List Record}
    (reads : ReadFrom file directory records) :
    Record.readAll file directory.archiveOffset directory.count directory.start = .ok records := by
  have read := reads.read
  unfold readDirectory at read
  split at read
  · cases read
  · exact read

theorem ReadFrom.unique {file : ByteArray} {directory other : Directory} {records others : List Record}
    (reads : ReadFrom file directory records) (also : ReadFrom file other others) :
    directory = other ∧ records = others := by
  obtain ⟨position, inside, marked, leads, last⟩ := reads.ended
  obtain ⟨place, within_, also_marked, goes, end_⟩ := also.ended
  have same : position = place := by
    rcases Nat.lt_trichotomy position place with before | same | after
    · exact absurd (attempt?_of_read goes also.read) (last place within_ before also_marked _)
    · exact same
    · exact absurd (attempt?_of_read leads reads.read) (end_ position inside after marked _)
  subst same
  cases leads.symm.trans goes
  cases reads.read.symm.trans also.read
  exact ⟨rfl, rfl⟩

theorem EndsAt.readFrom {file : ByteArray} {position : Nat} {directory : Directory} {records : List Record}
    (ends : EndsAt file position directory) (read : readDirectory file directory = .ok records) :
    ReadFrom file directory records :=
  ⟨⟨position, ends.inside, ends.marked, ends.leads, fun _ _ past marked =>
    absurd marked (by simp [ends.unmarked past])⟩, read⟩

end Index
end WheelInstaller.Container

namespace WheelInstaller.Wheel

open Container (Directory Record rawName rawNames Run NameInside Clean ComesTo)
open Container.Index (ReadFrom byName)

variable {path : Path} {file : ByteArray} {directory : Directory} {records : List Record}

def entriesOf (records : List Record) : List Entry :=
  records.zipIdx.map fun (record, position) =>
    ⟨position, record.name, record.size, record.isDirectory, record.unixMode?⟩

theorem paths_entriesOf (records : List Record) : (entriesOf records).map (·.path) = records.map (·.name) := by
  simp only [entriesOf, List.map_map]
  exact (List.map_map (f := Prod.fst) (g := Record.name)).symm.trans (by rw [List.zipIdx_map_fst])

theorem readEntries_eq_ok {index : Container.Index} {entries : List Entry}
    (done : readEntries path index = .ok entries) :
    entries = entriesOf index.records := by
  have each (pairs : List (Record × Nat)) (entries : List Entry)
      (done : pairs.mapM (fun (record, position) => entryOfRecord path index record position) = .ok entries) :
      entries = pairs.map fun (record, position) =>
        ⟨position, record.name, record.size, record.isDirectory, record.unixMode?⟩ := by
    induction pairs generalizing entries with
    | nil => cases done; rfl
    | cons pair rest ih =>
      rw [List.mapM_cons] at done
      simp only [bind, Except.bind] at done
      split at done; · cases done
      next entry first =>
      split at done; · cases done
      next others further =>
      cases done
      unfold entryOfRecord at first
      split at first; · cases first
      cases first
      rw [List.map_cons, ← ih others further]
  exact each _ entries done

/-- Two records of one name were stored with one raw name. -/
def Unambiguous (file : ByteArray) (directory : Directory) (records : List Record) : Prop :=
  let raw := rawNames file directory.count directory.start
  let names := records.map (·.name)
  ∀ first second : Nat, names[first]? = names[second]? → raw[first]? = raw[second]?

theorem nodup_names (distinct : (rawNames file directory.count directory.start).Nodup)
    (reads : ReadFrom file directory records) :
    (records.map (·.name)).Nodup ↔ Unambiguous file directory records := by
  have length : (rawNames file directory.count directory.start).length = (records.map (·.name)).length := by
    rw [Container.length_rawNames, List.length_map, Record.length_of_readAll reads.readAll]
  refine ⟨fun nodup first second same => ?_, fun unambiguous => ?_⟩
  · by_cases inside : first < (records.map (·.name)).length
    · rw [(List.getElem?_inj inside nodup).mp same]
    · have outside : (records.map (·.name)).length ≤ second := by
        rw [List.getElem?_eq_none (Nat.le_of_not_lt inside)] at same
        exact List.getElem?_eq_none_iff.mp same.symm
      rw [List.getElem?_eq_none (by omega), List.getElem?_eq_none (by omega)]
  · rw [List.nodup_iff_getElem?_ne_getElem?]
    intro first second before inside same
    exact List.nodup_iff_getElem?_ne_getElem?.mp distinct first second before (length ▸ inside)
      (unambiguous first second same)

theorem ofContent_of_readFrom (reads : ReadFrom file directory records)
    (opened : openContainer path (.ok file) = .ok ⟨file, directory.start, byName records⟩) :
    (∃ name ∈ rawNames file directory.count directory.start,
      ofContent path (.ok file) = .error (.corrupt path (.duplicateEntry (Text.Utf8.decodeLenient name)))) ∨
      (rawNames file directory.count directory.start).Nodup ∧
        ∀ wheel, ofContent path (.ok file) = .ok wheel → wheel.entries = entriesOf (byName records) := by
  rcases Container.walkNames_of_readAll reads.readAll [] with ⟨distinct, -⟩ | ⟨name, member, repeated⟩
  · refine .inr ⟨distinct, fun wheel done => ?_⟩
    obtain ⟨⟨index, again, read, -⟩, -⟩ := opened_of_ofContent done
    cases opened.symm.trans again
    exact readEntries_eq_ok read
  · refine .inl ⟨name, member, ?_⟩
    have checked : checkNames path ⟨file, directory.start, byName records⟩ =
        .error (.corrupt path (.duplicateEntry (Text.Utf8.decodeLenient name))) := by
      unfold checkNames
      rw [repeated]
    unfold ofContent
    simp only [opened, checked, bind, Except.bind]

/-- A wheel opens only if no raw name is repeated. Then each recorded name has one entry, and each record its own, in
stored order, exactly if no two raw names stand for one name. -/
theorem ofContent_shows {index : Container.Index} (opened : openContainer path (.ok file) = .ok index) :
    ∃ directory records, ReadFrom file directory records ∧
      (∀ wheel, ofContent path (.ok file) = .ok wheel →
        (rawNames file directory.count directory.start).Nodup ∧ (wheel.entries.map (·.path)).Nodup ∧
        (∀ name, name ∈ wheel.entries.map (·.path) ↔ name ∈ records.map (·.name)) ∧
        (wheel.entries = entriesOf records ↔ Unambiguous file directory records)) ∧
      (Unambiguous file directory records → ¬ (records.map (·.name)).Nodup →
        ∃ name, ofContent path (.ok file) = .error (.corrupt path (.duplicateEntry name))) := by
  obtain ⟨directory, records, reads, rfl⟩ := Container.Index.readFrom_of_ofFile (ofFile_of_openContainer opened)
  refine ⟨directory, records, reads, fun wheel done => ?_, fun unambiguous again => ?_⟩
  · rcases ofContent_of_readFrom reads opened with ⟨name, -, failed⟩ | ⟨distinct, shown⟩
    · cases failed.symm.trans done
    · have kept := Container.Index.nodup_byName records
      rw [shown wheel done, paths_entriesOf, ← nodup_names distinct reads]
      refine ⟨distinct, kept, fun name => Container.Index.mem_byName, fun same => ?_, fun nodup => ?_⟩
      · rwa [← paths_entriesOf records, ← same, paths_entriesOf]
      · rw [Container.Index.byName_eq_self.mpr nodup]
  · rcases ofContent_of_readFrom reads opened with ⟨name, -, failed⟩ | ⟨distinct, -⟩
    · exact ⟨_, failed⟩
    · exact absurd ((nodup_names distinct reads).mpr unambiguous) again

/-- A wheel in which two raw names stand for one name. -/
def aliased : ByteArray := ⟨#[
  80, 75, 3, 4, 20, 0, 0, 0, 0, 0, 0, 0, 0, 0, 44, 182, 8, 143, 17, 0, 0, 0, 17, 0, 0, 0, 19, 0, 0, 0, 100, 45,
  49, 46, 100, 105, 115, 116, 45, 105, 110, 102, 111, 47, 87, 72, 69, 69, 76, 87, 104, 101, 101, 108, 45, 86, 101,
  114, 115, 105, 111, 110, 58, 49, 46, 48, 80, 75, 3, 4, 20, 0, 0, 0, 0, 0, 0, 0, 0, 0, 0, 0, 0, 0, 0, 0, 0, 0, 0,
  0, 0, 0, 1, 0, 0, 0, 130, 80, 75, 3, 4, 20, 0, 0, 8, 0, 0, 0, 0, 0, 0, 0, 0, 0, 0, 0, 0, 0, 0, 0, 0, 0, 0, 2, 0,
  0, 0, 195, 169, 80, 75, 1, 2, 20, 3, 20, 0, 0, 0, 0, 0, 0, 0, 0, 0, 44, 182, 8, 143, 17, 0, 0, 0, 17, 0, 0, 0,
  19, 0, 0, 0, 0, 0, 0, 0, 0, 0, 0, 0, 0, 0, 0, 0, 0, 0, 100, 45, 49, 46, 100, 105, 115, 116, 45, 105, 110, 102,
  111, 47, 87, 72, 69, 69, 76, 80, 75, 1, 2, 20, 3, 20, 0, 0, 0, 0, 0, 0, 0, 0, 0, 0, 0, 0, 0, 0, 0, 0, 0, 0, 0,
  0, 0, 1, 0, 0, 0, 0, 0, 0, 0, 0, 0, 0, 0, 0, 0, 66, 0, 0, 0, 130, 80, 75, 1, 2, 20, 3, 20, 0, 0, 8, 0, 0, 0, 0,
  0, 0, 0, 0, 0, 0, 0, 0, 0, 0, 0, 0, 0, 0, 2, 0, 0, 0, 0, 0, 0, 0, 0, 0, 0, 0, 0, 0, 97, 0, 0, 0, 195, 169, 80,
  75, 5, 6, 0, 0, 0, 0, 3, 0, 3, 0, 160, 0, 0, 0, 129, 0, 0, 0, 0, 0]⟩

example : aliased.data.toList = (Container.ofStored [
    { rawName := "d-1.dist-info/WHEEL".toUTF8, content := "Wheel-Version:1.0".toUTF8 },
    { rawName := ⟨#[0x82]⟩, content := .empty },
    { rawName := "é".toUTF8, content := .empty, flags := 0x800 }]).data.toList := by
  decide +kernel

/-- What is read of it. -/
def aliasedRecords : List Record :=
  [ wheelRecord,
    { rawName := ⟨#[0x82]⟩, name := "é", comment := "", flags := 0, system := 3, method := .stored, checksum := 0,
      compressedSize := 0, size := 0, headerOffset := 66, attributes := 0 },
    { rawName := "é".toUTF8, name := "é", comment := "", flags := 0x800, system := 3, method := .stored, checksum := 0,
      compressedSize := 0, size := 0, headerOffset := 97, attributes := 0 }]

/-- A container in which a raw name is repeated. -/
def repeating : ByteArray := ⟨#[
  80, 75, 3, 4, 20, 0, 0, 0, 0, 0, 0, 0, 0, 0, 0, 0, 0, 0, 0, 0, 0, 0, 0, 0, 0, 0, 1, 0, 0, 0, 100, 80, 75, 3, 4,
  20, 0, 0, 0, 0, 0, 0, 0, 0, 0, 0, 0, 0, 0, 0, 0, 0, 0, 0, 0, 0, 0, 1, 0, 0, 0, 100, 80, 75, 1, 2, 20, 3, 20, 0,
  0, 0, 0, 0, 0, 0, 0, 0, 0, 0, 0, 0, 0, 0, 0, 0, 0, 0, 0, 0, 1, 0, 0, 0, 0, 0, 0, 0, 0, 0, 0, 0, 0, 0, 0, 0, 0,
  0, 100, 80, 75, 1, 2, 20, 3, 20, 0, 0, 0, 0, 0, 0, 0, 0, 0, 0, 0, 0, 0, 0, 0, 0, 0, 0, 0, 0, 0, 1, 0, 0, 0, 0,
  0, 0, 0, 0, 0, 0, 0, 0, 0, 31, 0, 0, 0, 100, 80, 75, 5, 6, 0, 0, 0, 0, 2, 0, 2, 0, 94, 0, 0, 0, 62, 0, 0, 0, 0,
  0]⟩

/-- A wheel that shows all its records, one that hides one, and a container that is refused for its repeated name. -/
theorem ofContent_shows_each :
    (∃ directory records wheel, ReadFrom small directory records ∧
      records.map (·.name) = ["d-1.dist-info/WHEEL", "d-1.dist-info/METADATA", "d-1.dist-info/entry_points.txt"] ∧
      ofContent smallWheel.path (.ok small) = .ok wheel ∧ wheel.entries = entriesOf records) ∧
    (∃ directory records wheel, ReadFrom aliased directory records ∧
      records.map (·.name) = ["d-1.dist-info/WHEEL", "é", "é"] ∧ ofContent smallWheel.path (.ok aliased) = .ok wheel ∧
      (rawNames aliased directory.count directory.start).Nodup ∧ (wheel.entries.map (·.path)).Nodup ∧
      "é" ∈ wheel.entries.map (·.path) ∧ wheel.entries ≠ entriesOf records) ∧
    ∃ directory records, ReadFrom repeating directory records ∧ records.map (·.name) = ["d", "d"] ∧
      Unambiguous repeating directory records ∧
      ∃ name, ofContent smallWheel.path (.ok repeating) = .error (.corrupt smallWheel.path (.duplicateEntry name)) := by
  have known {file : ByteArray} {position : Nat} {directory : Directory} {records : List Record}
      (ends : Container.Index.EndsAt file position directory)
      (read : Container.Index.readDirectory file directory = .ok records)
        (signed : hasSignature file = true ∧ 4 ≤ file.size) :
      ReadFrom file directory records ∧
        (∀ wheel, ofContent smallWheel.path (.ok file) = .ok wheel →
          (rawNames file directory.count directory.start).Nodup ∧ (wheel.entries.map (·.path)).Nodup ∧
          (∀ name, name ∈ wheel.entries.map (·.path) ↔ name ∈ records.map (·.name)) ∧
          (wheel.entries = entriesOf records ↔ Unambiguous file directory records)) ∧
        (Unambiguous file directory records → ¬ (records.map (·.name)).Nodup →
          ∃ name, ofContent smallWheel.path (.ok file) = .error (.corrupt smallWheel.path (.duplicateEntry name))) := by
    obtain ⟨other, others, also, shows_⟩ := ofContent_shows (openContainer_of_ends ends read signed)
    obtain ⟨rfl, rfl⟩ := (ends.readFrom read).unique also
    exact ⟨also, shows_⟩
  have passed {outcome : Except ArchiveError Wheel} (made : outcome.isOk = true) : ∃ wheel, outcome = .ok wheel := by
    cases outcome with
    | error => cases made
    | ok wheel => exact ⟨wheel, rfl⟩
  refine ⟨?_, ?_, ?_⟩
  · obtain ⟨reads, shows_, -⟩ := known endsAt_small readDirectory_small (by decide +kernel)
    obtain ⟨distinct, -, -, complete⟩ := shows_ smallWheel ofContent_small
    have nodup : (smallRecords.map (·.name)).Nodup := by decide
    exact ⟨_, _, _, reads, rfl, ofContent_small, complete.mpr ((nodup_names distinct reads).mp nodup)⟩
  · have ends : 289 < aliased.size ∧ Bytes.standsAt Container.endMark aliased 289 = true ∧
      0x50 ∉ aliased.data.toList.drop 290 ∧ Container.directoryAt? aliased 289 = some (.ok ⟨0, 129, 3, 0, 0⟩) := by
      decide +kernel
    have ends : Container.Index.EndsAt aliased 289 ⟨0, 129, 3, 0, 0⟩ := ⟨ends.1, ends.2.1, ends.2.2.1, ends.2.2.2⟩
    have read : Container.Index.readDirectory aliased ⟨0, 129, 3, 0, 0⟩ = .ok aliasedRecords := by decide +kernel
    have signed : hasSignature aliased = true ∧ 4 ≤ aliased.size := by decide +kernel
    obtain ⟨reads, shows_, -⟩ := known ends read signed
    have opened : openContainer smallWheel.path (.ok aliased) = .ok ⟨aliased, 129, byName aliasedRecords⟩ :=
      openContainer_of_ends ends read signed
    have opens : (ofContent smallWheel.path (.ok aliased)).isOk = true := by
      rw [ofContent, opened]
      decide +kernel
    obtain ⟨wheel, made⟩ := passed opens
    obtain ⟨distinct, apart, shown, complete⟩ := shows_ wheel made
    have again : ¬ (aliasedRecords.map (·.name)).Nodup := by decide
    refine ⟨_, _, wheel, reads, rfl, made, distinct, apart, (shown _).mpr (by simp [aliasedRecords]), fun same => ?_⟩
    exact again ((nodup_names distinct reads).mpr (complete.mp same))
  · have ends : 156 < repeating.size ∧ Bytes.standsAt Container.endMark repeating 156 = true ∧
      0x50 ∉ repeating.data.toList.drop 157 ∧ Container.directoryAt? repeating 156 = some (.ok ⟨0, 62, 2, 0, 0⟩) := by
      decide +kernel
    obtain ⟨records, read, told⟩ : ∃ records, Container.Index.readDirectory repeating ⟨0, 62, 2, 0, 0⟩ = .ok records ∧
        records.map (·.name) = ["d", "d"] := by
      have listed : (Container.Index.readDirectory repeating ⟨0, 62, 2, 0, 0⟩).toOption.map
        (·.map (·.name)) = some ["d", "d"] := by
        decide +kernel
      cases read : Container.Index.readDirectory repeating ⟨0, 62, 2, 0, 0⟩ with
      | error => simp [read, Except.toOption] at listed
      | ok records => exact ⟨records, rfl, by simpa [read, Except.toOption] using listed⟩
    obtain ⟨reads, -, refused⟩ := known ⟨ends.1, ends.2.1, ends.2.2.1, ends.2.2.2⟩ read (by decide +kernel)
    have raw : rawNames repeating 2 62 = ["d", "d"].map String.toUTF8 := by decide +kernel
    have unambiguous : Unambiguous repeating ⟨0, 62, 2, 0, 0⟩ records := by
      intro first second same
      change (rawNames repeating 2 62)[first]? = (rawNames repeating 2 62)[second]?
      rw [raw, List.getElem?_map, List.getElem?_map, ← told, same]
    have again : ¬ (records.map (·.name)).Nodup := by rw [told]; decide
    exact ⟨_, records, reads, told, unambiguous, refused unambiguous again⟩

/-- The check for repetitions goes over the run of records that starts where the directory does: there is exactly one,
and the file has room for it. It passes just the runs whose names are distinct if none of them is cut off, and then
refuses the others for the first name that occurred before; a name that is cut off before any is repeated is refused
as such. The records that the index is read from are the first ones of the same run, so after the check their names
are distinct. -/
theorem checkNames_walks_run (path : Path) (index : Container.Index) :
    ∃ positions, (∀ run, Run index.file index.start run ↔ run = positions) ∧
      Container.recordSize * positions.length ≤ index.file.size - index.start ∧
      ((∀ position ∈ positions, NameInside index.file position) →
        (checkNames path index = .ok () ↔ (positions.map (rawName index.file)).Nodup) ∧
        (¬ (positions.map (rawName index.file)).Nodup → ∃ before position after,
          positions = before ++ position :: after ∧
          (before.map (rawName index.file)).Nodup ∧ rawName index.file position ∈ before.map (rawName index.file) ∧
          checkNames path index =
          .error (.corrupt path (.duplicateEntry (Text.Utf8.decodeLenient (rawName index.file position)))))) ∧
      (∀ before position after, positions = before ++ position :: after → (before.map (rawName index.file)).Nodup →
        ¬ NameInside index.file position → checkNames path index = .error (.corrupt path .nameCutOff)) ∧
      ∀ offset count records, checkNames path index = .ok () →
        Record.readAll index.file offset count index.start = .ok records →
        ∃ read, read <+: positions ∧
          List.Forall₂ (fun position record => ∃ next, Record.read index.file offset position = .ok (record, next))
          read records ∧
          (read.map (rawName index.file)).Nodup := by
  obtain ⟨positions, run⟩ := Container.exists_run index.file index.start
  have none : Clean index.file [] := ⟨by simp, .nil⟩
  have comes : ComesTo index.file positions (Container.walkNames index.file [] index.start) :=
    Container.walkNames_comesTo run none (by simp)
  have passes : checkNames path index = .ok () ↔ Clean index.file positions := by
    rw [← comes.distinct_iff, checkNames]
    split <;> simp_all
  refine ⟨positions, fun other => ⟨run.unique, fun same => same ▸ run⟩, run.length_le, fun inside =>
    ⟨?_, fun repeats => ?_⟩, ?_, ?_⟩
  · exact passes.trans ⟨Clean.distinct, fun distinct => ⟨inside, distinct⟩⟩
  · obtain ⟨before, position, after, split, distinct, known, told⟩ := comes.of_inside inside repeats
    refine ⟨before, position, after, split, distinct, known, ?_⟩
    rw [checkNames, told]
  · rintro before position after rfl distinct outside
    rw [checkNames, comes.of_outside distinct outside]
  · intro offset count records checked done
    obtain ⟨read, front, each⟩ := run.prefix_of_readAll done
    exact ⟨read, front, each, (passes.mp checked).distinct.sublist (front.sublist.map _)⟩

/-- Of three records the last has the name of the first; nothing stands in the file after its name, though a comment is
announced. -/
example :
    let record (comment name : UInt8) : List UInt8 :=
      Container.recordMark ++ List.replicate 24 0 ++ [1, 0, 0, 0, comment] ++ List.replicate 13 0 ++ [name]
    let file : ByteArray := ⟨(record 0 0x61 ++ record 0 0x62 ++ record 9 0x61).toArray⟩
    checkNames ⟨"d.whl"⟩ ⟨file, 0, []⟩ = .error (.corrupt ⟨"d.whl"⟩ (.duplicateEntry "a")) := by
  decide +kernel

end WheelInstaller.Wheel
