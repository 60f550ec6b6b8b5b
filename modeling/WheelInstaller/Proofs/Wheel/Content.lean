import Mathlib.Data.List.Basic
import WheelInstaller.Proofs.Stream.Source
import WheelInstaller.Wheel.Basic

/-! What the content of an entry is, whatever the chunks it is read in. -/

namespace WheelInstaller

namespace EntryStream

open WheelInstaller.Stream (joined Delivers Reader)

variable {σ : Type} {ending : Stream.Ending} {bytes : ByteArray}

theorem conclude_eq_ok {stream : EntryStream σ} (concluded : stream.conclude ending = .ok ()) :
    ending = .finished ∧ stream.expected ≤ stream.consumed := by
  unfold conclude at concluded
  split at concluded
  · split at concluded
    · cases concluded
    · exact ⟨rfl, by omega⟩
  · cases concluded
  · cases concluded

theorem advance_advance (stream : EntryStream σ) (chunk bytes : ByteArray) (source last : σ) :
    (stream.advance chunk source).advance bytes last = stream.advance (chunk ++ bytes) last := by
  simp [advance, Nat.add_assoc]

theorem drain_of_read_ok {stream : EntryStream} {chunk : ByteArray} {source : Stream.Source}
    (found : Stream.read copyBuffer stream.source = .ok (chunk, source)) :
    stream.drain =
    { (stream.advance chunk source).drain with chunks := chunk :: (stream.advance chunk source).drain.chunks } := by
  rw [drain]
  split
  next known =>
    cases found.symm.trans known
    rfl
  next known => cases found.symm.trans known

theorem drain_of_read_error {stream : EntryStream} (stopped : Stream.read copyBuffer stream.source = .error ending) :
    stream.drain = ⟨[], stream, stream.conclude ending⟩ := by
  rw [drain]
  split
  next known => cases stopped.symm.trans known
  next known =>
    cases stopped.symm.trans known
    rfl

/-- Draining an entry takes all that its source delivers, and ends as an entry with so many bytes does. -/
theorem drain_of_delivers {stream : EntryStream} (delivers : Delivers copyBuffer stream.source bytes ending) :
    joined stream.drain.chunks = bytes ∧
      ∃ last, stream.drain.stream = stream.advance bytes last ∧
      stream.drain.outcome = (stream.advance bytes last).conclude ending := by
  induction stream using drain.induct generalizing bytes with
  | case1 stream chunk source found _ ih =>
    obtain ⟨further, rfl, remaining⟩ := (Stream.delivers_of_read_ok found).mp delivers
    obtain ⟨chunks, last, reached, outcome⟩ := ih remaining
    rw [advance_advance] at reached outcome
    rw [drain_of_read_ok found]
    exact ⟨congrArg (chunk ++ ·) chunks, last, reached, outcome⟩
  | case2 stream last stopped =>
    obtain ⟨rfl, rfl⟩ := (Stream.delivers_of_read_error stopped).mp delivers
    rw [drain_of_read_error stopped]
    exact ⟨rfl, stream.source, rfl, rfl⟩

end EntryStream

namespace Container.Index

open Bytes

theorem attempt?_eq_ok {file : ByteArray} {position : Nat} {index : Index}
    (found : attempt? file position = some (.ok index)) :
    ∃ directory records, directoryAt? file position = some (.ok directory) ∧
    readDirectory file directory = .ok records ∧
      index = ⟨file, directory.start, byName records⟩ := by
  unfold attempt? at found
  obtain ⟨led, leads, found⟩ := Option.bind_eq_some_iff.mp found
  simp only [pure, Option.some.injEq, bind, Except.bind] at found
  split at found; · cases found
  next directory =>
  split at found; · cases found
  next records read =>
  cases found
  exact ⟨directory, records, leads, read, rfl⟩

theorem file_of_ofFile {file : ByteArray} {index : Index} (opened : ofFile file = .ok index) : index.file = file := by
  have before (failure : Option Error) (limit : Nat) (opened : openBefore file failure limit = .ok index) :
    index.file = file := by
    induction limit generalizing failure with
    | zero => cases opened
    | succ limit ih =>
      rw [openBefore] at opened
      split at opened
      · exact ih _ opened
      next known found =>
        cases opened
        split at found
        · obtain ⟨directory, records, -, -, rfl⟩ := attempt?_eq_ok found
          rfl
        · cases found
      · exact ih _ opened
  exact before none file.size opened

theorem attempt?_of_read {file : ByteArray} {position : Nat} {directory : Directory} {records : List Record}
    (leads : directoryAt? file position = some (.ok directory)) (read : readDirectory file directory = .ok records) :
    attempt? file position = some (.ok ⟨file, directory.start, byName records⟩) := by
  simp [attempt?, leads, read, bind, Except.bind, pure, Except.pure]

/-- The last end record of a file is at the position, and leads to the directory. -/
structure EndsAt (file : ByteArray) (position : Nat) (directory : Directory) : Prop where
  inside : position < file.size
  marked : standsAt endMark file position = true
  last : 0x50 ∉ file.data.toList.drop (position + 1)
  leads : directoryAt? file position = some (.ok directory)

namespace EndsAt

variable {file : ByteArray} {position : Nat} {directory : Directory} {records : List Record}

theorem unmarked (ends : EndsAt file position directory) {later : Nat} (past : position < later) :
    standsAt endMark file later = false := by
  rw [Bool.eq_false_iff]
  intro stands
  have same : (file.extract later (later + endMark.length)).data.toList = endMark := by simpa [standsAt] using stands
  have first : file.data.toList[later]? = some 0x50 := by
    have head := congrArg (·[0]?) same
    simpa [endMark, Array.getElem?_extract] using head
  apply ends.last
  rw [List.mem_iff_getElem?]
  exact ⟨later - (position + 1), by rw [List.getElem?_drop, ← first]; congr; omega⟩

theorem ofFile (ends : EndsAt file position directory) (read : readDirectory file directory = .ok records) :
    ofFile file = .ok ⟨file, directory.start, byName records⟩ := by
  have before (failure : Option Error) (limit : Nat) (under : position < limit) :
      openBefore file failure limit = .ok ⟨file, directory.start, byName records⟩ := by
    induction limit with
    | zero => cases under
    | succ limit ih =>
      rw [openBefore]
      rcases Nat.lt_succ_iff_lt_or_eq.mp under with below | rfl
      · simpa [ends.unmarked below] using ih below
      · simp [ends.marked, attempt?_of_read ends.leads read]
  exact before none file.size ends.inside

end EndsAt

/-- The content of a member that was found, as one. -/
def Located.content (found : Located) (buffer : Nat) (file : ByteArray) : ByteArray :=
  let stored := storedBytes file found.record found.start
  if found.compressed then (Deflate.inflate buffer stored).output else stored

theorem Located.bytes_source (found : Located) {buffer : Nat} (roomy : 0 < buffer) (file : ByteArray) :
    (found.source buffer file).bytes = found.content buffer file := by
  unfold source content
  dsimp only
  split
  · simp [inflatedSource, Stream.Source.bytes, Deflate.Inflated.output, Stream.foldl_append,
      Function.comp_def, Stream.Delivery.bytes]
  · exact Stream.Source.joined_chunks roomy _

theorem Located.checksum_of_finished {found : Located} {buffer : Nat} {file : ByteArray}
    (finished : (found.source buffer file).ending = .finished) :
    Bytes.checksum (found.content buffer file) = found.record.checksum := by
  have checked {content : ByteArray} (finished : checkedEnding found.record content = .finished) :
      Bytes.checksum content = found.record.checksum := by
    unfold checkedEnding at finished
    split at finished
    · assumption
    · cases finished
  unfold source at finished
  unfold content
  dsimp only at finished ⊢
  split at finished
  next compressed =>
    rw [if_pos compressed]
    simp only [inflatedSource, inflatedEnding] at finished
    split at finished
    · exact checked finished
    · cases finished
    · cases finished
    · cases finished
  next stored =>
    rw [if_neg stored]
    exact checked finished

end Container.Index

namespace Wheel

theorem ofFile_of_openContainer {path : Path} {file : ByteArray} {index : Container.Index}
    (opened : openContainer path (.ok file) = .ok index) : Container.Index.ofFile file = .ok index := by
  unfold openContainer at opened
  dsimp only at opened
  split at opened; · cases opened
  split at opened; · cases opened
  split at opened
  · cases opened
  next read =>
    cases opened
    exact read

theorem file_of_openContainer {path : Path} {file : ByteArray} {index : Container.Index}
    (opened : openContainer path (.ok file) = .ok index) : index.file = file :=
  Container.Index.file_of_ofFile (ofFile_of_openContainer opened)

theorem openContainer_of_ends {path : Path} {file : ByteArray} {position : Nat} {directory : Container.Directory}
    {records : List Container.Record} (ends : Container.Index.EndsAt file position directory)
    (read : Container.Index.readDirectory file directory = .ok records)
    (signed : hasSignature file = true ∧ 4 ≤ file.size) :
    openContainer path (.ok file) = .ok ⟨file, directory.start, Container.Index.byName records⟩ := by
  rw [openContainer]
  simp only [signed.1, Nat.not_lt.mpr signed.2, ends.ofFile read, if_false, Bool.not_true, Bool.false_eq_true]

theorem openContainer_empty (path : Path) : openContainer path (.ok .empty) = .error (.unreadable path .tooShort) := rfl

theorem ofContent_eq_ok {path : Path} {content : Except OsError ByteArray} {wheel : Wheel}
    (done : ofContent path content = .ok wheel) :
    wheel.path = path ∧ ∃ index entry text, openContainer path content = .ok index ∧
    readEntries path index = .ok wheel.entries ∧
      findDistInfo path wheel.entries = .ok wheel.distInfo ∧
      wheel.entries.find? (·.path = s!"{wheel.distInfo}/WHEEL") = some entry ∧ readEntry path index entry = .ok text ∧
      readFormat path s!"{wheel.distInfo}/WHEEL" text = .ok wheel.format := by
  unfold ofContent at done
  simp only [bind, Except.bind] at done
  split at done; · cases done
  next index opened =>
  split at done; · cases done
  split at done; · cases done
  next entries read =>
  split at done; · cases done
  next distInfo chosen =>
  split at done; · cases done
  next entry found =>
  split at done; · cases done
  next text told =>
  split at done; · cases done
  next format known =>
  cases done
  exact ⟨rfl, index, entry, text, opened, read, chosen, found, told, known⟩

theorem opened_of_ofContent {path : Path} {file : ByteArray} {wheel : Wheel}
    (done : ofContent path (.ok file) = .ok wheel) :
    (∃ index, openContainer path (.ok file) = .ok index ∧ readEntries path index = .ok wheel.entries ∧
      findDistInfo path wheel.entries = .ok wheel.distInfo) ∧ wheel.path = path := by
  obtain ⟨same, index, -, -, opened, read, chosen, -⟩ := ofContent_eq_ok done
  exact ⟨⟨index, opened, read, chosen⟩, same⟩

/-- The content of an entry, as the bytes of the archive have it. -/
structure Decodes (path : Path) (file : ByteArray) (entry : Entry) (content : ByteArray) : Prop where
  found : ∃ index located, openContainer path (.ok file) = .ok index ∧ index.locateAt file entry.index = .ok located ∧
    content = located.content EntryStream.copyBuffer file ∧ Bytes.checksum content = located.record.checksum
  whole : entry.size ≤ content.size

theorem Decodes.unique {path : Path} {file : ByteArray} {entry : Entry} {content other : ByteArray}
    (decodes : Decodes path file entry content) (also : Decodes path file entry other) : other = content := by
  obtain ⟨index, located, opened, found, rfl, -⟩ := decodes.found
  obtain ⟨_, _, again, same, rfl, -⟩ := also.found
  cases opened.symm.trans again
  cases found.symm.trans same
  rfl

theorem locateAt_of_locateEntry {path : Path} {index : Container.Index} {file : ByteArray} {entry : Entry}
    {found : Container.Index.Located} (located : locateEntry path index file entry = .ok found) :
    index.locateAt file entry.index = .ok found := by
  unfold locateEntry at located
  cases position : index.locateAt file entry.index with
  | error error =>
    rw [position] at located
    cases located
  | ok other =>
    rw [position] at located
    cases located
    rfl

theorem decodes_of_drain {path : Path} {file : ByteArray} {index : Container.Index} {entry : Entry}
    {found : Container.Index.Located} (opened : openContainer path (.ok file) = .ok index)
    (located : locateEntry path index file entry = .ok found)
    (drained : (entryStream path entry found EntryStream.copyBuffer file).drain.outcome = .ok ()) :
    Decodes path file entry
      (Stream.joined (entryStream path entry found EntryStream.copyBuffer file).drain.chunks) := by
  have bytes : (entryStream path entry found EntryStream.copyBuffer file).source.bytes =
    found.content EntryStream.copyBuffer file :=
    found.bytes_source (by decide) file
  obtain ⟨chunks, last, -, outcome⟩ := EntryStream.drain_of_delivers (Stream.Source.delivers (by decide) _)
  rw [drained] at outcome
  rw [chunks, bytes]
  obtain ⟨finished, whole⟩ := EntryStream.conclude_eq_ok outcome.symm
  refine ⟨⟨index, found, opened, locateAt_of_locateEntry located, rfl,
    Container.Index.Located.checksum_of_finished finished⟩, ?_⟩
  simpa [entryStream, EntryStream.advance, ← bytes] using whole

end Wheel
end WheelInstaller

/-! ### Containers of stored members

The simplest containers there are: members without compression, one after the other, and the directory after them. -/

namespace WheelInstaller.Container

/-- A member that is stored as it is. -/
structure StoredMember where
  rawName : ByteArray
  content : ByteArray
  flags : Nat := 0
  /-- What the record of a file on a Unix system keeps of its mode; zero if nothing. -/
  mode : Nat := 0

namespace StoredMember

/-- The number in so many bytes, the least significant first. -/
def digits (width number : Nat) : List UInt8 :=
  (List.range width).map fun place => (number >>> (8 * place)).toUInt8

/-- What the local header of a member and its record have in common. -/
def fields (member : StoredMember) : List UInt8 :=
  digits 2 20 ++ digits 2 member.flags ++ List.replicate 6 0 ++ digits 4 (Bytes.checksum member.content).toNat ++
    digits 4 member.content.size ++ digits 4 member.content.size ++ digits 2 member.rawName.size ++ digits 2 0

def localBytes (member : StoredMember) : List UInt8 :=
  localMark ++ member.fields ++ member.rawName.data.toList ++ member.content.data.toList

/-- The record of a member whose local header is at the offset. -/
def recordBytes (member : StoredMember) (offset : Nat) : List UInt8 :=
  recordMark ++ [20, 3] ++ member.fields ++ List.replicate 8 0 ++ digits 2 member.mode ++ digits 4 offset ++
    member.rawName.data.toList

/-- The records of members of which the first one is at the offset. -/
def directoryBytes : (offset : Nat) → List StoredMember → List UInt8
  | _, [] => []
  | offset, member :: rest =>
    member.recordBytes offset ++ directoryBytes (offset + member.localBytes.length) rest

end StoredMember

/-- The container of some members. -/
def ofStored (members : List StoredMember) : ByteArray :=
  let contents := members.flatMap StoredMember.localBytes
  let directory := StoredMember.directoryBytes 0 members
  let count := StoredMember.digits 2 members.length
  let ending := endMark ++ List.replicate 4 0 ++ count ++ count ++ StoredMember.digits 4 directory.length ++
    StoredMember.digits 4 contents.length ++ List.replicate 2 0
  ⟨(contents ++ directory ++ ending).toArray⟩

end WheelInstaller.Container

namespace WheelInstaller.Wheel

/-- Lists are compared in one pass, arrays are not. -/
local instance : DecidableEq ByteArray := fun first second =>
  decidable_of_iff (first.data.toList = second.data.toList) (by simp [ByteArray.ext_iff])

deriving instance DecidableEq for Container.Record

/-- A wheel with one script, as it is stored. -/
def small : ByteArray := ⟨#[
  80, 75, 3, 4, 20, 0, 0, 0, 0, 0, 0, 0, 0, 0, 44, 182, 8, 143, 17, 0, 0, 0, 17, 0, 0, 0, 19, 0, 0, 0,
  100, 45, 49, 46, 100, 105, 115, 116, 45, 105, 110, 102, 111, 47, 87, 72, 69, 69, 76,
  87, 104, 101, 101, 108, 45, 86, 101, 114, 115, 105, 111, 110, 58, 49, 46, 48,
  80, 75, 3, 4, 20, 0, 0, 0, 0, 0, 0, 0, 0, 0, 104, 10, 19, 150, 16, 0, 0, 0, 16, 0, 0, 0, 22, 0, 0, 0,
  100, 45, 49, 46, 100, 105, 115, 116, 45, 105, 110, 102, 111, 47, 77, 69, 84, 65, 68, 65, 84, 65,
  78, 97, 109, 101, 58, 100, 10, 86, 101, 114, 115, 105, 111, 110, 58, 49,
  80, 75, 3, 4, 20, 0, 0, 0, 0, 0, 0, 0, 0, 0, 62, 183, 63, 43, 23, 0, 0, 0, 23, 0, 0, 0, 30, 0, 0, 0,
  100, 45, 49, 46, 100, 105, 115, 116, 45, 105, 110, 102, 111, 47, 101, 110, 116, 114, 121, 95, 112, 111, 105, 110,
  116, 115, 46, 116, 120, 116,
  91, 99, 111, 110, 115, 111, 108, 101, 95, 115, 99, 114, 105, 112, 116, 115, 93, 10, 100, 61, 100, 58, 102,
  80, 75, 1, 2, 20, 3, 20, 0, 0, 0, 0, 0, 0, 0, 0, 0, 44, 182, 8, 143, 17, 0, 0, 0, 17, 0, 0, 0, 19, 0,
  0, 0, 0, 0, 0, 0, 0, 0, 0, 0, 0, 0, 0, 0, 0, 0,
  100, 45, 49, 46, 100, 105, 115, 116, 45, 105, 110, 102, 111, 47, 87, 72, 69, 69, 76,
  80, 75, 1, 2, 20, 3, 20, 0, 0, 0, 0, 0, 0, 0, 0, 0, 104, 10, 19, 150, 16, 0, 0, 0, 16, 0, 0, 0, 22, 0,
  0, 0, 0, 0, 0, 0, 0, 0, 0, 0, 0, 0, 66, 0, 0, 0,
  100, 45, 49, 46, 100, 105, 115, 116, 45, 105, 110, 102, 111, 47, 77, 69, 84, 65, 68, 65, 84, 65,
  80, 75, 1, 2, 20, 3, 20, 0, 0, 0, 0, 0, 0, 0, 0, 0, 62, 183, 63, 43, 23, 0, 0, 0, 23, 0, 0, 0, 30, 0,
  0, 0, 0, 0, 0, 0, 0, 0, 0, 0, 160, 129, 134, 0, 0, 0,
  100, 45, 49, 46, 100, 105, 115, 116, 45, 105, 110, 102, 111, 47, 101, 110, 116, 114, 121, 95, 112, 111, 105, 110,
  116, 115, 46, 116, 120, 116,
  80, 75, 5, 6, 0, 0, 0, 0, 3, 0, 3, 0, 209, 0, 0, 0, 217, 0, 0, 0, 0, 0]⟩

example : small.data.toList = (Container.ofStored [
    { rawName := "d-1.dist-info/WHEEL".toUTF8, content := "Wheel-Version:1.0".toUTF8 },
    { rawName := "d-1.dist-info/METADATA".toUTF8, content := "Name:d\nVersion:1".toUTF8 },
    { rawName := "d-1.dist-info/entry_points.txt".toUTF8, content := "[console_scripts]\nd=d:f".toUTF8,
      mode := 0o100640 }]).data.toList := by
  decide +kernel

/-- The record of the first member. -/
def wheelRecord : Container.Record where
  rawName := "d-1.dist-info/WHEEL".toUTF8
  name := "d-1.dist-info/WHEEL"
  comment := ""
  flags := 0
  system := 3
  method := .stored
  checksum := 2399712812
  compressedSize := 17
  size := 17
  headerOffset := 0
  attributes := 0

/-- What is read of the small wheel. -/
def smallRecords : List Container.Record :=
  [ wheelRecord,
    { rawName := "d-1.dist-info/METADATA".toUTF8, name := "d-1.dist-info/METADATA", comment := "", flags := 0,
      system := 3, method := .stored, checksum := 2517830248, compressedSize := 16, size := 16, headerOffset := 66,
      attributes := 0 },
    { rawName := "d-1.dist-info/entry_points.txt".toUTF8, name := "d-1.dist-info/entry_points.txt", comment := "",
      flags := 0, system := 3, method := .stored, checksum := 725595966, compressedSize := 23, size := 23,
      headerOffset := 134, attributes := 0x81a00000 }]

def smallIndex : Container.Index :=
  ⟨small, 217, smallRecords⟩

def wheelEntry : Entry :=
  ⟨0, "d-1.dist-info/WHEEL", 17, false, none⟩

def metadataEntry : Entry :=
  ⟨1, "d-1.dist-info/METADATA", 16, false, none⟩

def scriptsEntry : Entry :=
  ⟨2, "d-1.dist-info/entry_points.txt", 23, false, some 0o100640⟩

def smallWheel : Wheel :=
  ⟨⟨"/out/d-1-py3-none-any.whl"⟩, [wheelEntry, metadataEntry, scriptsEntry], "d-1.dist-info", ⟨0⟩⟩

theorem endsAt_small : Container.Index.EndsAt small 426 ⟨0, 217, 3, 0, 0⟩ := by
  have ends : 426 < small.size ∧ Bytes.standsAt Container.endMark small 426 = true ∧ 0x50 ∉ small.data.toList.drop 427 ∧
    Container.directoryAt? small 426 = some (.ok ⟨0, 217, 3, 0, 0⟩) := by decide +kernel
  exact ⟨ends.1, ends.2.1, ends.2.2.1, ends.2.2.2⟩

theorem readDirectory_small : Container.Index.readDirectory small ⟨0, 217, 3, 0, 0⟩ = .ok smallRecords := by
  decide +kernel

theorem openContainer_small (path : Path) : openContainer path (.ok small) = .ok smallIndex := by
  have apart : Container.Index.byName smallRecords = smallRecords := by decide +kernel
  have opened : openContainer path (.ok small) = .ok ⟨small, 217, Container.Index.byName smallRecords⟩ :=
    openContainer_of_ends endsAt_small readDirectory_small (by decide +kernel)
  rwa [apart] at opened

theorem ofContent_small : ofContent smallWheel.path (.ok small) = .ok smallWheel := by
  rw [ofContent, openContainer_small]
  decide +kernel

end WheelInstaller.Wheel
