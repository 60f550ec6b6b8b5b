import WheelInstaller.Proofs.Placement
import WheelInstaller.Proofs.Wheel.Records
import WheelInstaller.Proofs.Wheel.Summary
import WheelInstaller.Proofs.Wheel.Texts

/-! The console scripts of a wheel. They are looked for under one recorded path; that another entry is put where this
path leads does not make it their declaration. -/

namespace WheelInstaller

namespace Wheel

open Host

variable {wheel : Wheel} {file : ByteArray}

theorem reopen_of_tells {index : Container.Index} (told : Tells file (attempt wheel.reopen) index) :
    openContainer wheel.path (.ok file) = .ok index :=
  Option.some.inj told

/-- The text of a member: none if it is not recorded, else its content. -/
inductive HasText (wheel : Wheel) (file : ByteArray) (recorded : String) : Option String → Prop where
  | absent (missing : wheel.entry? recorded = none) : HasText wheel file recorded none
  | present {entry : Entry} {text : String} (found : wheel.entry? recorded = some entry)
      (decodes : Decodes wheel.path file entry text.toUTF8) : HasText wheel file recorded (some text)

theorem hasText_of_tells {recorded : String} {text : Option String}
    (told : Tells file (wheel.readMember recorded) text) :
    wheel.HasText file recorded text := by
  unfold readMember at told
  cases found : wheel.entry? recorded with
  | none =>
    rw [found] at told
    cases told.of_returned
    exact .absent found
  | some entry =>
    rw [found] at told
    obtain ⟨index, opened, told⟩ := told.of_bind
    obtain ⟨content, read, told⟩ := told.of_bind
    cases told.of_returned
    exact .present found (decodes_of_readEntry (reopen_of_tells opened) read.of_settled)

/-- Where a wheel declares its scripts. -/
def scriptsMember (wheel : Wheel) : String :=
  wheel.metadataMember "entry_points.txt"

/-- The scripts of a wheel: none if their member is not recorded, else those that its content declares. -/
inductive Declares (wheel : Wheel) (file : ByteArray) : List ConsoleScript → Prop where
  | nothing (missing : wheel.entry? wheel.scriptsMember = none) : Declares wheel file []
  | content {entry : Entry} {text : String} {scripts : List ConsoleScript}
    (found : wheel.entry? wheel.scriptsMember = some entry)
      (decodes : Decodes wheel.path file entry text.toUTF8) (parsed : ConsoleScript.parseAll text = .ok scripts) :
      Declares wheel file scripts

theorem declares_of_tells {scripts : List ConsoleScript} (told : Tells file wheel.readScripts scripts) :
    wheel.Declares file scripts := by
  unfold readScripts at told
  obtain ⟨text, read, told⟩ := told.of_bind
  cases hasText_of_tells read.of_wrapped with
  | absent missing =>
    cases told.of_returned
    exact .nothing missing
  | @present entry text found decodes =>
    cases parsed : ConsoleScript.parseAll text with
    | error => simp only [parsed] at told; cases told
    | ok scripts =>
      simp only [parsed] at told
      cases told.of_returned
      exact .content found decodes parsed

theorem Declares.of_summary {version : String} {summary : Summary}
    (told : Tells file (wheel.readSummary version) summary) :
    wheel.Declares file summary.scripts := by
  unfold readSummary at told
  obtain ⟨_, -, told⟩ := told.of_bind
  obtain ⟨scripts, read, told⟩ := told.of_bind
  cases told.of_returned
  exact declares_of_tells read

theorem isDirectory_of_ofContent {path : Path} (opened : ofContent path (.ok file) = .ok wheel) {entry : Entry}
    (member : entry ∈ wheel.entries) :
    entry.isDirectory = entry.path.toList.getLast?.any fun c => c = '/' || c = '\\' := by
  obtain ⟨⟨index, -, read, -⟩, -⟩ := opened_of_ofContent opened
  rw [readEntries_eq_ok read] at member
  obtain ⟨⟨record, position⟩, -, rfl⟩ := List.mem_map.mp member
  rfl

theorem isDirectory_scriptsMember {path : Path} (opened : ofContent path (.ok file) = .ok wheel) {entry : Entry}
    (member : entry ∈ wheel.entries) (named : entry.path = wheel.scriptsMember) : entry.isDirectory = false := by
  rw [isDirectory_of_ofContent opened member, named]
  simp [scriptsMember, metadataMember, toString]

theorem slash_not_mem_distInfo {path : Path} (opened : ofContent path (.ok file) = .ok wheel) :
    '/' ∉ wheel.distInfo.toList := by
  obtain ⟨⟨-, -, -, chosen⟩, -⟩ := opened_of_ofContent opened
  have candidate : wheel.distInfo ∈ distInfoCandidates wheel.entries := by
    unfold findDistInfo at chosen
    split at chosen
    · cases chosen
    next only same =>
      cases chosen
      simp [same]
    · split at chosen
      · cases chosen
      · split at chosen
        next found =>
          cases chosen
          exact List.mem_of_find?_eq_some found
        · cases chosen
  obtain ⟨entry, -, told⟩ := List.mem_filterMap.mp (Ordered.mem_of_mem_ofList candidate)
  obtain ⟨⟨top, rest⟩, cut, told⟩ := Option.bind_eq_some_iff.mp told
  dsimp only at told
  split at told
  · rw [← Option.some.inj told, String.toList_ofList]
    exact (Text.splitOnce_eq_some cut).1
  · cases told

/-- Whatever is recorded of a wheel's files, only the member that declares its scripts is put where the metadata
directory has it. -/
def Unaliased (wheel : Wheel) : Prop :=
  ∀ entry ∈ wheel.entries, entry.isDirectory = false →
    (RecordedPath.names entry.path = [wheel.distInfo, "entry_points.txt"] ↔ entry.path = wheel.scriptsMember)

/-- It is so if every file is recorded as its names spell it. -/
theorem unaliased_of_spelled {path : Path} (opened : ofContent path (.ok file) = .ok wheel)
    (spelled : ∀ entry ∈ wheel.entries, entry.isDirectory = false →
      entry.path.toList = Text.joinWith '/' (RecordedPath.keptSegments entry.path.toList)) : Unaliased wheel := by
  have member : wheel.scriptsMember.toList = wheel.distInfo.toList ++ '/' :: "entry_points.txt".toList := by
    simp [scriptsMember, metadataMember, toString]
  have pieces : Text.splitOn '/' wheel.scriptsMember.toList = [wheel.distInfo.toList, "entry_points.txt".toList] := by
    rw [member, Text.splitOn_append, Text.splitOn_of_not_mem (slash_not_mem_distInfo opened),
      Text.splitOn_of_not_mem (by decide),
      List.singleton_append]
  intro entry inside stored
  have path := spelled entry inside stored
  constructor
  · intro named
    have kept : RecordedPath.keptSegments entry.path.toList = [wheel.distInfo.toList, "entry_points.txt".toList] := by
      simpa [RecordedPath.names, Function.comp_def] using congrArg (List.map String.toList) named
    rw [kept] at path
    exact String.toList_injective (path.trans member.symm)
  · intro same
    have clean : ∀ piece ∈ RecordedPath.keptSegments entry.path.toList, '/' ∉ piece := fun piece kept =>
      Text.not_mem_of_mem_splitOn (List.mem_filter.mp kept).1
    have some : RecordedPath.keptSegments entry.path.toList ≠ [] := by
      intro none
      rw [none, same, member] at path
      simp [Text.joinWith] at path
    have kept := Text.splitOn_joinWith some clean
    rw [← path, same, pieces] at kept
    rw [RecordedPath.names, same, ← kept]
    simp

end Wheel
end WheelInstaller
