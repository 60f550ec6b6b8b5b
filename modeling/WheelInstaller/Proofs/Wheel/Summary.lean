import WheelInstaller.Proofs.Host.Steady
import WheelInstaller.Proofs.Wheel.Content
import WheelInstaller.Wheel.Reading

/-! The summary of a wheel. It is read from the file of the wheel and from nothing else, so it is the same wherever the
wheel is installed. -/

namespace WheelInstaller

namespace Host

variable {α β δ ε : Type} {content : ByteArray}

/-- Every file has the content, and nothing else is told. -/
def onFile (content : ByteArray) : (request : Request) → Option request.Answer
  | .readFile _ => some (.ok content)
  | _ => none

/-- What the attempt tells if all that it asks for is the file with the content. -/
def Tells (content : ByteArray) (work : Attempt ε α) (value : α) : Prop :=
  work.run.runWith (onFile content) = some (.ok value)

theorem runWith_bind {respond : (request : Request) → Option request.Answer} (program : Program α)
    (next : α → Program β) :
    (program >>= next).runWith respond = (program.runWith respond).bind fun value => (next value).runWith respond := by
  change (program.bind next).runWith respond = _
  induction program with
  | done value => rfl
  | ask request rest ih => cases told : respond request <;> simp [Program.bind, Program.runWith, told, ih]

namespace Tells

theorem bind {work : Attempt ε α} {next : α → Attempt ε β} {value : α} {result : β} (tells : Tells content work value)
    (further : Tells content (next value) result) : Tells content (work >>= next) result := by
  change (work.run >>= ExceptT.bindCont next).runWith (onFile content) = _
  rw [runWith_bind, show work.run.runWith (onFile content) = _ from tells]
  exact further

theorem returned (value : α) : Tells content (pure value : Attempt ε α) value :=
  rfl

theorem wrapped {wrap : δ → ε} {work : Attempt δ α} {value : α} (tells : Tells content work value) :
    Tells content (attemptAs wrap work) value := by
  change (work.run >>= fun outcome => pure (outcome.mapError wrap)).runWith (onFile content) = _
  rw [runWith_bind, show work.run.runWith (onFile content) = _ from tells]
  rfl

theorem settled {outcome : Except ε α} {value : α} (ended : outcome = .ok value) :
    Tells content (settled outcome) value :=
  congrArg some ended

theorem unique {work : Attempt ε α} {value other : α} (tells : Tells content work value)
    (also : Tells content work other) :
    other = value := by
  cases Eq.trans (Eq.symm tells) also
  rfl

theorem of_bind {work : Attempt ε α} {next : α → Attempt ε β} {result : β}
    (tells : Tells content (work >>= next) result) :
    ∃ value, Tells content work value ∧ Tells content (next value) result := by
  have ran : (work.run >>= ExceptT.bindCont next).runWith (onFile content) = some (.ok result) := tells
  rw [runWith_bind] at ran
  obtain ⟨outcome, first, further⟩ := Option.bind_eq_some_iff.mp ran
  cases outcome with
  | error error => cases further
  | ok value => exact ⟨value, first, further⟩

theorem of_wrapped {wrap : δ → ε} {work : Attempt δ α} {value : α} (tells : Tells content (attemptAs wrap work) value) :
    Tells content work value := by
  have ran : (work.run >>= fun outcome => pure (outcome.mapError wrap)).runWith (onFile content) =
    some (.ok value) := tells
  rw [runWith_bind] at ran
  obtain ⟨outcome, first, further⟩ := Option.bind_eq_some_iff.mp ran
  cases outcome with
  | error error => cases further
  | ok other =>
    cases further
    exact first

theorem of_settled {outcome : Except ε α} {value : α} (tells : Tells content (Host.settled outcome) value) :
    outcome = .ok value :=
  Option.some.inj tells

theorem of_returned {value other : α} (tells : Tells content (pure value : Attempt ε α) other) : other = value := by
  cases tells
  rfl

end Tells

end Host

namespace Wheel

open Host

variable {wheel : Wheel} {world : World} {file : ByteArray}

section Running

variable {index : Container.Index} (opens : openContainer wheel.path (world.files.readFile wheel.path) = .ok index)
include opens

theorem run_readMember {recorded text : String} {entry : Entry} (known : wheel.entry? recorded = some entry)
    (reads : readEntry wheel.path index entry = .ok text) :
    (wheel.readMember recorded).run.run World.perform world = (.ok (some text), world) := by
  have reopens : (attempt wheel.reopen).run.run World.perform world = (.ok index, world) := by
    change (openContainer wheel.path (world.files.readFile wheel.path), world) = _
    rw [opens]
  rw [readMember, known]
  dsimp only
  rw [Program.run_next reopens, reads]
  rfl

/-- What the summary is read from, if both members are there. -/
theorem run_readSummary {metadata declarations version : String} {member declaring : Entry}
    {distribution : Distribution}
    {scripts : List ConsoleScript} (known : wheel.entry? (wheel.metadataMember "METADATA") = some member)
    (reads : readEntry wheel.path index member = .ok metadata) (parsed : Distribution.parse metadata = .ok distribution)
    (declared : wheel.entry? (wheel.metadataMember "entry_points.txt") = some declaring)
    (tells : readEntry wheel.path index declaring = .ok declarations)
    (found : ConsoleScript.parseAll declarations = .ok scripts) :
    (wheel.readSummary version).run.run World.perform world = (.ok ⟨scripts, version⟩, world) := by
  have reading : (wheel.readMetadata "METADATA").run.run World.perform world = (.ok (some metadata), world) :=
    Program.run_attemptAs_of _ (run_readMember opens known reads)
  have telling : (wheel.readMetadata "entry_points.txt").run.run World.perform world =
    (.ok (some declarations), world) :=
    Program.run_attemptAs_of _ (run_readMember opens declared tells)
  have distributed : wheel.readDistribution.run.run World.perform world = (.ok distribution, world) := by
    rw [readDistribution, Program.run_next reading]
    dsimp only
    rw [parsed]
    rfl
  have scripted : wheel.readScripts.run.run World.perform world = (.ok scripts, world) := by
    rw [readScripts, Program.run_next telling]
    dsimp only
    rw [found]
    rfl
  rw [readSummary, Program.run_next distributed, Program.run_next scripted]
  rfl

end Running

section Reading

variable (known : ∀ content, world.files.readFile wheel.path = .ok content → content = file ∨ content = .empty)
include known

theorem yields_reopen :
    Yields (fun index after => after = world ∧ world.files.readFile wheel.path = .ok file ∧
      Tells file (attempt wheel.reopen) index) (attempt wheel.reopen) world := by
  refine ⟨trivial, fun answer after replies => ?_⟩
  obtain ⟨rfl, told⟩ := replies.readFile
  change Rules.Ends _ _ (openContainer wheel.path answer) after
  cases opened : openContainer wheel.path answer with
  | error => trivial
  | ok index =>
    cases answer with
    | error => cases opened
    | ok content =>
      rcases known content (told content rfl) with rfl | rfl
      · exact ⟨rfl, told content rfl, congrArg some opened⟩
      · cases (openContainer_empty wheel.path).symm.trans opened

theorem yields_readMember (recorded : String) :
    Yields (fun text after => after = world ∧ (text ≠ none → world.files.readFile wheel.path = .ok file) ∧
      Tells file (wheel.readMember recorded) text) (wheel.readMember recorded) world := by
  unfold readMember
  split
  next => exact Rules.Safe.returned ⟨rfl, absurd rfl, .returned none⟩
  next entry found =>
    refine (yields_reopen known).bind fun index after ⟨here, read, opened⟩ => ?_
    subst here
    have reading : Yields (fun text now => now = after ∧ Tells file (settled (readEntry wheel.path index entry)) text)
        (settled (readEntry wheel.path index entry)) after := Yields.settled fun text done => ⟨rfl, .settled done⟩
    refine reading.bind fun text now ⟨here, told⟩ => Rules.Safe.returned ?_
    exact ⟨here, fun _ => read, opened.bind (told.bind (.returned _))⟩

theorem yields_readMetadata (name : String) :
    Yields (fun text after => after = world ∧ (text ≠ none → world.files.readFile wheel.path = .ok file) ∧
      Tells file (wheel.readMetadata name) text) (wheel.readMetadata name) world :=
  Yields.wrapped ((yields_readMember known _).weaken fun _ _ ⟨here, read, told⟩ => ⟨here, read, told.wrapped⟩)

theorem yields_readDistribution :
    Yields (fun distribution after => after = world ∧ world.files.readFile wheel.path = .ok file ∧
      Tells file wheel.readDistribution distribution) wheel.readDistribution world := by
  unfold readDistribution
  refine (yields_readMetadata known _).bind fun text after ⟨here, read, told⟩ => ?_
  subst here
  cases text with
  | none => trivial
  | some text =>
    cases parsed : Distribution.parse text with
    | error => simp only [parsed]; trivial
    | ok distribution =>
      simp only [parsed]
      refine Rules.Safe.returned ⟨rfl, read nofun, told.bind ?_⟩
      simp only [parsed]
      exact .returned _

theorem yields_readScripts :
    Yields (fun scripts after => after = world ∧ Tells file wheel.readScripts scripts) wheel.readScripts world := by
  unfold readScripts
  refine (yields_readMetadata known _).bind fun text after ⟨here, _, told⟩ => ?_
  subst here
  cases text with
  | none => exact Rules.Safe.returned ⟨rfl, told.bind (.returned _)⟩
  | some text =>
    cases parsed : ConsoleScript.parseAll text with
    | error => simp only [parsed]; trivial
    | ok scripts =>
      simp only [parsed]
      refine Rules.Safe.returned ⟨rfl, told.bind ?_⟩
      simp only [parsed]
      exact .returned _

theorem yields_readSummary (version : String) :
    Yields (fun summary after => after = world ∧ world.files.readFile wheel.path = .ok file ∧
      Tells file (wheel.readSummary version) summary) (wheel.readSummary version) world := by
  unfold readSummary
  refine (yields_readDistribution known).bind fun distribution after ⟨here, read, told⟩ => ?_
  subst here
  refine (yields_readScripts known).bind fun scripts after ⟨here, further⟩ => Rules.Safe.returned ?_
  exact ⟨here, read, told.bind (further.bind (.returned _))⟩

end Reading

/-! ### Small wheels -/

def smallSummary : Summary :=
  ⟨[⟨"d", "d", "f"⟩], "3"⟩

theorem run_readSummary_small {world : World} (read : world.files.readFile smallWheel.path = .ok small) :
    (smallWheel.readSummary "3").run.run World.perform world = (.ok smallSummary, world) := by
  have opens : openContainer smallWheel.path (world.files.readFile smallWheel.path) = .ok smallIndex := by
    rw [read, openContainer_small]
  have texts : readEntry smallWheel.path smallIndex metadataEntry = .ok "Name:d\nVersion:1" ∧
      readEntry smallWheel.path smallIndex scriptsEntry = .ok "[console_scripts]\nd=d:f" := by
    decide +kernel
  have parsed : Distribution.parse "Name:d\nVersion:1" = .ok ⟨"d", "1", none⟩ := by decide +kernel
  have found : ConsoleScript.parseAll "[console_scripts]\nd=d:f" = .ok [⟨"d", "d", "f"⟩] := by decide +kernel
  exact run_readSummary opens (by decide +kernel) texts.1 parsed (by decide +kernel) texts.2 found

/-- A wheel that lacks its metadata. -/
def lacking : ByteArray := ⟨#[
  80, 75, 3, 4, 20, 0, 0, 0, 0, 0, 0, 0, 0, 0, 44, 182, 8, 143, 17, 0, 0, 0, 17, 0, 0, 0, 19, 0, 0, 0,
  100, 45, 49, 46, 100, 105, 115, 116, 45, 105, 110, 102, 111, 47, 87, 72, 69, 69, 76,
  87, 104, 101, 101, 108, 45, 86, 101, 114, 115, 105, 111, 110, 58, 49, 46, 48,
  80, 75, 1, 2, 20, 3, 20, 0, 0, 0, 0, 0, 0, 0, 0, 0, 44, 182, 8, 143, 17, 0, 0, 0, 17, 0, 0, 0, 19, 0,
  0, 0, 0, 0, 0, 0, 0, 0, 0, 0, 0, 0, 0, 0, 0, 0,
  100, 45, 49, 46, 100, 105, 115, 116, 45, 105, 110, 102, 111, 47, 87, 72, 69, 69, 76,
  80, 75, 5, 6, 0, 0, 0, 0, 1, 0, 1, 0, 65, 0, 0, 0, 66, 0, 0, 0, 0, 0]⟩

example : lacking.data.toList = (Container.ofStored
    [{ rawName := "d-1.dist-info/WHEEL".toUTF8, content := "Wheel-Version:1.0".toUTF8 }]).data.toList := by
  decide +kernel

/-- What is read of the wheel that lacks its metadata. -/
def lackingIndex : Container.Index :=
  ⟨lacking, 66, [wheelRecord]⟩

def lackingWheel : Wheel :=
  ⟨⟨"d-1-py3-none-any.whl"⟩, [wheelEntry], "d-1.dist-info", ⟨0⟩⟩

theorem openContainer_lacking (path : Path) : openContainer path (.ok lacking) = .ok lackingIndex := by
  have ends : 131 < lacking.size ∧ Bytes.standsAt Container.endMark lacking 131 = true ∧
    0x50 ∉ lacking.data.toList.drop 132 ∧
    Container.directoryAt? lacking 131 = some (.ok ⟨0, 66, 1, 0, 0⟩) := by decide +kernel
  have read : Container.Index.readDirectory lacking ⟨0, 66, 1, 0, 0⟩ = .ok lackingIndex.records := by decide +kernel
  exact openContainer_of_ends ⟨ends.1, ends.2.1, ends.2.2.1, ends.2.2.2⟩ read (by decide +kernel)

theorem ofContent_lacking : ofContent lackingWheel.path (.ok lacking) = .ok lackingWheel := by
  rw [ofContent, openContainer_lacking]
  decide +kernel

end Wheel
end WheelInstaller
