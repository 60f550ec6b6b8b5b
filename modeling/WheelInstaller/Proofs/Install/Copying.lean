import WheelInstaller.Install.Extraction
import WheelInstaller.Proofs.Host.World
import WheelInstaller.Proofs.Wheel.Texts

/-! Copying the content of an entry. What is written are the bytes that the source delivers, and what is told depends
on how many they are and on how they end, whatever portions they come in. An entry that can be read as a text is
copied as that text. -/

namespace WheelInstaller.Install

open Host FileSystem

open WheelInstaller.Stream (joined)

variable {σ : Type} {respond : (request : Host.Request) → σ → request.Answer × σ} {file : OpenFile} {ready : σ → Prop}
  {written : σ → ByteArray} {state : σ}

/-- A host that takes, as long as it is ready, whatever is written to a file. -/
structure Unfailing (respond : (request : Host.Request) → σ → request.Answer × σ) (file : OpenFile) (ready : σ → Prop)
    (written : σ → ByteArray) : Prop where
  append (chunk : ByteArray) {state : σ} : ready state → (respond (.append file chunk) state).1 = .ok () ∧
    ready (respond (.append file chunk) state).2 ∧
    written (respond (.append file chunk) state).2 = written state ++ chunk
  flush {state : σ} : ready state → (respond (.flush file) state).1 = .ok () ∧
    written (respond (.flush file) state).2 = written state

def contentAt (files : FileSystem) (location : Location) : ByteArray :=
  match files.get? location with
  | some (.file _ content) => content
  | _ => .empty

theorem run_granted {δ ε : Type} {wrap : δ → ε} {program : Program (Except δ Unit)}
    (granted : (program.run respond state).1 = .ok ()) :
    (attemptAs wrap program).run.run respond state = (.ok (), (program.run respond state).2) := by
  rw [Program.run_attemptAs, granted]
  rfl

theorem run_writeChunks (destination : Path) (unfailing : Unfailing respond file ready written) (isReady : ready state)
    (chunks : List ByteArray) :
    ∃ after, (writeChunks destination file chunks).run.run respond state = (.ok (), after) ∧ ready after ∧
      written after = written state ++ joined chunks := by
  induction chunks generalizing state with
  | nil => exact ⟨state, rfl, isReady, by simp⟩
  | cons chunk rest ih =>
    obtain ⟨taken, still, longer⟩ := unfailing.append chunk isReady
    obtain ⟨after, ran, further, all⟩ := ih still
    refine ⟨after, ?_, further, by rw [all, longer, Stream.joined_cons, ByteArray.append_assoc]⟩
    have granted : ((append file chunk).run respond state).1 = .ok () := taken
    rw [writeChunks, Program.run_andThen, run_granted granted]
    exact ran

/-- The plain host takes whatever is written to a file that is there. -/
theorem unfailing_perform (file : OpenFile) :
    Unfailing World.perform file (fun world => world.files.Plain ∧ ∃ mode content, world.files.get? file.location =
      some (.file mode content))
      fun world => contentAt world.files file.location where
  append chunk world := by
    rintro ⟨plain, mode, content, found⟩
    obtain ⟨after, ran, replaces⟩ := FileSystem.append_file plain chunk found
    simp only [World.perform, World.act, ran, contentAt, found, replaces.same]
    exact ⟨rfl, ⟨replaces.plain, mode, _, rfl⟩, trivial⟩
  flush _ := ⟨rfl, rfl⟩

theorem size_joined (chunks : List ByteArray) (start : Nat) :
    chunks.foldl (fun total chunk => total + chunk.size) start = start + (joined chunks).size := by
  induction chunks generalizing start with
  | nil => simp
  | cons chunk rest ih => simp [ih, Nat.add_assoc]

theorem run_copyContent (destination : Path) (unfailing : Unfailing respond file ready written) (isReady : ready state)
    (stream : EntryStream) :
    ∃ after, (copyContent stream destination file).run.run respond state =
        ((stream.drain.outcome.mapError StepError.archive).map fun () => (joined stream.drain.chunks).size, after) ∧
      written after = written state ++ joined stream.drain.chunks := by
  obtain ⟨middle, ran, still, all⟩ := run_writeChunks destination unfailing isReady stream.drain.chunks
  obtain ⟨done, same⟩ := unfailing.flush still
  unfold copyContent
  dsimp only
  rw [Program.run_andThen, ran]
  dsimp only
  rw [Program.run_andThen]
  cases stream.drain.outcome with
  | error error => exact ⟨middle, rfl, all⟩
  | ok =>
    have granted : ((flush file).run respond middle).1 = .ok () := done
    have settles : (settled (Except.mapError StepError.archive (.ok ()))).run.run respond middle = (.ok (), middle) :=
      rfl
    refine ⟨(respond (.flush file) middle).2, ?_, same.trans all⟩
    rw [settles]
    dsimp only
    rw [Program.run_andThen, run_granted granted, size_joined, Nat.zero_add]
    rfl

/-- What copying an entry comes to if so many bytes of it are delivered. -/
def verdict (stream : EntryStream) (size : Nat) : Stream.Ending → Except StepError Nat
  | .finished =>
      if size < stream.expected then .error (.archive (.truncated stream.entry stream.expected size)) else .ok size
  | .cutShort => .error (.archive (.truncated stream.entry stream.expected size))
  | .failed reason => .error (.archive (.corrupt stream.archive (.content stream.entry reason)))

section
variable {stream : EntryStream} {size : Nat} {ending : Stream.Ending}

theorem verdict_eq_ok_iff : verdict stream size ending = .ok size ↔ ending = .finished ∧ stream.expected ≤ size := by
  cases ending with
  | finished =>
    rcases Nat.lt_or_ge size stream.expected with short | enough
    · simp [verdict, short]
    · simp [verdict, enough]
  | cutShort | failed => simp [verdict]

theorem verdict_eq_truncated_iff :
    verdict stream size ending = .error (.archive (.truncated stream.entry stream.expected size)) ↔
      ending = .finished ∧ size < stream.expected ∨ ending = .cutShort := by
  cases ending <;> simp [verdict]

theorem verdict_eq_corrupt_iff {reason : String} :
    verdict stream size ending = .error (.archive (.corrupt stream.archive (.content stream.entry reason))) ↔
      ending = .failed reason := by
  cases ending with
  | finished => by_cases short : size < stream.expected <;> simp [verdict, short]
  | cutShort | failed => simp [verdict]

end

theorem copyContent_delivered (destination : Path) (unfailing : Unfailing respond file ready written)
    (isReady : ready state) {stream : EntryStream} (fresh : stream.consumed = 0) :
    ∃ after, (copyContent stream destination file).run.run respond state =
        (verdict stream stream.source.bytes.size stream.source.ending, after) ∧
      written after = written state ++ stream.source.bytes := by
  obtain ⟨after, ran, all⟩ := run_copyContent destination unfailing isReady stream
  obtain ⟨chunks, last, -, outcome⟩ := EntryStream.drain_of_delivers (Stream.Source.delivers (by decide) stream.source)
  rw [chunks] at ran all
  refine ⟨after, ?_, all⟩
  rw [ran, outcome]
  unfold verdict EntryStream.conclude EntryStream.truncation EntryStream.advance
  rw [fresh, Nat.zero_add]
  cases stream.source.ending with
  | finished =>
      by_cases short : stream.source.bytes.size < stream.expected <;> simp [short, Except.mapError, Except.map]
  | cutShort => rfl
  | failed => rfl

/-- All bytes of an entry are written and counted, in whatever portions they come and however often they are
interrupted. Whether it is taken for whole depends on its end and on how many they are. -/
theorem copyContent_exact (unfailing : Unfailing respond file ready written) (isReady : ready state)
    (stream : EntryStream) (fresh : stream.consumed = 0) (destination : Path) :
    let told := (copyContent stream destination file).run.run respond state
    let size := stream.source.bytes.size
    written told.2 = written state ++ stream.source.bytes ∧ stream.drain.stream.consumed = size ∧
      (told.1 = .ok size ↔ stream.source.ending = .finished ∧ stream.expected ≤ size) ∧
      (told.1 = .error (.archive (.truncated stream.entry stream.expected size)) ↔
        stream.source.ending = .finished ∧ size < stream.expected ∨ stream.source.ending = .cutShort) ∧
      (∀ reason, told.1 = .error (.archive (.corrupt stream.archive (.content stream.entry reason))) ↔
        stream.source.ending = .failed reason) ∧
      ∀ other : Stream.Source, other.bytes = stream.source.bytes → other.ending = stream.source.ending →
        let also := (copyContent { stream with source := other } destination file).run.run respond state
        also.1 = told.1 ∧ written also.2 = written told.2 := by
  intro told size
  obtain ⟨after, ran, all⟩ := copyContent_delivered destination unfailing isReady fresh
  have outcome : told.1 = verdict stream size stream.source.ending := congrArg Prod.fst ran
  have kept : written told.2 = written state ++ stream.source.bytes :=
    (congrArg (fun told => written told.2) ran).trans all
  have counted : stream.drain.stream.consumed = size := by
    obtain ⟨-, last, reached, -⟩ := EntryStream.drain_of_delivers (Stream.Source.delivers (by decide) stream.source)
    rw [reached, EntryStream.advance, fresh, Nat.zero_add]
  rw [outcome]
  refine ⟨kept, counted, verdict_eq_ok_iff, verdict_eq_truncated_iff, fun _ => verdict_eq_corrupt_iff, ?_⟩
  intro other bytes ending also
  have begun : ({ stream with source := other } : EntryStream).consumed = 0 := fresh
  obtain ⟨last, run, whole⟩ := copyContent_delivered destination unfailing isReady begun
  have same : also = (verdict stream size stream.source.ending, last) := run.trans (by simp only [bytes, ending]; rfl)
  rw [same, kept, whole]
  exact ⟨rfl, congrArg (written state ++ ·) bytes⟩

/-- A text in three pieces, with an interruption, for an entry that declares one byte more. -/
theorem copyContent_exact_truncated :
    let file : OpenFile := ⟨⟨"m.py"⟩, ["m.py"]⟩
    let world : World := { files := { top := .directory [("m.py", .file 0o644 .empty)] } }
    let deliveries := [.chunk "he".toUTF8, .interrupted, .chunk "ll".toUTF8, .chunk "o".toUTF8]
    let stream : EntryStream := ⟨⟨"a.whl"⟩, "m.py", 6, 0, ⟨deliveries, .finished⟩⟩
    let told := (copyContent stream file.path file).run.run World.perform world
    (world.files.Plain ∧ ∃ mode content, world.files.get? file.location = some (.file mode content)) ∧
      stream.consumed = 0 ∧
      contentAt told.2.files file.location = "hello".toUTF8 ∧ stream.drain.stream.consumed = 5 ∧
      told.1 = .error (.archive (.truncated "m.py" 6 5)) ∧
      let also := (copyContent { stream with source := ⟨[.chunk "hello".toUTF8], .finished⟩ } file.path
        file).run.run World.perform world
      also.1 = told.1 ∧ contentAt also.2.files file.location = contentAt told.2.files file.location := by
  intro file world deliveries stream told
  have plain : world.files.Plain := ⟨by decide, rfl⟩
  have isReady : world.files.Plain ∧ ∃ mode content, world.files.get? file.location = some (.file mode content) :=
    ⟨plain, 0o644, .empty, rfl⟩
  have bytes : stream.source.bytes = "hello".toUTF8 := by decide +kernel
  have before : contentAt world.files file.location = .empty := by decide +kernel
  obtain ⟨all, counted, -, truncated, -, other⟩ :=
    copyContent_exact (unfailing_perform file) isReady stream rfl file.path
  refine ⟨isReady, rfl, ?_, ?_, ?_, other _ bytes.symm rfl⟩
  · rw [all, before, bytes, ByteArray.empty_append]
  · rw [counted, bytes]
    decide +kernel
  · have size : stream.source.bytes.size = 5 := by
      rw [bytes]
      decide +kernel
    rw [size] at truncated
    exact truncated.mpr (.inl ⟨rfl, by decide⟩)

/-! ### Texts -/

/-- Copying an entry writes these bytes, and succeeds, on every host that takes them. -/
def Copies (stream : EntryStream) (bytes : ByteArray) : Prop :=
  ∀ {σ : Type} {respond : (request : Host.Request) → σ → request.Answer × σ} {file : OpenFile} {ready : σ → Prop}
    {written : σ → ByteArray} {state : σ} (destination : Path), Unfailing respond file ready written → ready state →
      let told := (copyContent stream destination file).run.run respond state
      told.1 = .ok bytes.size ∧ written told.2 = written state ++ bytes

theorem copies_of_finished {stream : EntryStream} {bytes : ByteArray} (fresh : stream.consumed = 0)
    (same : stream.source.bytes = bytes)
    (ending : stream.source.ending = .finished) (whole : stream.expected ≤ bytes.size) : Copies stream bytes := by
  intro σ respond file ready written state destination unfailing isReady told
  obtain ⟨after, ran, all⟩ := copyContent_delivered destination unfailing isReady fresh
  rw [same] at ran all
  have outcome : told = (verdict stream bytes.size stream.source.ending, after) := ran
  rw [outcome]
  exact ⟨verdict_eq_ok_iff.mpr ⟨ending, whole⟩, all⟩

open EntryStream (textLimit textBuffer copyBuffer)

open WheelInstaller.Stream (Reader Delivers)

/-- However an entry is delivered, and even if it never ends, reading it as a text reads and holds a bounded part of
it only, and tells whether it is too long, cut off or no text at all, in this order. What is read so is what copying
the entry writes. -/
theorem readText_bounded :
    (∀ {σ : Type} [Reader σ] (stream : EntryStream σ), stream.consumed = 0 →
      (∀ now held, stream.Passes now held → held.size ≤ textLimit ∧ now.consumed = held.size ∧
        now.gather held = stream.gather .empty) ∧
        stream.gatherText.held.size ≤ textLimit ∧ stream.gatherText.stream.consumed ≤ textLimit + textBuffer ∧
        (∀ bytes, Delivers textBuffer stream.source bytes .finished → stream.Judges bytes) ∧
        ((∀ bytes ending, ¬ Delivers textBuffer stream.source bytes ending) →
          ∃ size, stream.readText = .error (stream.oversize size))) ∧
      (∀ (stream : EntryStream) (text : String), stream.consumed = 0 → stream.readText = .ok text →
        Copies stream text.toUTF8) ∧
        ∀ (path : Path) (index : Container.Index) (entry : Entry) (text : String),
        Wheel.readEntry path index entry = .ok text →
          ∃ found, Wheel.locateEntry path index index.file entry = .ok found ∧
            Copies (Wheel.entryStream path entry found copyBuffer index.file) text.toUTF8 := by
  refine ⟨fun stream fresh => ⟨fun now held passes => ?_, ?_⟩, fun stream text fresh read => ?_,
    fun path index entry text read => ?_⟩
  · refine ⟨passes.size_le, ?_, passes.gather_eq⟩
    rw [passes.consumed_eq, fresh, Nat.zero_add]
  · obtain ⟨held, consumed⟩ := EntryStream.gatherText_bounded fresh
    exact ⟨held, consumed, fun bytes => EntryStream.judges_of_delivers fresh, EntryStream.readText_of_endless⟩
  · obtain ⟨bytes, ending, whole⟩ := EntryStream.bytes_of_readText read
    rw [fresh, Nat.zero_add, ← bytes] at whole
    exact copies_of_finished fresh bytes.symm ending whole
  · obtain ⟨found, located, bytes, ending, whole⟩ := Wheel.source_of_readEntry read
    exact ⟨found, located, copies_of_finished rfl bytes ending whole⟩

/-- A reader that never ends is given up, and a short member of a container is read and copied. -/
theorem readText_bounded_endless :
    let endless : EntryStream Stream.Repeating := ⟨⟨"a.whl"⟩, "entry_points.txt", 0, 0, ⟨97, true⟩⟩
    let path : Path := ⟨"a.whl"⟩
    let file : ByteArray := ⟨(Container.localMark ++ List.replicate 22 0 ++ [1, 0, 0, 0] ++ [0x61, 0x68, 0x69]).toArray⟩
    let index : Container.Index := ⟨file, 33, [⟨⟨#[0x61]⟩, "a", "", 0, 0, .stored, 0xD8932AAC, 2, 2, 0, 0, false⟩]⟩
    let entry : Entry := ⟨0, "a", 2, false, none⟩
    endless.consumed = 0 ∧ (∀ bytes ending, ¬ Delivers textBuffer endless.source bytes ending) ∧
      (∃ size, endless.readText = .error (endless.oversize size)) ∧
      endless.gatherText.stream.consumed ≤ textLimit + textBuffer ∧
      Wheel.readEntry path index entry = .ok "hi" ∧
      ∃ found, Wheel.locateEntry path index file entry = .ok found ∧
        Copies (Wheel.entryStream path entry found textBuffer file) "hi".toUTF8 ∧
        Copies (Wheel.entryStream path entry found copyBuffer file) "hi".toUTF8 := by
  intro endless path file index entry
  obtain ⟨reads, same, copies⟩ := readText_bounded
  have never : ∀ bytes ending, ¬ Delivers textBuffer endless.source bytes ending := fun _ _ => Stream.Repeating.endless
  obtain ⟨-, -, near, -, tooLong⟩ := reads endless rfl
  let found : Container.Index.Located := ⟨⟨⟨#[0x61]⟩, "a", "", 0, 0, .stored, 0xD8932AAC, 2, 2, 0, 0, false⟩, 31, false⟩
  let stream := Wheel.entryStream path entry found textBuffer file
  have located : Wheel.locateEntry path index file entry = .ok found := by rfl
  have bytes : stream.source.bytes = "hi".toUTF8 :=
    (found.bytes_source (by decide) file).trans (by decide +kernel)
  have ending : stream.source.ending = .finished := by decide +kernel
  have delivers : Delivers textBuffer stream.source "hi".toUTF8 .finished := by
    have all := Stream.Source.delivers (show 0 < textBuffer by decide) stream.source
    rwa [bytes, ending] at all
  have text : stream.readText = .ok "hi" := by
    obtain ⟨-, -, -, judged, -⟩ := reads stream rfl
    exact ((judged _ delivers).text (by decide +kernel) (by decide +kernel) "hi").mpr rfl
  have read : Wheel.readEntry path index entry = .ok "hi" := by
    unfold Wheel.readEntry Wheel.openEntry
    rw [located]
    exact text
  obtain ⟨also, known, copied⟩ := copies path index entry "hi" read
  cases located.symm.trans known
  exact ⟨rfl, never, tooLong never, near, read, found, located, same stream "hi" rfl text, copied⟩

end WheelInstaller.Install
