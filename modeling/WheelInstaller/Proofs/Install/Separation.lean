import WheelInstaller.Install.Extraction
import WheelInstaller.Proofs.FileSystem.Slots
import WheelInstaller.Proofs.Host.Interleaving
import WheelInstaller.Proofs.Host.World

/-! Extraction by places. Each file of a plan has a place of its own; what a worker asks for on behalf of its files
depends on what is at their places, and leaves everything else as it is. -/

namespace WheelInstaller

namespace FileSystem

variable {base : FileSystem} {taken : Location → Prop} {location : Location} {α β : Type}

theorem run_map (action : Action α) (change : α → β) (files : FileSystem) :
    (do return change (← action) : Action β).run files = ((action.run files).1.map change, (action.run files).2) := by
  rw [run_bind_eq]
  cases action.run files with
  | mk outcome after => cases outcome <;> rfl

theorem ActsAt.map {action : Action α} (acts : base.ActsAt taken location action) (change : α → β) :
    base.ActsAt taken location (do return change (← action) : Action β) := by
  constructor
  · intro files fills
    rw [run_map]
    exact acts.keeps fills
  · intro files other fills also agree
    obtain ⟨outcome, held⟩ := acts.same fills also agree
    rw [run_map, run_map, outcome]
    exact ⟨rfl, held⟩

end FileSystem

namespace Install

open Host Host.Rules FileSystem

variable {base : FileSystem} {archive root : Path} {site location : Location} {taken own : Location → Prop}

/-- What extraction starts from: files come to places below the root, and the archive can be read, or none comes. -/
structure Start (base : FileSystem) (archive root : Path) (site : Location) (taken : Location → Prop) : Prop where
  ground : base.Ground root site
  legible : (base.readFile archive).isOk ∨ ∀ location, ¬ taken location

/-- A request in the name of some places: it reads the archive, or works at one of them. -/
def Permitted (archive root : Path) (site : Location) (taken own : Location → Prop) : Host.Request → Prop
  | .readFile path => path = archive
  | .isCancelled | .flush _ => True
  | .createFile path | .setMode path _ => ∃ location, own location ∧ Slot root site taken path location
  | .append file _ => own file.location ∧ ∃ path, Slot root site taken path file.location
  | _ => False

/-- Nobody stops waiting, and nothing but files has come. -/
def Ongoing (base : FileSystem) (taken : Location → Prop) (world : World) : Prop :=
  world.cancelled = false ∧ base.Fills taken world.files

theorem keeps_act {α : Type} {world : World} (operation : Operation) {action : FileSystem.Action α}
    (acts : base.ActsAt taken location action) (mine : own location) (ongoing : Ongoing base taken world) :
    Ongoing base taken (world.act operation action).2 ∧
      ∀ place, ¬ own place → (world.act operation action).2.files.get? place = world.files.get? place := by
  obtain ⟨still, apart⟩ := acts.keeps ongoing.2
  refine ⟨⟨ongoing.1, still⟩, fun place outside => apart place ?_⟩
  rintro rfl
  exact outside mine

theorem same_act {α : Type} {world other : World} (operation : Operation) {action : FileSystem.Action α}
    (acts : base.ActsAt taken location action) (mine : own location) (ongoing : Ongoing base taken world)
    (also : Ongoing base taken other) (agree : ∀ place, own place → other.files.get? place = world.files.get? place) :
    (other.act operation action).1 = (world.act operation action).1 ∧
      ∀ place, own place → (other.act operation action).2.files.get? place =
      (world.act operation action).2.files.get? place := by
  obtain ⟨outcome, held⟩ := acts.same ongoing.2 also.2 (agree location mine)
  refine ⟨congrArg (Except.mapError _) outcome, fun place within => ?_⟩
  by_cases here : place = location
  · exact here ▸ held
  · exact ((acts.keeps also.2).2 place here).trans
      ((agree place within).trans ((acts.keeps ongoing.2).2 place here).symm)

/-- The host of an extraction, by what is at its places. -/
def separation (start : Start base archive root site taken) : Separation World Location (Option Node) where
  respond := World.perform
  look world location := world.files.get? location
  valid := Ongoing base taken
  permits := Permitted archive root site taken
  keeps {own request world} permitted ongoing := by
    cases request with
    | readFile | isCancelled | flush => exact ⟨ongoing, fun _ _ => rfl⟩
    | createFile path =>
      obtain ⟨location, mine, slot⟩ := permitted
      exact keeps_act (.createFile path) ((slot.actsAt_createFile start.ground).map _) mine ongoing
    | setMode path mode =>
      obtain ⟨location, mine, slot⟩ := permitted
      exact keeps_act (.setMode path) (slot.actsAt_setMode start.ground mode) mine ongoing
    | append file chunk =>
      obtain ⟨mine, path, slot⟩ := permitted
      have kept := keeps_act (.write file.path) (slot.actsAt_append start.ground chunk) mine ongoing
      exact kept
    | _ => exact permitted.elim
  same {own request world other} permitted ongoing also agree := by
    cases request with
    | readFile path =>
      cases permitted
      exact ⟨(also.2.readFile start.legible).trans (ongoing.2.readFile start.legible).symm, agree⟩
    | isCancelled => exact ⟨also.1.trans ongoing.1.symm, agree⟩
    | flush => exact ⟨rfl, agree⟩
    | createFile path =>
      obtain ⟨location, mine, slot⟩ := permitted
      exact same_act (.createFile path) ((slot.actsAt_createFile start.ground).map _) mine ongoing also agree
    | setMode path mode =>
      obtain ⟨location, mine, slot⟩ := permitted
      exact same_act (.setMode path) (slot.actsAt_setMode start.ground mode) mine ongoing also agree
    | append file chunk =>
      obtain ⟨mine, path, slot⟩ := permitted
      have held := same_act (.write file.path) (slot.actsAt_append start.ground chunk) mine ongoing also agree
      exact held
    | _ => exact permitted.elim

/-! ### What a worker asks for -/

variable {ε α : Type} {destination : Path} {entry : Entry} {index : Except ArchiveError Container.Index}

/-- The attempt keeps to some places. -/
abbrev Keeping (start : Start base archive root site taken) (own : Location → Prop) (work : Attempt ε α) : Prop :=
  ((separation start).rules own).Safe (Ends (fun _ _ => True) fun _ _ => True) work.run ()

variable {start : Start base archive root site taken}

theorem ends_always {σ : Type} {outcome : Except ε α} {state : σ} :
    Ends (fun _ _ => True) (fun _ _ => True) outcome state := by
  cases outcome <;> trivial

theorem Keeping.confined {work : Attempt ε α} (keeping : Keeping start own work) :
    (separation start).Confined own work.run :=
  Safe.weaken keeping fun _ _ _ => trivial

theorem keeping_writeChunks {file : OpenFile} {path : Path} (slot : Slot root site taken path file.location)
    (mine : own file.location) (chunks : List ByteArray) : Keeping start own (writeChunks destination file chunks) := by
  induction chunks with
  | nil => exact Safe.returned trivial
  | cons chunk rest ih =>
    refine Safe.andThen (Safe.wrapped ⟨⟨mine, path, slot⟩, fun answer _ _ => ends_always⟩) fun _ _ _ => ?_
    exact ih

theorem keeping_copyContent {file : OpenFile} {path : Path} (slot : Slot root site taken path file.location)
    (mine : own file.location) (stream : EntryStream) : Keeping start own (copyContent stream destination file) := by
  refine Safe.andThen (keeping_writeChunks slot mine _) fun _ _ _ => ?_
  refine Safe.andThen (Safe.settled ends_always) fun _ _ _ => ?_
  refine Safe.andThen (Safe.wrapped ⟨trivial, fun answer _ _ => ends_always⟩) fun _ _ _ => ?_
  exact Safe.returned trivial

theorem keeping_checkCancelled : Keeping start own checkCancelled :=
  ⟨trivial, fun cancelled _ _ => by cases cancelled <;> trivial⟩

theorem safe_currentContent_archive (index : Container.Index) :
    ((separation start).rules own).Safe (fun _ _ => True) (currentContent archive index) () :=
  ⟨rfl, fun answer _ _ => by cases answer <;> trivial⟩

theorem keeping_extractFile (slot : Slot root site taken destination location) (mine : own location) :
    Keeping start own (extractFile archive index entry destination) := by
  refine Safe.andThen keeping_checkCancelled fun _ _ _ => ?_
  refine Safe.andThen (Safe.settled ends_always) fun index _ _ => ?_
  refine Safe.andThen (Safe.lift (safe_currentContent_archive index)) fun content _ _ => ?_
  refine Safe.andThen (Safe.settled ends_always) fun found _ _ => ?_
  have opening : ((separation start).rules own).Safe (Ends (fun file _ => file.location = location) fun _ _ => True)
      (createFile destination) () := by
    refine ⟨⟨location, mine, slot⟩, fun answer _ ⟨world, ongoing, told⟩ => ?_⟩
    have ran := congrArg Prod.fst (run_map (FileSystem.createFile destination) (OpenFile.mk destination) world.files)
    have answered :
      answer = (((FileSystem.createFile destination).run world.files).1.map (OpenFile.mk destination)).mapError
        (.refused (.createFile destination)) :=
      told.trans (congrArg (Except.mapError (HostError.refused (.createFile destination))) ran)
    cases opened : ((FileSystem.createFile destination).run world.files).1 with
    | error error =>
      rw [opened] at answered
      cases answered
      trivial
    | ok reached =>
      rw [opened] at answered
      cases answered
      exact slot.createFile_at start.ground ongoing.2 opened
  refine Safe.andThen (Safe.wrapped opening) fun file _ located => ?_
  refine Safe.andThen (Safe.lift (safe_currentContent_archive index)) fun content _ _ => ?_
  subst located
  refine Safe.andThen (keeping_copyContent slot mine _) fun size _ _ => ?_
  refine Safe.andThen (Safe.wrapped ⟨⟨_, mine, slot⟩, fun answer _ _ => ends_always⟩) fun _ _ _ => ?_
  exact Safe.returned trivial

/-- A file is extracted at its place, unless the archive could not be opened. -/
theorem keeping_extractFile_of
    (able : (∃ error, index = .error error) ∨ ∃ location, own location ∧ Slot root site taken destination location) :
    Keeping start own (extractFile archive index entry destination) := by
  rcases able with ⟨error, rfl⟩ | ⟨location, mine, slot⟩
  · exact Safe.andThen keeping_checkCancelled fun _ _ _ => trivial
  · exact keeping_extractFile slot mine

theorem keeping_extractFiles {share : List (Entry × Path)}
    (able : ∀ pair ∈ share, (∃ error, index = .error error) ∨ ∃ location, own location ∧
      Slot root site taken pair.2 location) :
    Keeping start own (extractFiles archive index share) := by
  induction share with
  | nil => exact Safe.returned trivial
  | cons pair rest ih =>
    refine Safe.andThen (keeping_extractFile_of (able pair (by simp))) fun size _ _ => ?_
    refine Safe.andThen (ih fun other member => able other (by simp [member])) fun _ _ _ => ?_
    exact Safe.returned trivial

end Install
end WheelInstaller
