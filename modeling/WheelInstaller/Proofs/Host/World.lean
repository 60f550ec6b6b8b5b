import WheelInstaller.Host.World
import WheelInstaller.Proofs.FileSystem.Changes
import WheelInstaller.Proofs.Host.Rules

/-! How a host answers that keeps files. It carries a request out, or refuses it and leaves everything as it is, or
fails when it is half done; and its caller may have stopped waiting at any time. -/

namespace WheelInstaller.Host

open FileSystem (Changes Shrinks Thins)

/-- The answer is a refusal. -/
def Request.Refusal : (request : Request) → request.Answer → Prop
  | .readFile _, answer | .readDirectory _, answer | .canonicalize _, answer | .copy _ _, answer
  | .createFile _, answer | .commandOutput _ _, answer | .write _ _, answer | .rename _ _, answer
  | .createDirectories _, answer | .removeFile _, answer | .removeDirectory _, answer | .append _ _, answer
  | .flush _, answer | .setMode _ _, answer => ∃ error, answer = .error error
  | .exists _, _ | .isDirectory _, _ | .isCancelled, _ | .register _, _ | .release _, _ | .cleanUp, _ => False

/-- Directories are only made, and files only filled, at some locations. -/
def Request.Confined (home : Location) (made written : Location → Prop) : Request → Prop
  | .createDirectories path => ∀ location, path.Passes home location → made location
  | .write path _ | .copy _ path | .createFile path | .setMode path _ => written (path.locate home)
  | .append file _ => written file.location
  | .rename _ _ | .removeFile _ | .removeDirectory _ | .commandOutput _ _ | .cleanUp => False
  | .readFile _ | .exists _ | .isDirectory _ | .readDirectory _ | .canonicalize _ | .flush _ | .isCancelled
  | .register _ | .release _ => True

theorem Request.Confined.weaken {home : Location} {made more written others : Location → Prop} {request : Request}
    (confined : request.Confined home made written) (implies : ∀ location, made location → more location)
    (extends_ : ∀ location, written location → others location) : request.Confined home more others := by
  cases request with
  | createDirectories path => exact fun location passes => implies location (confined location passes)
  | write | copy | createFile | setMode | append => exact extends_ _ confined
  | _ => exact confined

/-- Nothing is noted or forgotten. -/
def Request.Silent : Request → Prop
  | .register _ | .release _ | .cleanUp => False
  | _ => True

/-- The opened file is the one that a path stands for. -/
def OpenFile.LocatedAt (home : Location) (path : Path) (file : OpenFile) : Prop :=
  file.location = path.locate home

namespace World

/-- The request is carried out. Only when the caller stops waiting is open. -/
def Serves (request : Request) (world : World) (answer : request.Answer) (after : World) : Prop :=
  (answer, after) = world.perform request ∨ request = .isCancelled ∧ after = world

/-- What is left of a request that fails half done: a part of a file is written, a part of a directory taken away. -/
inductive Falters (files : FileSystem) : Request → FileSystem → Prop where
  | write {path : Path} {content part : ByteArray} {after : FileSystem}
      (begun : part.data.toList <+: content.data.toList)
      (ran : (FileSystem.writeFile path part).run files = (.ok (), after)) : Falters files (.write path content) after
  | append {file : OpenFile} {chunk part : ByteArray} {after : FileSystem}
      (begun : part.data.toList <+: chunk.data.toList)
      (ran : (FileSystem.append file.location part).run files = (.ok (), after)) :
      Falters files (.append file chunk) after
  | copy {source target : Path} {origin location : Location} {mode : Nat} {content part : ByteArray}
      {permitted : Nat} {opened : FileSystem} (found : files.status true source = .ok (origin, .file mode content))
      (begun : part.data.toList <+: content.data.toList)
      (ran : (FileSystem.createFile target).run files = (.ok location, opened)) :
      Falters files (.copy source target) (opened.put location (.file permitted part))
  | removeDirectory {path : Path} {location : Location} {after : FileSystem}
      (found : files.status false path = .ok (location, .directory)) (thins : Thins location files after) :
      Falters files (.removeDirectory path) after

/-- The request is carried out, or refused, or it fails half done. -/
def Replies (request : Request) (world : World) (answer : request.Answer) (after : World) : Prop :=
  world.Serves request answer after ∨
    request.Refusal answer ∧
      (after = world ∨ ∃ files, Falters world.files request files ∧ after = { world with files })

variable {world after : World} {request : Request} {answer : request.Answer} {home : Location}
variable {made written : Location → Prop}

/-- How an operation on the files ends: it is done, it fails, or it is refused before it has begun. -/
inductive Acted {α : Type} (world : World) (action : FileSystem.Action α) : Except HostError α → World → Prop where
  | done {value : α} {after : World} (ran : action.run world.files = (.ok value, after.files)) :
      Acted world action (.ok value) after
  | failed {cause : OsError} {error : HostError} {after : World}
    (ran : action.run world.files = (.error cause, after.files)) :
      Acted world action (.error error) after
  | refused {error : HostError} : Acted world action (.error error) world

section Acting

variable {α : Type} {operation : Operation} {action : FileSystem.Action α} {answer : Except HostError α}

theorem acted_of_act (action : FileSystem.Action α) (done : (answer, after) = world.act operation action) :
    Acted world action answer after := by
  unfold act at done
  cases ran : action.run world.files with
  | mk outcome files =>
    rw [ran] at done
    cases outcome with
    | ok => cases done; exact .done ran
    | error => cases done; exact .failed ran

theorem acted_or_falters (action : FileSystem.Action α)
    (replies : ((answer, after) = world.act operation action ∨ request = .isCancelled ∧ after = world) ∨
      (∃ error, answer = .error error) ∧
        (after = world ∨ ∃ files, Falters world.files request files ∧ after = { world with files }))
    (asked : request ≠ .isCancelled) :
    Acted world action answer after ∨ (∃ error, answer = .error error) ∧ Falters world.files request after.files := by
  rcases replies with (done | ⟨cancelled, -⟩) | ⟨⟨error, rfl⟩, rfl | ⟨files, falters, rfl⟩⟩
  · exact .inl (acted_of_act action done)
  · exact absurd cancelled asked
  · exact .inl .refused
  · exact .inr ⟨⟨error, rfl⟩, falters⟩

theorem acted (action : FileSystem.Action α)
    (replies : ((answer, after) = world.act operation action ∨ request = .isCancelled ∧ after = world) ∨
      (∃ error, answer = .error error) ∧
        (after = world ∨ ∃ files, Falters world.files request files ∧ after = { world with files }))
    (asked : request ≠ .isCancelled) (whole : ∀ files, ¬ Falters world.files request files) :
    Acted world action answer after :=
  (acted_or_falters action replies asked).resolve_right fun falters => whole _ falters.2

theorem Acted.settled (acted : Acted world action answer after)
    (kept : ∀ {cause}, action.run world.files = (.error cause, after.files) → after.files = world.files) :
    (∃ value, answer = .ok value ∧ action.run world.files = (.ok value, after.files)) ∨
      ∃ error, answer = .error error ∧ after.files = world.files := by
  cases acted with
  | done ran => exact .inl ⟨_, rfl, ran⟩
  | failed ran => exact .inr ⟨_, rfl, kept ran⟩
  | refused => exact .inr ⟨_, rfl, rfl⟩

theorem Acted.changes (plain : world.files.Plain) (acted : Acted world action answer after)
    (kept : ∀ {cause}, action.run world.files = (.error cause, after.files) → after.files = world.files)
    (changed : ∀ value, action.run world.files = (.ok value, after.files) →
      Changes made written world.files after.files) :
    Changes made written world.files after.files := by
  rcases acted.settled kept with ⟨value, -, ran⟩ | ⟨-, -, same⟩
  · exact changed value ran
  · exact .of_eq plain same

end Acting

theorem files_of_looks (looks : request.Looks) (replies : world.Replies request answer after) :
    after.files = world.files := by
  rcases replies with (done | ⟨-, rfl⟩) | ⟨-, rfl | ⟨files, falters, -⟩⟩
  · cases request <;> first | exact looks.elim | (cases done; rfl)
  · rfl
  · rfl
  · cases falters <;> exact looks.elim

theorem Replies.registry (silent : request.Silent) (replies : world.Replies request answer after) :
    after.registry = world.registry := by
  rcases replies with (done | ⟨-, rfl⟩) | ⟨-, rfl | ⟨files, -, rfl⟩⟩
  · cases request <;> first | exact silent.elim | (cases done; rfl)
  · rfl
  · rfl
  · rfl

theorem Replies.register {path : Path} {answer : Unit} (replies : world.Replies (.register path) answer after) :
    after = { world with registry := world.registry.add path } := by
  rcases replies with (done | ⟨cancelled, -⟩) | ⟨refused, -⟩
  · cases done
    rfl
  · cases cancelled
  · exact refused.elim

theorem Replies.isCancelled {answer : Bool} (replies : world.Replies .isCancelled answer after) : after = world := by
  rcases replies with (done | ⟨-, same⟩) | ⟨refused, -⟩
  · cases done
    rfl
  · exact same
  · exact refused.elim

theorem honest_of_refusal {handle : Path → OpenFile → Prop} (refused : request.Refusal answer) :
    Honest handle request answer := by
  cases request with
  | readDirectory | createFile =>
    obtain ⟨error, rfl⟩ := refused
    trivial
  | _ => trivial

/-- A file is made, and opened for its path. -/
def openFile (path : Path) : FileSystem.Action OpenFile := do
  return ⟨path, ← FileSystem.createFile path⟩

theorem openFile_ok {path : Path} {file : OpenFile} {files after : FileSystem} (plain : files.Plain)
    (ran : (openFile path).run files = (.ok file, after)) : file.location = path.locate files.home ∧
      files.Replaces (path.locate files.home) (files.modeAt (path.locate files.home)) .empty after := by
  obtain ⟨location, middle, created, opened⟩ := FileSystem.bind_eq_ok ran
  cases opened
  obtain ⟨rfl, replaces⟩ := FileSystem.createFile_ok plain created
  exact ⟨rfl, replaces⟩

theorem openFile_error {path : Path} {cause : OsError} {files after : FileSystem} (plain : files.Plain)
    (ran : (openFile path).run files = (.error cause, after)) : after = files := by
  rcases FileSystem.bind_eq_error ran with failed | ⟨location, middle, -, opened⟩
  · exact FileSystem.createFile_error plain failed
  · cases opened

theorem Serves.changes (plain : world.files.Plain) (here : world.files.home = home)
    (confined : request.Confined home made written) (serves : world.Serves request answer after) :
    Changes made written world.files after.files ∧ Honest (OpenFile.LocatedAt home) request answer := by
  subst here
  rcases serves with done | ⟨rfl, rfl⟩
  · cases request with
    | write path content =>
      exact ⟨(acted_of_act (FileSystem.writeFile path content) done).changes plain (FileSystem.writeFile_error plain)
        fun _ ran => .of_replaces confined (FileSystem.writeFile_ok plain ran), trivial⟩
    | copy source target =>
      refine ⟨(acted_of_act (FileSystem.copyFile source target) done).changes plain (FileSystem.copyFile_error plain)
        fun _ ran => ?_, trivial⟩
      obtain ⟨mode, content, -, replaces⟩ := FileSystem.copyFile_ok plain ran
      exact .of_replaces confined replaces
    | createDirectories path =>
      refine ⟨?_, trivial⟩
      rcases acted_of_act (FileSystem.makeDirectories path) done with ran | ran | _
      · exact .of_grows ((FileSystem.makeDirectories_run plain ran).1.weaken confined)
      · exact .of_grows ((FileSystem.makeDirectories_run plain ran).1.weaken confined)
      · exact .refl plain
    | createFile path =>
      rcases (acted_of_act (openFile path) done).settled (openFile_error plain)
        with ⟨file, rfl, ran⟩ | ⟨error, rfl, same⟩
      · obtain ⟨located, replaces⟩ := openFile_ok plain ran
        exact ⟨.of_replaces confined replaces, located⟩
      · exact ⟨.of_eq plain same, trivial⟩
    | append file chunk =>
      refine ⟨?_, trivial⟩
      rcases acted_of_act (FileSystem.append file.location chunk) done with ran | ran | _
      · exact .of_append plain confined ran
      · exact .of_append plain confined ran
      · exact .refl plain
    | setMode path mode =>
      refine ⟨(acted_of_act (FileSystem.setMode path mode) done).changes plain FileSystem.setMode_error
        fun _ ran => ?_, trivial⟩
      rcases FileSystem.setMode_ok plain ran with ⟨-, same⟩ | ⟨old, content, -, replaces⟩
      · exact .of_eq plain same
      · exact .of_replaces confined replaces
    | rename | removeFile | removeDirectory | commandOutput | cleanUp => exact confined.elim
    | readDirectory path =>
      cases done
      refine ⟨.refl plain, ?_⟩
      cases listed : world.files.readDirectory path with
      | error => trivial
      | ok names =>
        intro child member
        obtain ⟨name, inside, rfl⟩ := List.mem_map.mp member
        exact ⟨name, (Path.Extends.refl path).div (FileSystem.properName_of_readDirectory plain listed name inside)⟩
    | _ =>
      cases done
      exact ⟨.refl plain, trivial⟩
  · exact ⟨.refl plain, trivial⟩

theorem Falters.changes {files last : FileSystem} (falters : Falters files request last) (plain : files.Plain)
    (confined : request.Confined files.home made written) : Changes made written files last := by
  cases falters with
  | write begun ran => exact .of_replaces confined (FileSystem.writeFile_ok plain ran)
  | append begun ran => exact .of_append plain confined ran
  | copy found begun ran => exact .of_writes confined (FileSystem.writes_of_createFile plain ran)
  | removeDirectory => exact confined.elim

/-- However a host replies, no more changes than was asked for. -/
theorem Replies.changes (plain : world.files.Plain) (here : world.files.home = home)
    (confined : request.Confined home made written) (replies : world.Replies request answer after) :
    Changes made written world.files after.files ∧ Honest (OpenFile.LocatedAt home) request answer := by
  rcases replies with serves | ⟨refused, rfl | ⟨files, falters, rfl⟩⟩
  · exact serves.changes plain here confined
  · exact ⟨.refl plain, honest_of_refusal refused⟩
  · subst here
    exact ⟨falters.changes plain confined, honest_of_refusal refused⟩

theorem Replies.readFile {path : Path} {answer : Except OsError ByteArray}
    (replies : world.Replies (.readFile path) answer after) :
    after = world ∧ ∀ content, answer = .ok content → world.files.readFile path = .ok content := by
  rcases replies with (done | ⟨cancelled, -⟩) | ⟨⟨error, rfl⟩, rfl | ⟨files, falters, -⟩⟩
  · obtain ⟨rfl, rfl⟩ := Prod.mk.inj done
    exact ⟨rfl, fun _ => id⟩
  · cases cancelled
  · exact ⟨rfl, nofun⟩
  · cases falters

/-! What a host makes of requests for directories and files. -/

theorem Replies.createDirectories {path : Path} {answer : Except HostError Unit} (plain : world.files.Plain)
    (replies : world.Replies (.createDirectories path) answer after) :
    world.files.Grows (path.Passes world.files.home) after.files ∧
      (answer = .ok () → path.components ≠ [] → after.files.isDirectory path = true) := by
  rcases acted (FileSystem.makeDirectories path) replies nofun nofun with ran | ran | _
  · obtain ⟨grows, there⟩ := FileSystem.makeDirectories_run plain ran
    exact ⟨grows, fun _ => there rfl⟩
  · exact ⟨(FileSystem.makeDirectories_run plain ran).1, nofun⟩
  · exact ⟨.refl plain, nofun⟩

theorem Replies.createDirectories_run {path : Path} {answer : Except HostError Unit}
    (replies : world.Replies (.createDirectories path) answer after) :
    (answer = .ok () ∧ (FileSystem.makeDirectories path).run world.files = (.ok (), after.files)) ∨
      ∃ refused, answer = .error refused ∧ (after.files = world.files ∨
        ∃ error, (FileSystem.makeDirectories path).run world.files = (.error error, after.files)) := by
  rcases acted (FileSystem.makeDirectories path) replies nofun nofun with ran | ran | _
  · exact .inl ⟨rfl, ran⟩
  · exact .inr ⟨_, rfl, .inr ⟨_, ran⟩⟩
  · exact .inr ⟨_, rfl, .inl rfl⟩

theorem Replies.write {path : Path} {content : ByteArray} {answer : Except HostError Unit} (plain : world.files.Plain)
    (replies : world.Replies (.write path content) answer after) :
    (answer = .ok () ∧ world.files.Replaces (path.locate world.files.home)
      (world.files.modeAt (path.locate world.files.home)) content after.files) ∨
      ∃ error, answer = .error error ∧ (after.files = world.files ∨ world.files.Writes path after.files) := by
  rcases acted_or_falters (FileSystem.writeFile path content) replies nofun with acted | ⟨⟨error, rfl⟩, falters⟩
  · refine (acted.settled (FileSystem.writeFile_error plain)).imp ?_ ?_
    · rintro ⟨_, rfl, ran⟩
      exact ⟨rfl, FileSystem.writeFile_ok plain ran⟩
    · rintro ⟨error, rfl, same⟩
      exact ⟨error, rfl, .inl same⟩
  · cases falters with
    | write _ ran => exact .inr ⟨error, rfl, .inr (FileSystem.writes_of_writeFile plain ran)⟩

theorem Replies.rename {source target : Path} {mode : Nat} {content : ByteArray} {answer : Except HostError Unit}
    (plain : world.files.Plain) (found : world.files.get? (source.locate world.files.home) = some (.file mode content))
    (apart : source.locate world.files.home ≠ target.locate world.files.home)
    (replies : world.Replies (.rename source target) answer after) :
    (answer = .ok () ∧ after.files.Plain ∧ after.files.home = world.files.home ∧
      world.files.get? (target.locate world.files.home) ≠ some .directory ∧
      ∀ other, after.files.get? other =
        if other = target.locate world.files.home then some (.file mode content)
        else if other = source.locate world.files.home then none else world.files.get? other) ∨
      ∃ error, answer = .error error ∧ after.files = world.files := by
  refine ((acted (FileSystem.rename source target) replies nofun nofun).settled FileSystem.rename_error).imp_left ?_
  rintro ⟨_, rfl, ran⟩
  exact ⟨rfl, FileSystem.rename_file plain found apart ran⟩

/-! What a host makes of requests to take something away. -/

theorem Replies.removeFile {path : Path} {answer : Except HostError Unit} (plain : world.files.Plain)
    (replies : world.Replies (.removeFile path) answer after) :
    (answer = .ok () ∧ world.files.Removes (path.locate world.files.home) after.files) ∨
      ∃ error, answer = .error error ∧ after.files = world.files := by
  refine ((acted (FileSystem.removeFile path) replies nofun nofun).settled FileSystem.removeFile_error).imp_left ?_
  rintro ⟨_, rfl, ran⟩
  exact ⟨rfl, (FileSystem.removeFile_ok plain ran).2⟩

theorem Replies.removeDirectory {path : Path} {answer : Except HostError Unit} (plain : world.files.Plain)
    (below : path.locate world.files.home ≠ []) (replies : world.Replies (.removeDirectory path) answer after) :
    Shrinks (path.locate world.files.home <+: ·) world.files after.files ∧
      (answer = .ok () → path.Straight → world.files.Removes (path.locate world.files.home) after.files) := by
  have shrinks {outcome : Except OsError Unit}
    (ran : (FileSystem.removeDirectory path).run world.files = (outcome, after.files)) :
      Shrinks (path.locate world.files.home <+: ·) world.files after.files := by
    rcases FileSystem.removeDirectory_run plain below ran with ⟨same, -⟩ | ⟨found, clears⟩
    · exact .of_eq plain same
    · exact .of_clears found clears
  rcases acted_or_falters (FileSystem.removeDirectory path) replies nofun with acted | ⟨⟨error, rfl⟩, falters⟩
  · rcases acted with ran | ran | _
    · exact ⟨shrinks ran, fun _ straight => FileSystem.removeDirectory_ok plain below straight ran⟩
    · exact ⟨shrinks ran, nofun⟩
    · exact ⟨.refl plain, nofun⟩
  · cases falters with
    | removeDirectory found thins =>
      obtain ⟨rfl, -⟩ := FileSystem.status_sound plain found
      exact ⟨thins.shrinks plain, nofun⟩

/-! What it tells of what it finds. -/

theorem Replies.exists {path : Path} {answer : Bool} (replies : world.Replies (.exists path) answer after) :
    answer = world.files.exists? path ∧ after = world := by
  rcases replies with (done | ⟨cancelled, -⟩) | ⟨refused, -⟩
  · exact Prod.mk.inj done
  · cases cancelled
  · exact refused.elim

theorem Replies.isDirectory {path : Path} {answer : Bool} (replies : world.Replies (.isDirectory path) answer after) :
    answer = world.files.isDirectory path ∧ after = world := by
  rcases replies with (done | ⟨cancelled, -⟩) | ⟨refused, -⟩
  · exact Prod.mk.inj done
  · cases cancelled
  · exact refused.elim

theorem Replies.listed {path : Path} {answer : Except HostError (List Path)}
    (replies : world.Replies (.readDirectory path) answer after) :
    after = world ∧ ∀ children, answer = .ok children →
      ∃ names, world.files.readDirectory path = .ok names ∧ children = names.map (path / ·) := by
  rcases replies with (done | ⟨cancelled, -⟩) | ⟨⟨error, rfl⟩, rfl | ⟨files, falters, -⟩⟩
  · obtain ⟨rfl, rfl⟩ := Prod.mk.inj done
    refine ⟨rfl, fun children told => ?_⟩
    cases listed : after.files.readDirectory path with
    | error error =>
      rw [listed] at told
      cases told
    | ok names =>
      rw [listed] at told
      cases told
      exact ⟨names, rfl, rfl⟩
  · cases cancelled
  · exact ⟨rfl, nofun⟩
  · cases falters

theorem Replies.readDirectory {path : Path} {answer : Except HostError (List Path)} (plain : world.files.Plain)
    (replies : world.Replies (.readDirectory path) answer after) :
    after = world ∧ ∀ children, answer = .ok children →
    world.files.get? (path.locate world.files.home) = some .directory ∧
      children = (world.files.children (path.locate world.files.home)).map (path / ·) := by
  obtain ⟨same, told⟩ := replies.listed
  refine ⟨same, fun children answered => ?_⟩
  obtain ⟨names, listed, rfl⟩ := told children answered
  obtain ⟨found, rfl⟩ := FileSystem.readDirectory_ok plain listed
  exact ⟨found, rfl⟩

theorem Replies.canonicalize {path : Path} {answer : Except HostError Path}
    (replies : world.Replies (.canonicalize path) answer after) :
    after = world ∧ ∀ found, answer = .ok found → world.files.canonicalize path = .ok found := by
  rcases replies with (done | ⟨cancelled, -⟩) | ⟨⟨error, rfl⟩, rfl | ⟨files, falters, -⟩⟩
  · obtain ⟨rfl, rfl⟩ := Prod.mk.inj done
    refine ⟨rfl, fun found told => ?_⟩
    cases known : after.files.canonicalize path with
    | error error =>
      rw [known] at told
      cases told
    | ok canonical =>
      rw [known] at told
      cases told
      rfl
  · cases cancelled
  · exact ⟨rfl, nofun⟩
  · cases falters

theorem execute_perform (request : Request) (world : World) : (world.perform request).2.execute = world.execute := by
  cases request <;> rfl

theorem cancelled_perform (request : Request) (world : World) :
    (world.perform request).2.cancelled = world.cancelled := by
  cases request <;> rfl

theorem execute_run {α : Type} (program : Program α) (world : World) :
    (program.run World.perform world).2.execute = world.execute := by
  induction program generalizing world with
  | done => rfl
  | ask request next ih => exact (ih _ _).trans (execute_perform request world)

theorem cancelled_run {α : Type} (program : Program α) (world : World) :
    (program.run World.perform world).2.cancelled = world.cancelled := by
  induction program generalizing world with
  | done => rfl
  | ask request next ih => exact (ih _ _).trans (cancelled_perform request world)

/-- How a run ends, as far as that can be decided. -/
def Ended {α : Type} (program : Program α) (world : World) (value : α) (after : World) : Prop :=
  (program.run World.perform world).1 = value ∧ (program.run World.perform world).2.files = after.files ∧
    (program.run World.perform world).2.registry = after.registry ∧
    (program.run World.perform world).2.cancelled = after.cancelled

instance {α : Type} [DecidableEq α] (program : Program α) (world : World) (value : α) (after : World) :
    Decidable (Ended program world value after) :=
  inferInstanceAs (Decidable (_ ∧ _))

theorem Ended.run_eq {α : Type} {program : Program α} {world after : World} {value : α}
    (ended : Ended program world value after)
    (execute : after.execute = world.execute) : program.run World.perform world = (value, after) := by
  have same := execute_run program world
  unfold Ended at ended
  generalize program.run World.perform world = ending at *
  obtain ⟨told, files, registry, cancelled, kept⟩ := ending
  obtain ⟨rfl, rfl, rfl, rfl⟩ := ended
  cases after
  simp_all

end World

/-- The host carries requests out or fails to, and does nothing else. -/
def Rules.Orderly (rules : Rules World) : Prop :=
  ∀ request world answer after, rules.replies request world answer after → world.Replies request answer after

/-- Every request is carried out or fails, and waiting may end at any time. -/
def host : Rules World where
  replies request world answer after := world.Replies request answer after

theorem host_perform (request : Request) (world : World) :
    host.replies request world (world.perform request).1 (world.perform request).2 :=
  .inl (.inl rfl)

theorem orderly_host : host.Orderly :=
  fun _ _ _ _ => id

theorem orderly_requiring (permits : Request → World → Prop) : (host.requiring permits).Orderly :=
  fun _ _ _ _ => id

theorem Rules.Orderly.safe_of_host {α : Type} {rules : Rules World} (orderly : rules.Orderly)
    (ready : ∀ wanted now, rules.permits wanted now) {post : α → World → Prop} {program : Program α} {world : World}
    (safe : host.Safe post program world) : rules.Safe post program world := by
  induction program generalizing world with
  | done value => exact safe
  | ask request next ih =>
    exact ⟨ready request world, fun answer after replies => ih answer (safe.2 answer after (orderly _ _ _ _ replies))⟩

theorem Rules.Orderly.safe_of_tries {α ε : Type} {rules : Rules World} (orderly : rules.Orderly) {world : World}
    {made written : Location → Prop} {good : α → Prop} {work : Attempt ε α} (plain : world.files.Plain)
    (tries : Tries (OpenFile.LocatedAt world.files.home) (Request.Confined world.files.home made written) good work)
    (ready : ∀ wanted now, Changes made written world.files now.files → rules.permits wanted now) :
    rules.Safe (Ends (fun value after => good value ∧ Changes made written world.files after.files)
      fun _ after => Changes made written world.files after.files) work.run world := by
  refine (Safe.carry (fun now : World => Changes made written world.files now.files) tries (.refl plain)
    fun request now confined changes => ?_).weaken fun outcome after ended => ?_
  · refine ⟨ready request now changes, fun answer after replies => ?_⟩
    obtain ⟨more, honest⟩ := (orderly _ _ _ _ replies).changes changes.plain changes.home confined
    exact ⟨honest, changes.trans more⟩
  · cases outcome with
    | ok value => exact ended
    | error => exact ended.2

theorem Rules.Orderly.safe_further {α ε : Type} {rules : Rules World} (orderly : rules.Orderly)
    {files : FileSystem} {world : World} {made more written others : Location → Prop} {good : α → Prop}
    {work : Attempt ε α} (changes : Changes made written files world.files)
    (tries : Tries (OpenFile.LocatedAt files.home) (Request.Confined files.home more others) good work)
    (implies : ∀ location, more location → made location) (extends_ : ∀ location, others location → written location)
    (ready : ∀ wanted now, rules.permits wanted now) :
    rules.Safe (Ends (fun _ after => Changes made written files after.files) fun _ after =>
      Changes made written files after.files)
      work.run world := by
  rw [← changes.home] at tries
  refine (orderly.safe_of_tries changes.plain tries fun wanted now _ => ready wanted now).weaken
    fun outcome after ended =>
    ended.imp ?_ ?_
  · exact fun _ _ ⟨_, further⟩ => changes.trans (further.weaken implies extends_)
  · exact fun _ _ further => changes.trans (further.weaken implies extends_)

theorem Rules.Orderly.safe_of_silent {α ε : Type} {rules : Rules World} (orderly : rules.Orderly) {world : World}
    {made written : Location → Prop} {allowed : Request → Prop} {good : α → Prop} {work : Attempt ε α}
    (plain : world.files.Plain) (tries : Tries (OpenFile.LocatedAt world.files.home) allowed good work)
    (confined : ∀ wanted, allowed wanted → wanted.Confined world.files.home made written)
    (silent : ∀ wanted, allowed wanted → wanted.Silent) (ready : ∀ wanted now, rules.permits wanted now) :
    rules.Safe (Ends
      (fun value after => good value ∧ Changes made written world.files after.files ∧ after.registry = world.registry)
      fun _ after => Changes made written world.files after.files ∧
      after.registry = world.registry) work.run world := by
  refine (Safe.carry (fun now : World => Changes made written world.files now.files ∧
    now.registry = world.registry) tries
    ⟨.refl plain, rfl⟩ fun request now permitted ⟨changes, same⟩ => ?_).weaken fun outcome after ended => ?_
  · refine ⟨ready request now, fun answer after replies => ?_⟩
    obtain ⟨more, honest⟩ := (orderly _ _ _ _ replies).changes changes.plain changes.home (confined request permitted)
    exact ⟨honest, changes.trans more, ((orderly _ _ _ _ replies).registry (silent request permitted)).trans same⟩
  · cases outcome with
    | ok value => exact ended
    | error => exact ended.2

end WheelInstaller.Host
