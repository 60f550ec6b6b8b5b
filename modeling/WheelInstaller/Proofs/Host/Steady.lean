import WheelInstaller.Proofs.Host.World

/-! A steady host: it may fail in whatever it is asked for, but it can be certain to make a path canonical that can be
made so. Of a program that can fail, it is asserted what holds if it succeeds. -/

namespace WheelInstaller.Host

open Rules (Ends Safe)

variable {α β δ ε : Type} {world after : World}

/-- Requests are carried out or fail; but if `certain`, paths are made canonical whenever that is possible. -/
def steady (certain : Prop) : Rules World where
  replies request world answer after :=
    world.Replies request answer after ∧
    (certain → ∀ path, request = .canonicalize path → world.Serves request answer after)

theorem orderly_steady {certain : Prop} : (steady certain).Orderly :=
  fun _ _ _ _ replies => replies.1

theorem steady_perform (certain : Prop) (request : Request) (world : World) :
    (steady certain).replies request world (world.perform request).1 (world.perform request).2 :=
  ⟨.inl (.inl rfl), fun _ _ _ => .inl rfl⟩

/-- If the attempt succeeds, what it tells and what it leaves is good. -/
abbrev Yields (good : α → World → Prop) (work : Attempt ε α) (world : World) : Prop :=
  host.Safe (Ends good fun _ _ => True) work.run world

section Yielding

variable {good : β → World → Prop} {mid other : α → World → Prop}

theorem Yields.of_safe {bad : ε → World → Prop} {work : Attempt ε α} (safe : host.Safe (Ends mid bad) work.run world) :
    Yields mid work world :=
  safe.failing fun _ _ _ => trivial

theorem Yields.bind {work : Attempt ε α} {next : α → Attempt ε β} (yields : Yields mid work world)
    (further : ∀ value after, mid value after → Yields good (next value) after) : Yields good (work >>= next) world :=
  Safe.andThen yields further

theorem Yields.lift {program : Program α} (safe : host.Safe mid program world) :
    Yields mid (liftM program : ExceptT ε Program α) world :=
  Safe.lift safe

theorem Yields.wrapped {wrap : δ → ε} {work : Attempt δ α} (yields : Yields mid work world) :
    Yields mid (attemptAs wrap work) world :=
  Safe.wrapped yields

theorem Yields.settled {outcome : Except ε α} (ended : ∀ value, outcome = .ok value → mid value world) :
    Yields mid (settled outcome) world := by
  apply Safe.settled
  cases outcome with
  | ok value => exact ended value rfl
  | error => trivial

theorem Yields.weaken {work : Attempt ε α} (yields : Yields mid work world)
    (implies : ∀ value after, mid value after → other value after) : Yields other work world :=
  Safe.weaken yields fun _ _ ended => ended.imp (fun value _ => implies value _) fun _ _ _ => trivial

theorem Yields.and {work : Attempt ε α} (yields : Yields mid work world) (also : Yields other work world) :
    Yields (fun value after => mid value after ∧ other value after) work world := by
  refine (Safe.and yields also).weaken fun outcome after ended => ?_
  cases outcome with
  | ok => exact ended
  | error => trivial

end Yielding

namespace World

theorem Replies.createFile {path : Path} {answer : Except HostError OpenFile} (plain : world.files.Plain)
    (replies : world.Replies (.createFile path) answer after) :
    (∃ file, answer = .ok file ∧ file.location = path.locate world.files.home ∧
      world.files.Replaces (path.locate world.files.home)
      (world.files.modeAt (path.locate world.files.home)) .empty after.files) ∨
      ∃ error, answer = .error error ∧ after.files = world.files := by
  refine ((acted (openFile path) replies nofun nofun).settled (openFile_error plain)).imp_left ?_
  rintro ⟨file, rfl, ran⟩
  exact ⟨file, rfl, openFile_ok plain ran⟩

theorem Replies.append {file : OpenFile} {chunk : ByteArray} {mode : Nat} {content : ByteArray}
    {answer : Except HostError Unit}
    (plain : world.files.Plain) (found : world.files.get? file.location = some (.file mode content))
    (replies : world.Replies (.append file chunk) answer after) :
    (answer = .ok () ∧ world.files.Replaces file.location mode (content ++ chunk) after.files) ∨
      ∃ error part, answer = .error error ∧ part.data.toList <+: chunk.data.toList ∧
        world.files.Replaces file.location mode (content ++ part) after.files := by
  have appends {bytes : ByteArray} {files : FileSystem} {outcome : Except OsError Unit}
      (ran : (FileSystem.append file.location bytes).run world.files = (outcome, files)) :
      outcome = .ok () ∧ world.files.Replaces file.location mode (content ++ bytes) files := by
    obtain ⟨files, appended, replaces⟩ := FileSystem.append_file plain bytes found
    obtain ⟨rfl, rfl⟩ := Prod.mk.inj (appended.symm.trans ran)
    exact ⟨rfl, replaces⟩
  rcases acted_or_falters (FileSystem.append file.location chunk) replies nofun with acted | ⟨⟨error, rfl⟩, falters⟩
  · rcases acted with ran | ran | _
    · exact .inl ⟨rfl, (appends ran).2⟩
    · cases (appends ran).1
    · exact .inr ⟨_, .empty, rfl, List.nil_prefix, by simpa using FileSystem.Replaces.refl plain found⟩
  · cases falters with
    | append begun ran => exact .inr ⟨error, _, rfl, begun, (appends ran).2⟩

theorem Replies.setMode {path : Path} {mode old : Nat} {content : ByteArray} {answer : Except HostError Unit}
    (plain : world.files.Plain) (found : world.files.get? (path.locate world.files.home) = some (.file old content))
    (replies : world.Replies (.setMode path mode) answer after) :
    (answer = .ok () ∧ world.files.Replaces (path.locate world.files.home)
      (FileSystem.permissions mode) content after.files) ∨
      ∃ error, answer = .error error ∧ after.files = world.files := by
  refine ((acted (FileSystem.setMode path mode) replies nofun nofun).settled FileSystem.setMode_error).imp_left ?_
  rintro ⟨_, rfl, ran⟩
  rcases FileSystem.setMode_ok plain ran with ⟨directory, -⟩ | ⟨_, _, there, replaces⟩
  · cases found.symm.trans directory
  · cases found.symm.trans there
    exact ⟨rfl, replaces⟩

theorem Replies.copy {source target : Path} {answer : Except HostError Nat} (plain : world.files.Plain)
    (replies : world.Replies (.copy source target) answer after) :
    (∃ count mode content, answer = .ok count ∧
      world.files.status true source = .ok (source.locate world.files.home, .file mode content) ∧
      world.files.Replaces (target.locate world.files.home) mode
        (if target.locate world.files.home = source.locate world.files.home then .empty else content) after.files ∧
      target.hasTrailingSlash = false ∧ ∃ directory name, world.files.Anchored target directory name) ∨
      ∃ error, answer = .error error ∧ (after.files = world.files ∨
        (∃ mode content, world.files.status true source =
          .ok (source.locate world.files.home, .file mode content)) ∧ world.files.Writes target after.files) := by
  rcases acted_or_falters (FileSystem.copyFile source target) replies nofun with acted | ⟨⟨error, rfl⟩, falters⟩
  · refine (acted.settled (FileSystem.copyFile_error plain)).imp ?_ ?_
    · rintro ⟨count, rfl, ran⟩
      obtain ⟨mode, content, found, replaces⟩ := FileSystem.copyFile_ok plain ran
      exact ⟨count, mode, content, rfl, found, replaces, FileSystem.anchored_of_copyFile plain ran⟩
    · rintro ⟨error, rfl, same⟩
      exact ⟨error, rfl, .inl same⟩
  · generalize after.files = last at falters
    cases falters with
    | copy found _ ran =>
      obtain ⟨rfl, -⟩ := FileSystem.status_sound plain found
      exact .inr ⟨error, rfl, .inr ⟨⟨_, _, found⟩, FileSystem.writes_of_createFile plain ran⟩⟩

theorem Replies.write_anchored {path : Path} {content : ByteArray} (plain : world.files.Plain)
    (replies : world.Replies (.write path content) (.ok ()) after) :
    path.hasTrailingSlash = false ∧ ∃ directory name, world.files.Anchored path directory name := by
  rcases acted_or_falters (FileSystem.writeFile path content) replies nofun with acted | ⟨⟨error, failed⟩, -⟩
  · cases acted with
    | done ran => exact FileSystem.anchored_of_writeFile plain ran
  · cases failed

theorem Serves.canonicalize {path : Path} {answer : Except HostError Path}
    (serves : world.Serves (.canonicalize path) answer after) :
    after = world ∧ ∀ found, answer = .ok found ↔ world.files.canonicalize path = .ok found := by
  rcases serves with done | ⟨cancelled, -⟩
  · obtain ⟨rfl, rfl⟩ := Prod.mk.inj done
    refine ⟨rfl, fun found => ?_⟩
    cases after.files.canonicalize path with
    | ok => constructor <;> (rintro ⟨⟩; rfl)
    | error => constructor <;> nofun
  · cases cancelled

end World
end WheelInstaller.Host

/-! ### Requests that are not made

Programs that do without some requests. Where nothing is noted or forgotten, the same is noted at the end. -/

namespace WheelInstaller.Host

variable {α β δ ε : Type} {allowed : Request → Prop}

/-- Nothing is noted or forgotten, and no program is started. -/
def Request.Quiet : Request → Prop
  | .register _ | .release _ | .cleanUp | .commandOutput _ _ => False
  | _ => True

theorem Request.Reads.quiet {request : Request} (reads : request.Reads) : request.Quiet := by
  cases request <;> first | exact trivial | exact reads.elim

theorem Request.Quiet.silent {request : Request} (quiet : request.Quiet) : request.Silent := by
  cases request <;> first | exact trivial | exact quiet.elim

namespace Program

theorem Uses.imp {more : Request → Prop} {program : Program α} (uses : program.Uses allowed)
    (implies : ∀ request, allowed request → more request) : program.Uses more := by
  induction program with
  | done => trivial
  | ask request next ih => exact ⟨implies request uses.1, fun answer => ih answer (uses.2 answer)⟩

theorem Uses.bind {program : Program α} {next : α → Program β} (uses : program.Uses allowed)
    (further : ∀ value, (next value).Uses allowed) : (program >>= next).Uses allowed := by
  change (program.bind next).Uses allowed
  induction program with
  | done value => exact further value
  | ask request rest ih => exact ⟨uses.1, fun answer => ih answer (uses.2 answer)⟩

theorem Uses.andThen {first : Attempt ε α} {next : α → Attempt ε β} (uses : first.run.Uses allowed)
    (further : ∀ value, (next value).run.Uses allowed) : (first >>= next).run.Uses allowed := by
  change (ExceptT.bind first next).run.Uses allowed
  refine Uses.bind uses fun outcome => ?_
  cases outcome with
  | ok value => exact further value
  | error => trivial

theorem Uses.lift {program : Program α} (uses : program.Uses allowed) :
    (liftM program : ExceptT ε Program α).run.Uses allowed :=
  Uses.bind uses fun _ => trivial

theorem Uses.wrapped {wrap : δ → ε} {program : Program (Except δ α)} (uses : program.Uses allowed) :
    (attemptAs wrap program).run.Uses allowed :=
  Uses.bind uses fun _ => trivial

theorem uses_settled (outcome : Except ε α) : (settled outcome).run.Uses allowed := trivial

theorem uses_request {wanted : Request} (permitted : allowed wanted) : (request wanted).Uses allowed :=
  ⟨permitted, fun _ => trivial⟩

end Program

end WheelInstaller.Host
