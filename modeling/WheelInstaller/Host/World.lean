import WheelInstaller.Host.Program
import WheelInstaller.Registry

/-! The plain host: every request is carried out on the file system. What other programs do is no part of it. -/

namespace WheelInstaller.Host

/-- What requests look at and change. -/
structure World where
  files : FileSystem := {}
  registry : Registry := {}
  /-- The caller has stopped waiting. -/
  cancelled : Bool := false
  /-- What a program answers to its arguments, and the files after it. There need not be any programs. -/
  execute : FileSystem → String → List String → Except CommandError String × FileSystem :=
    fun files program _ => (.error (.notStarted program .notFound), files)

namespace World

/-- The world after an operation on its files, and the answer, with refusals as told. -/
def act {α : Type} (world : World) (operation : Operation) (action : FileSystem.Action α) :
    Except HostError α × World :=
  let (outcome, files) := action.run world.files
  (outcome.mapError (.refused operation), { world with files })

def perform : (request : Request) → World → request.Answer × World
  | .readFile path, world => (world.files.readFile path, world)
  | .exists path, world => (world.files.exists? path, world)
  | .isDirectory path, world => (world.files.isDirectory path, world)
  | .readDirectory path, world =>
    (((world.files.readDirectory path).map fun names => names.map (path / ·)).mapError
      (.refused (.readDirectory path)), world)
  | .canonicalize path, world =>
    ((world.files.canonicalize path).mapError (.refused (.canonicalize path)), world)
  | .write path content, world => world.act (.write path) (FileSystem.writeFile path content)
  | .rename source target, world =>
    world.act (.rename source target) (FileSystem.rename source target)
  | .copy source target, world =>
    world.act (.copy source target) (FileSystem.copyFile source target)
  | .createDirectories path, world =>
    world.act (.createDirectories path) (FileSystem.makeDirectories path)
  | .removeFile path, world => world.act (.removeFile path) (FileSystem.removeFile path)
  | .removeDirectory path, world =>
    world.act (.removeDirectory path) (FileSystem.removeDirectory path)
  | .createFile path, world =>
    world.act (.createFile path) do return ⟨path, ← FileSystem.createFile path⟩
  | .append file chunk, world =>
    world.act (.write file.path) (FileSystem.append file.location chunk)
  | .flush _, world => (.ok (), world)
  | .setMode path mode, world => world.act (.setMode path) (FileSystem.setMode path mode)
  | .commandOutput program arguments, world =>
    let (outcome, files) := world.execute world.files program arguments
    (outcome.mapError .command, { world with files })
  | .isCancelled, world => (world.cancelled, world)
  | .register path, world => ((), { world with registry := world.registry.add path })
  | .release path, world => ((), { world with registry := world.registry.remove path })
  | .cleanUp, world =>
    let (count, files) := world.registry.cleanUp world.files
    (count, { world with files, registry := {} })

end World
end WheelInstaller.Host
