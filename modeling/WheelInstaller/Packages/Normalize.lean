import WheelInstaller.Host.Program
import WheelInstaller.Packages.Initializer

/-! Giving initializers to the packages of a tree on a host. -/

namespace WheelInstaller.Packages

open Host

/-- What one look at a directory's content says: its listing, and the directories to look into. -/
structure Survey where
  listing : Listing := {}
  inner : List String := []

/-- Asks for the kind of every child of a directory. -/
def survey : Survey → List Path → Attempt HostError Survey
  | seen, [] => return seen
  | seen, child :: rest => do
    match child.fileName? with
    | none => survey seen rest
    | some name =>
      if ← isDirectory child then
        let inner := if isIgnored name then seen.inner else seen.inner ++ [name]
        survey { listing := seen.listing.addDirectory name, inner } rest
      else survey { seen with listing := seen.listing.addFile name } rest

/-- Reads a directory, given relative to the root, and those below it, the last one first. No path
is longer than `Path.longest`, and every level adds to it, which bounds the depth. -/
def scanFrom (root : Path) : (depth : Nat) → Path → Snapshot → Attempt HostError Snapshot
  | 0, _, snapshot => return snapshot
  | depth + 1, relative, snapshot => do
    let children ← attempt (readDirectory (root.join relative))
    let found ← survey {} children
    -- What was recorded of this directory before is replaced, not extended.
    let snapshot := snapshot.update relative fun _ => found.listing
    found.inner.reverse.foldlM
      (fun snapshot name => scanFrom root depth (relative / name) snapshot) snapshot

/-- The snapshot of the tree below a root. Ignored directories are listed, but not looked into. -/
def scan (root : Path) : Attempt HostError Snapshot :=
  scanFrom root 4096 ⟨""⟩ {}

/-- Writes empty files, and tells their paths. -/
def writeAll (root : Path) : List Path → Attempt HostError (List Path)
  | [] => return []
  | relative :: rest => do
    let path := root.join relative
    attempt (write path .empty)
    return path :: (← writeAll root rest)

/-- Gives an initializer to every package below a root that lacks one, and tells which. -/
def normalize (root : Path) (implicit : Bool) : Attempt HostError (List Path) := do
  if implicit then return []
  else
    let snapshot ← scan root
    writeAll root ((snapshot.plan? false).getD [])

end WheelInstaller.Packages
