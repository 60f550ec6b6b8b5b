import Std.Data.TreeMap
import WheelInstaller.FileSystem.Operation
import WheelInstaller.Text.Encoding

/-! What processes share: the files, the pipes between processes, and everything that is open. What is
open has a key and counts how many descriptors lead to it, because position and end belong to all of
them together. -/

namespace WheelInstaller.Process

inductive Stream where
  /-- Nothing to read, and what is written is gone. -/
  | nothing
  | zeros
  /-- Zeros to read, and no room to write. -/
  | crowded
  | file (location : Location)
  /-- A file that has no name any more. -/
  | nameless (number : Nat)
  | directory (location : Location)
  | pipe (number : Nat)
  /-- What the starter of the first process collects as output. -/
  | output
  /-- What the starter of the first process collects as complaints. -/
  | complaints
deriving DecidableEq, Repr

structure Opened where
  stream : Stream
  reads : Bool
  writes : Bool
  /-- Everything is written at the end. -/
  appends : Bool := false
  position : Nat := 0
  /-- How many descriptors lead here. -/
  holders : Nat := 1

/-- Bytes on the way between processes. Those before `start` were read already. -/
structure Pipe where
  buffer : ByteArray := .empty
  start : Nat := 0

namespace Pipe

/-- How many bytes wait to be read. -/
def size (pipe : Pipe) : Nat :=
  pipe.buffer.size - pipe.start

/-- How many bytes a pipe holds before writers have to wait. -/
def capacity : Nat := 65536

def put (pipe : Pipe) (bytes : ByteArray) : Pipe :=
  if pipe.start = pipe.buffer.size then ⟨bytes, 0⟩
  else { pipe with buffer := pipe.buffer ++ bytes }

def drop (pipe : Pipe) (count : Nat) : Pipe :=
  let start := pipe.start + count
  if start = pipe.buffer.size then {} else { pipe with start }

end Pipe

/-- Everything that processes share, apart from themselves. -/
structure Storage where
  files : FileSystem
  opened : Std.TreeMap Nat Opened := {}
  pipes : Std.TreeMap Nat Pipe := {}
  /-- Contents of files without a name. -/
  nameless : Std.TreeMap Nat ByteArray := {}
  /-- Places that hold one file under several names. -/
  shared : List (List Location) := []
  /-- When something was changed last, as far as that was since the start. -/
  stamps : List (Location × Nat) := []
  /-- The permissions of directories, where they are not the usual ones. -/
  modes : List (Location × Nat) := []
  /-- The next key. -/
  next : Nat := 0
  output : ByteArray := .empty
  complaints : ByteArray := .empty

inductive Purpose where
  | read
  /-- To be written anew. -/
  | replace
  | append
  /-- To be read and written as it is. -/
  | update
  /-- To be written, and it must not be there yet. -/
  | make
deriving DecidableEq, Repr

inductive Transfer (α : Type) where
  /-- It has to wait for other processes. -/
  | waits
  /-- Nobody will ever read what is written. -/
  | broken
  | failed (error : OsError)
  | done (value : α) (storage : Storage)

/-- Bytes written over others from a position on, with zeros in between if there is a gap. -/
def splice (content : ByteArray) (position : Nat) (bytes : ByteArray) : ByteArray :=
  if position = content.size then content ++ bytes
  else
    let gap := List.replicate (position - content.size) 0
    content.extract 0 position ++ ⟨gap.toArray⟩ ++ bytes ++
      content.extract (position + bytes.size) content.size

namespace Storage

/-- The file at a place goes under these places as well. -/
def namesOf (storage : Storage) (location : Location) : List Location :=
  (storage.shared.find? (·.contains location)).getD [location]

/-- The time of the start, in microseconds. -/
def startTime : Nat := 1767225600000000

/-- When something was changed last. -/
def stampOf (storage : Storage) (location : Location) : Nat :=
  ((storage.stamps.find? (·.1 = location)).map (·.2)).getD (startTime - 1000000)

/-- The storage in which something was changed at a time, under all its names. -/
def stamp (storage : Storage) (location : Location) (time : Nat) : Storage :=
  let names := storage.namesOf location
  let others := storage.stamps.filter fun (place, _) => !names.contains place
  { storage with stamps := names.map (fun place => (place, time)) ++ others }

def usualMode : Nat := 0o755

def modeOf (storage : Storage) (location : Location) : Nat :=
  ((storage.modes.find? (·.1 = location)).map (·.2)).getD usualMode

def setModeOf (storage : Storage) (location : Location) (mode : Nat) : Storage :=
  let others := storage.modes.filter (·.1 ≠ location)
  { storage with modes := if mode = usualMode then others else (location, mode) :: others }

/-- The storage that has forgotten what was known about a place. -/
def clearPlace (storage : Storage) (location : Location) : Storage :=
  { storage with
    stamps := storage.stamps.filter (·.1 ≠ location)
    modes := storage.modes.filter (·.1 ≠ location) }

/-- Changes a file under all its names. -/
def alterFile (storage : Storage) (location : Location)
    (change : Nat → ByteArray → Nat × ByteArray) : Storage :=
  let alterOne (files : FileSystem) (place : Location) : FileSystem :=
    files.alter place fun
      | some (.file mode content) =>
        let (mode, content) := change mode content
        some (.file mode content)
      | found => found
  { storage with files := (storage.namesOf location).foldl alterOne storage.files }

def contentAt (storage : Storage) (location : Location) : ByteArray :=
  match storage.files.top.find? location with
  | some (.file _ content) => content
  | _ => .empty

/-- The storage with something else open under a key. -/
def setOpened (storage : Storage) (key : Nat) (opened : Opened) : Storage :=
  { storage with opened := storage.opened.insert key opened }

def location? (storage : Storage) (key : Nat) : Option Location :=
  match storage.opened[key]? with
  | some { stream := .file location, .. } => some location
  | _ => none

def add (storage : Storage) (opened : Opened) : Nat × Storage :=
  (storage.next, { storage with
    opened := storage.opened.insert storage.next opened, next := storage.next + 1 })

/-- One more descriptor leads to a key. -/
def hold (storage : Storage) (key : Nat) : Storage :=
  { storage with
    opened := storage.opened.modify key fun opened =>
      { opened with holders := opened.holders + 1 } }

/-- One descriptor less leads to a key. What nothing leads to is closed. -/
def release (storage : Storage) (key : Nat) : Storage :=
  match storage.opened[key]? with
  | none => storage
  | some opened =>
    if 1 < opened.holders then
      storage.setOpened key { opened with holders := opened.holders - 1 }
    else
      let others := storage.opened.erase key
      let unused (stream : Stream) : Bool := others.all fun _ other => other.stream ≠ stream
      match opened.stream with
      | .pipe number =>
        { storage with
          opened := others
          pipes := if unused (.pipe number) then storage.pipes.erase number else storage.pipes }
      | .nameless number =>
        { storage with
          opened := others
          nameless :=
            if unused (.nameless number) then storage.nameless.erase number
            else storage.nameless }
      | _ => { storage with opened := others }

/-- Something open leads to a pipe, for writing or for reading. -/
def isAttended (storage : Storage) (number : Nat) (writes : Bool) : Bool :=
  storage.opened.any fun _ opened =>
    opened.stream = .pipe number && (if writes then opened.writes else opened.reads)

/-- Makes a pipe: the keys of its two ends. -/
def addPipe (storage : Storage) : Nat × Nat × Storage :=
  let number := storage.next
  let storage := { storage with
    pipes := storage.pipes.insert number {}, next := storage.next + 1 }
  let (reading, storage) := storage.add ⟨.pipe number, true, false, false, 0, 1⟩
  let (writing, storage) := storage.add ⟨.pipe number, false, true, false, 0, 1⟩
  (reading, writing, storage)

/-- At most `limit` bytes of some content from a position on, and none after the first byte that
stops. -/
def excerpt (content : ByteArray) (position limit : Nat) (stop : Option UInt8) : ByteArray :=
  let count := min limit (content.size - position)
  match stop with
  | none => content.extract position (position + count)
  | some byte => content.extract position (seek byte position count)
where
  /-- The position after the first such byte among so many. -/
  seek (byte : UInt8) (position : Nat) : (count : Nat) → Nat
    | 0 => position
    | count + 1 =>
      if h : position < content.size then
        if content[position] = byte then position + 1 else seek byte (position + 1) count
      else position

/-- Reads at most `limit` bytes, and none after the first byte that stops. -/
def read (storage : Storage) (key limit : Nat) (stop : Option UInt8) : Transfer ByteArray :=
  match storage.opened[key]? with
  | none => .failed .badDescriptor
  | some opened =>
    let fromContent (content : ByteArray) : Transfer ByteArray :=
      let bytes := excerpt content opened.position limit stop
      .done bytes
        (storage.setOpened key { opened with position := opened.position + bytes.size })
    if !opened.reads then .failed .badDescriptor
    else
      match opened.stream with
      | .nothing | .output | .complaints => .done .empty storage
      | .zeros | .crowded => .done ⟨(List.replicate limit 0).toArray⟩ storage
      | .directory _ => .failed .isDirectory
      | .file location => fromContent (storage.contentAt location)
      | .nameless number => fromContent (storage.nameless.getD number .empty)
      | .pipe number =>
        match storage.pipes[number]? with
        | none => .done .empty storage
        | some pipe =>
          if pipe.size = 0 then
            if storage.isAttended number true then .waits else .done .empty storage
          else
            let bytes := excerpt pipe.buffer pipe.start limit stop
            .done bytes
              { storage with pipes := storage.pipes.insert number (pipe.drop bytes.size) }

def write (storage : Storage) (key : Nat) (bytes : ByteArray) : Transfer Unit :=
  match storage.opened[key]? with
  | none => .failed .badDescriptor
  | some opened =>
    if !opened.writes then .failed .badDescriptor
    else
      match opened.stream with
      | .nothing | .zeros | .directory _ => .done () storage
      | .crowded => .failed .noSpace
      | .output => .done () { storage with output := storage.output ++ bytes }
      | .complaints => .done () { storage with complaints := storage.complaints ++ bytes }
      | .file location =>
        let position :=
          if opened.appends then (storage.contentAt location).size else opened.position
        let storage := storage.setOpened key { opened with position := position + bytes.size }
        .done () (storage.alterFile location fun mode content =>
          (mode, splice content position bytes))
      | .nameless number =>
        let content := storage.nameless.getD number .empty
        let position := if opened.appends then content.size else opened.position
        let storage := storage.setOpened key { opened with position := position + bytes.size }
        .done () { storage with
          nameless := storage.nameless.insert number (splice content position bytes) }
      | .pipe number =>
        if !storage.isAttended number false then .broken
        else
          let waiting := ((storage.pipes[number]?).map Pipe.size).getD 0
          if Pipe.capacity ≤ waiting then .waits
          else
            .done () { storage with pipes := storage.pipes.modify number (·.put bytes) }

/-- The streams of files at or below a place lead elsewhere. -/
def redirectStreams (storage : Storage) (change : Location → Option Stream) : Storage :=
  { storage with
    opened := storage.opened.map fun _ opened =>
      match opened.stream with
      | .file location => { opened with stream := (change location).getD opened.stream }
      | _ => opened }

/-- What the name at a place stood for gets along without it, because the name is taken away: open
files go by another of their names, or have none any more. -/
def forget (storage : Storage) (location : Location) : Storage :=
  let isOpen := storage.opened.any fun _ opened => opened.stream = .file location
  let others := (storage.namesOf location).filter (· ≠ location)
  let storage := { storage.clearPlace location with
    shared := storage.shared.map fun names => names.filter (· ≠ location) }
  match isOpen, others with
  | false, _ => storage
  | true, other :: _ =>
    storage.redirectStreams fun place => if place = location then some (.file other) else none
  | true, [] =>
    let content := storage.contentAt location
    let number := storage.next
    let storage := { storage with
      nameless := storage.nameless.insert number content, next := number + 1 }
    storage.redirectStreams fun place =>
      if place = location then some (.nameless number) else none

/-- A place after everything at or below another place was moved. -/
def moved (old new location : Location) : Location :=
  if old.isPrefixOf location then new ++ location.drop old.length else location

/-- What lies at or below a place goes by its new one. -/
def follow (storage : Storage) (old new : Location) : Storage :=
  let follows (known : List (Location × Nat)) : List (Location × Nat) :=
    known.map fun (place, value) => (moved old new place, value)
  let storage := { storage with
    shared := storage.shared.map fun (names : List Location) => names.map (moved old new)
    stamps := follows storage.stamps
    modes := follows storage.modes }
  storage.redirectStreams fun place =>
    if old.isPrefixOf place then some (.file (moved old new place)) else none

/-- Carries out an operation on the files, as seen from a directory. -/
def act {α : Type} (storage : Storage) (home : Location) (action : FileSystem.Action α) :
    Except OsError α × Storage :=
  let kept := storage.files.home
  match action.run { storage.files with home } with
  | (outcome, files) => (outcome, { storage with files := { files with home := kept } })

def view (storage : Storage) (home : Location) : FileSystem :=
  { storage.files with home }

def openToRead (storage : Storage) (home : Location) (path : Path) : Except OsError Opened := do
  match ← (storage.view home).status true path with
  | (location, .directory) => return { stream := .directory location, reads := true, writes := false }
  | (location, _) => return { stream := .file location, reads := true, writes := false }

/-- Opens the file at a path for a purpose; `mode` is for a new file. -/
def openPath (storage : Storage) (home : Location) (mode : Nat) (purpose : Purpose) (path : Path) :
    Except OsError Opened × Storage :=
  let writing (empties appends reads : Bool) : Except OsError Opened × Storage :=
    let (outcome, changed) := storage.act home (FileSystem.openToWrite mode empties path)
    match outcome with
    | .error error => (.error error, changed)
    | .ok location =>
      let changed :=
        if empties then changed.alterFile location fun kept _ => (kept, .empty) else changed
      (.ok { stream := .file location, reads, writes := true, appends }, changed)
  match purpose with
  | .read => (storage.openToRead home path, storage)
  | .replace => writing true false false
  | .append => writing false true false
  | .update => writing false false true
  | .make =>
    match (storage.view home).status false path with
    | .ok _ => (.error .alreadyExists, storage)
    | .error _ => writing true false false

/-- Takes away a file or a link. -/
def unlink (storage : Storage) (home : Location) (path : Path) : Except OsError Unit × Storage :=
  let old := (storage.view home).status false path
  match (FileSystem.removeFile path).run (storage.view home) with
  | (.error error, _) => (.error error, storage)
  | (.ok (), _) =>
    let storage := match old with
      | .ok (location, _) => storage.forget location
      | .error _ => storage
    storage.act home (FileSystem.removeFile path)

/-- Moves something. -/
def rename (storage : Storage) (home : Location) (source target : Path) :
    Except OsError (Option (Location × Location)) × Storage :=
  let view := storage.view home
  match (FileSystem.rename source target).run view with
  | (.error error, _) => (.error error, storage)
  | (.ok (), _) =>
    match view.status false source, view.spot target with
    | .ok (old, _), .ok ⟨directory, .name name, _, _⟩ =>
      let new := directory ++ [name]
      if old = new then (.ok none, storage)
      else if (storage.namesOf old).contains new then (.ok none, storage)
      else
        let (_, storage) := (storage.forget new).act home (FileSystem.rename source target)
        (.ok (some (old, new)), storage.follow old new)
    | _, _ => (.ok none, storage)

/-- Gives a file another name. -/
def link (storage : Storage) (home : Location) (source target : Path) :
    Except OsError Unit × Storage :=
  let view := storage.view home
  match view.status false source with
  | .error error => (.error error, storage)
  | .ok (_, .directory) => (.error .notPermitted, storage)
  | .ok (_, .link destination) => storage.act home (FileSystem.makeLink target destination)
  | .ok (old, .file mode content) =>
    match view.spot target with
    | .error error => (.error error, storage)
    | .ok ⟨directory, .name name, slash, _⟩ =>
      let new := directory ++ [name]
      match view.nodeIn directory name with
      | .error error => (.error error, storage)
      | .ok (some _) => (.error .alreadyExists, storage)
      | .ok none =>
        if slash then (.error .notFound, storage)
        else
          let names := storage.namesOf old
          (.ok (), { storage with
            files := storage.files.put new (.file mode content)
            shared := (new :: names) :: storage.shared.filter (· ≠ names) })
    | .ok _ => (.error .alreadyExists, storage)

end Storage
end WheelInstaller.Process
