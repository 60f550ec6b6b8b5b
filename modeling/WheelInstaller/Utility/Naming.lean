import WheelInstaller.Utility.Options

/-! The parts of paths, as they are written. -/

namespace WheelInstaller.Utility.Naming

def lastStep (path : Raw) : Raw :=
  let trimmed := Raw.dropEndWhile (· = '/') path
  if trimmed.isEmpty then path.take 1
  else (trimmed.reverse.takeWhile (· ≠ '/')).reverse

def before (path : Raw) : Raw :=
  let trimmed := path.reverse.dropWhile (· = '/')
  if trimmed.isEmpty then if path.isEmpty then ['.'] else ['/']
  else
    match trimmed.dropWhile (· ≠ '/') with
    | [] => ['.']
    | above =>
      let above := above.dropWhile (· = '/')
      if above.isEmpty then ['/'] else above.reverse

def under (directory name : Raw) : Raw :=
  match Raw.dropEndWhile (· = '/') directory with
  | [] => if directory.isEmpty then name else '/' :: name
  | steps => steps ++ '/' :: name

/-- The paths of the directories above a path, from the top down. -/
def ancestors (path : Raw) : List Raw :=
  let rec go (past : Raw) (found : List Raw) : Raw → List Raw
    | [] => found.reverse
    | '/' :: rest =>
      let next := rest.dropWhile (· = '/')
      let isStep := !past.isEmpty && past.head? ≠ some '/' && !next.isEmpty
      go ('/' :: past) (if isStep then past.reverse :: found else found) rest
    | c :: rest => go (c :: past) found rest
  go [] [] path

/-- The path without slashes at its end. -/
def trimmed (path : Raw) : Raw :=
  match Raw.dropEndWhile (· = '/') path with
  | [] => path.take 1
  | steps => steps

/-- The last step of a path without an ending, unless that is all of it. -/
def withoutEnding (path ending : Raw) : Raw :=
  let name := lastStep path
  if name.head? ≠ some '/' && ending.isSuffixOf name && ending ≠ name then
    name.take (name.length - ending.length)
  else name

structure Settings where
  /-- All operands are paths. -/
  many : Bool := false
  ending : Raw := []
  /-- What is printed after a name. -/
  separator : Char := '\n'

def take (settings : Settings) (key : String) (value : Raw) : Utility Settings := do
  match key with
  | "a" => return { settings with many := true }
  | "s" => return { settings with many := true, ending := value }
  | _ => return { settings with separator := '\x00' }

def last (arguments : List Raw) : Utility Unit := do
  let options : Options := {
    letters := [('a', .plain), ('s', .valued), ('z', .plain)]
    words := [("multiple", .plain, "a"), ("suffix", .valued, "s"), ("zero", .plain, "z")]
    strict := true }
  let (settings, operands) ← readOptions options 1 {} take arguments
  let present (path ending : Raw) : Utility Unit :=
    print (withoutEnding path ending ++ [settings.separator])
  if settings.many && !operands.isEmpty then
    operands.forM fun path => present path settings.ending
  else
    match operands with
    | [] => misuse 1 "missing operand".toList
    | [path] => present path []
    | [path, ending] => present path ending
    | _ :: _ :: extra :: _ => misuse 1 ("extra operand ".toList ++ quoteWord extra)

def directory (arguments : List Raw) : Utility Unit := do
  let options : Options := {
    letters := [('z', .plain)], words := [("zero", .plain, "z")], strict := true }
  let (settings, operands) ← readOptions options 1 {} take arguments
  if operands.isEmpty then misuse 1 "missing operand".toList
  operands.forM fun path => print (before path ++ [settings.separator])

end WheelInstaller.Utility.Naming

/-! Where things go that are copied, moved or linked: into a directory under their own names, or to one
path. -/

namespace WheelInstaller.Utility

open Process

/-- What the options say about where things go. -/
structure Aim where
  directory : Option Raw := none
  /-- The last operand is the path itself, even if a directory is there. -/
  isExact : Bool := false

inductive Destination where
  | into (directory : Raw)
  | exactly (path : Raw)
deriving DecidableEq, Repr

namespace Destination

/-- Why a path does not lead to a directory. -/
def refusal? (path : Raw) (follow : Bool) : Utility (Option OsError) := do
  match ← statusOf path follow with
  | .ok status => return if status.kind = .directory then none else some .notDirectory
  | .error error => return some error

/-- The path of something that goes into a directory under its own name. -/
def inside (place source : Raw) : Raw :=
  Naming.under place (Naming.lastStep source)

/-- The operands that go somewhere, and where. -/
def choose (aim : Aim) (operands : List Raw) : Utility (List Raw × Destination) := do
  match operands, aim.directory with
  | [], _ => misuse 1 "missing file operand".toList
  | [single], none =>
    misuse 1 ("missing destination file operand after ".toList ++ quoteName single)
  | operands, some place =>
    if aim.isExact then
      die 1 "cannot combine --target-directory (-t) and --no-target-directory (-T)".toList
    match ← refusal? place true with
    | none => return (operands, .into place)
    | some error => die 1 (because ("target directory ".toList ++ quoteName place) error)
  | first :: last :: rest, none =>
    match aim.isExact, rest with
    | true, [] => return ([first], .exactly last)
    | true, extra :: _ => misuse 1 ("extra operand ".toList ++ quoteName extra)
    | false, rest =>
      let last := rest.getLastD last
      let others := (first :: operands.tail).dropLast
      match ← refusal? last true with
      | none => return (others, .into last)
      | some error =>
        if rest.isEmpty then return ([first], .exactly last)
        else die 1 (because ("target ".toList ++ quoteName last) error)

/-- Two paths lead to the same entry of the same directory. -/
def isSameEntry (first second : Raw) : Utility Bool := do
  if Naming.lastStep first ≠ Naming.lastStep second then return false
  else
    match ← statusOf (Naming.before first) true, ← statusOf (Naming.before second) true with
    | .ok here, .ok there => return here.identity = there.identity
    | _, _ => return false

/-- An entry of a directory that was seen before, by its path and what it was. -/
abbrev Seen := List (Raw × Stream)

/-- An entry was seen before. -/
def isSeen (path : Raw) (identity : Stream) : Seen → Utility Bool
  | [] => return false
  | (other, stream) :: rest => do
    if stream = identity && (← isSameEntry path other) then return true
    else isSeen path identity rest

end Destination
end WheelInstaller.Utility
