import WheelInstaller.FileSystem.Error
import WheelInstaller.FileSystem.Operation
import WheelInstaller.Text.Encoding

/-! Files that can be run: programs themselves, and scripts that name their interpreter. -/

namespace WheelInstaller.Process

/-- What a file that is to be run turns out to be. -/
inductive Image where
  | program (name : String)
  /-- A script, with its interpreter and an argument for that. -/
  | script (interpreter : Raw) (argument : Option Raw)
deriving DecidableEq, Repr

namespace Image

/-- How the files of programs start. -/
def mark : Raw := ['\x7f', 'E', 'L', 'F']

def content (name : String) : ByteArray :=
  Raw.toBytes (mark ++ Raw.ofString name)

/-- How much of a file is looked at to find its interpreter. -/
def headSize : Nat := 256

/-- The interpreter of a script from the text after its mark, and its argument if there is one. Only
blanks are taken off, and everything after the interpreter is one argument. Without an end of the
line, an empty name leads to the current directory, and one that may go on leads nowhere. -/
def ofLine (text : Raw) (isWhole : Bool) : Except OsError Image :=
  let isBlank (c : Char) : Bool := c = ' ' || c = '\t'
  let ended := text.contains '\n'
  let cutOff := !ended && !isWhole
  let line := if cutOff then text.dropLast else text.takeWhile (· ≠ '\n')
  let line := line.dropWhile isBlank
  let program := line.takeWhile fun c => !isBlank c
  let argument := Raw.dropEndWhile isBlank ((line.drop program.length).dropWhile isBlank)
  if program.isEmpty then .error (if ended || cutOff then .notExecutable else .accessDenied)
  else if cutOff && program = line then .error .notExecutable
  else .ok (.script program (if argument.isEmpty then none else some argument))

def read (content : ByteArray) : Except OsError Image :=
  match Raw.ofBytes (content.extract 0 headSize) with
  | '#' :: '!' :: text => ofLine text (content.size < headSize)
  | text =>
    if mark.isPrefixOf text then .ok (.program (Raw.toString (text.drop mark.length)))
    else .error .notExecutable

/-- How many scripts may be each other's interpreters. -/
def interpreterLimit : Nat := 5

/-- A file that may be run. -/
def isExecutable (mode : Nat) : Bool :=
  mode &&& 0o111 ≠ 0

end Image
end WheelInstaller.Process

/-! The files that every host has: its programs, and the directories around them. -/

namespace WheelInstaller.Process

/-- The devices, which are files only as far as their names go. -/
def devices : List String :=
  ["full", "null", "stderr", "stdin", "stdout", "tty", "zero"]

def standardFiles (programs : List String) : FileSystem where
  top := .directory [
    ("usr", .directory [("bin", .directory (programs.map fun name =>
      (name, .file 0o755 (Image.content name))))]),
    ("bin", .link ⟨"usr/bin"⟩),
    ("dev", .directory (devices.map fun name => (name, .file 0o666 .empty))),
    ("etc", .directory []),
    ("root", .directory []),
    ("tmp", .directory []),
    ("scratch", .directory [])]
  home := ["scratch"]

end WheelInstaller.Process
