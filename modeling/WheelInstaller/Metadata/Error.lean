import WheelInstaller.Text.Quoted

/-! What can be wrong with the metadata that a wheel carries. -/

namespace WheelInstaller

/-- A flaw in a metadata file, at one of its lines. -/
inductive Flaw where
  | continuationFirst
  | noHeaderColon
  | emptyHeaderName
  | missingHeader (name : String)
  | unterminatedGroup (line : String)
  | emptyGroup
  | outsideGroup
  | noEqualsSign (line : String)
  | emptyName
  | duplicateName (name : String)
  | noValue (name : String)
  | unterminatedExtras (value : String)
  | noAttribute (value : String)
  | invalidModule (name : String)
  | invalidAttribute (name : String)
deriving DecidableEq, Repr

def Flaw.reason : Flaw → String
  | .continuationFirst => "continuation line before any header"
  | .noHeaderColon => "expected 'Key: value'"
  | .emptyHeaderName => "empty header name"
  | .missingHeader name => s!"missing {name} header"
  | .unterminatedGroup line => s!"unterminated group header {Text.quote line}"
  | .emptyGroup => "empty group name"
  | .outsideGroup => "declaration outside of a group"
  | .noEqualsSign line => s!"expected 'name = value', got {Text.quote line}"
  | .emptyName => "empty entry point name"
  | .duplicateName name => s!"duplicate entry point {Text.quote name}"
  | .noValue name => s!"entry point {Text.quote name} has no value"
  | .unterminatedExtras value => s!"unterminated extras in {Text.quote value}"
  | .noAttribute value => s!"expected 'module:attribute', got {Text.quote value}"
  | .invalidModule name => s!"invalid module name {Text.quote name}"
  | .invalidAttribute name => s!"invalid attribute {Text.quote name}"

/-- A flaw and the line it is on, counted from one; line zero is the file as a whole. -/
structure LineFlaw where
  line : Nat
  flaw : Flaw
deriving DecidableEq, Repr

/-- Why metadata cannot be read from a wheel. -/
inductive MetadataError where
  | missing (member : String)
  | malformed (member : String) (found : LineFlaw)
deriving DecidableEq, Repr

def MetadataError.message : MetadataError → String
  | .missing member => s!"required metadata member {member} is missing"
  | .malformed member found => s!"{member}:{found.line}: {found.flaw.reason}"

end WheelInstaller
