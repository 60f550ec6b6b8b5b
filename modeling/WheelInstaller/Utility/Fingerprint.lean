import WheelInstaller.Bytes.Digest
import WheelInstaller.Utility.Options

/-! `md5sum`, `sha1sum`, `sha224sum`, `sha256sum`, `sha384sum` and `sha512sum`: digests of files, and
lists of digests that are checked. -/

namespace WheelInstaller.Utility.Fingerprint

open Bytes (Digest)
open Process

def label : Digest → Raw
  | .md5 => "MD5".toList
  | .sha1 => "SHA1".toList
  | .sha224 => "SHA224".toList
  | .sha256 => "SHA256".toList
  | .sha384 => "SHA384".toList
  | .sha512 => "SHA512".toList

/-- How much is told about a check. -/
inductive Detail where
  | usual
  | quiet
  | silent
  | full
deriving DecidableEq, Repr

structure Settings where
  isBinary : Option Bool := none
  checks : Bool := false
  hasTags : Bool := false
  lineEnd : Char := '\n'
  detail : Detail := .usual
  passesMissing : Bool := false
  isStrict : Bool := false

def options : Options where
  letters := Options.plainLetters "bctwz"
  words := [
    ("binary", .plain, "b"), ("check", .plain, "c"), ("ignore-missing", .plain, "missing"),
    ("quiet", .plain, "quiet"), ("status", .plain, "status"), ("strict", .plain, "strict"),
    ("tag", .plain, "tag"), ("text", .plain, "t"), ("warn", .plain, "w"), ("zero", .plain, "z")]

def Settings.take (settings : Settings) (key : String) (_value : Raw) : Utility Settings :=
  return match key with
  | "b" => { settings with isBinary := some true }
  | "t" => { settings with isBinary := some false }
  | "c" => { settings with checks := true }
  | "w" => { settings with detail := .full }
  | "z" => { settings with lineEnd := '\x00' }
  | "quiet" => { settings with detail := .quiet }
  | "status" => { settings with detail := .silent }
  | "strict" => { settings with isStrict := true }
  | "missing" => { settings with passesMissing := true }
  | _ => { settings with hasTags := true, isBinary := some true }

def Settings.fault? (settings : Settings) : Option String :=
  let only (name : String) : String :=
    "the --" ++ name ++ " option is meaningful only when verifying checksums"
  if settings.hasTags && settings.isBinary = some false then
    some "--tag does not support --text mode"
  else if settings.checks then
    if settings.lineEnd ≠ '\n' then
      some "the --zero option is not supported when verifying checksums"
    else if settings.hasTags then
      some "the --tag option is meaningless when verifying checksums"
    else if settings.isBinary.isSome then
      some "the --binary and --text options are meaningless when verifying checksums"
    else none
  else if settings.passesMissing then some (only "ignore-missing")
  else
    match settings.detail with
    | .silent => some (only "status")
    | .full => some (only "warn")
    | .quiet => some (only "quiet")
    | .usual => if settings.isStrict then some (only "strict") else none

def hexadecimal (bytes : ByteArray) : Raw :=
  bytes.toList.flatMap fun byte =>
    [Nat.digitChar (byte.toNat / 16), Nat.digitChar (byte.toNat % 16)]

def isAwkward (name : Raw) : Bool :=
  name.any fun c => c = '\\' || c = '\n' || c = '\r'

def onOneLine (name : Raw) : Raw :=
  name.flatMap fun
    | '\\' => ['\\', '\\']
    | '\n' => ['\\', 'n']
    | '\r' => ['\\', 'r']
    | c => [c]

def ofOneLine : Raw → Option Raw
  | [] => some []
  | '\\' :: c :: rest => do
    let original ← match c with
      | '\\' => some '\\'
      | 'n' => some '\n'
      | 'r' => some '\r'
      | _ => none
    return original :: (← ofOneLine rest)
  | ['\\'] => none
  | '\x00' :: _ => none
  | c :: rest => do return c :: (← ofOneLine rest)

def Settings.line (settings : Settings) (digest : Digest) (name value : Raw) : Raw :=
  let isAwkward := settings.lineEnd = '\n' && isAwkward name
  let shown := if isAwkward then onOneLine name else name
  let start := if isAwkward then ['\\'] else []
  let rest :=
    if settings.hasTags then label digest ++ " (".toList ++ shown ++ ") = ".toList ++ value
    else value ++ [' ', if settings.isBinary = some true then '*' else ' '] ++ shown
  start ++ rest ++ [settings.lineEnd]

def readFile (name : Raw) : Utility (Except OsError ByteArray) := do
  if name = ['-'] then readAll input
  else
    match ← openFile name with
    | .error error => return .error error
    | .ok descriptor =>
      let outcome ← readAll descriptor
      close descriptor
      return outcome

/-- Prints a line, which is handed over at once. -/
def announce (line : Raw) : Utility Unit := do
  print line
  flush

/-- Ends the program. Lines that could not be handed over leave no reason. -/
def settle : Utility Unit := do
  if (← state).failure.isSome then
    alter fun state => { state with failure := none }
    die 1 "write error".toList

def tell (settings : Settings) (digest : Digest) (name : Raw) : Utility Unit := do
  match ← readFile name with
  | .error error => fault (because (showName name) error)
  | .ok bytes => announce (settings.line digest name (hexadecimal (digest.ofBytes bytes)))

/-- What a line of a list says. -/
structure Claim where
  name : Raw
  value : Raw

/-- White space within a line. -/
def isBlank (c : Char) : Bool :=
  c = ' ' || c = '\t'

def isValue (digest : Digest) (text : Raw) : Bool :=
  text.length = 2 * digest.size &&
    text.all fun c => c.isDigit || ('a' ≤ c.toLower && c.toLower ≤ 'f')

/-- Reads a line with a label, behind the opening parenthesis. -/
def readLabelled (digest : Digest) (unfold : Raw → Option Raw) (text : Raw) : Option Claim := do
  let behind := text.reverse.takeWhile (· ≠ ')')
  if behind.length = text.length then none
  else
    let name ← unfold (text.take (text.length - behind.length - 1))
    match behind.reverse.dropWhile isBlank with
    | '=' :: rest =>
      let value := rest.dropWhile isBlank
      if isValue digest value then some { name, value } else none
    | _ => none

/-- Reads a line. Once there was a line with a single blank, all lines are taken for such lines; once
there was one with two, no line is. -/
def readClaim (digest : Digest) (isSingle : Option Bool) (line : Raw) :
    Option Claim × Option Bool :=
  let line := line.dropWhile isBlank
  let (isAwkward, line) : Bool × Raw := match line with
    | '\\' :: rest => (true, rest)
    | line => (false, line)
  let unfold (name : Raw) : Option Raw := if isAwkward then ofOneLine name else some name
  if (label digest).isPrefixOf line then
    let rest := line.drop (label digest).length
    let rest := if rest.head? = some ' ' then rest.tail else rest
    match rest with
    | '(' :: rest => (readLabelled digest unfold rest, isSingle)
    | _ => (none, isSingle)
  else
    let value := line.take (2 * digest.size)
    let claim (name : Raw) : Option Claim := (unfold name).map fun name => { name, value }
    match line.drop (2 * digest.size) with
    | c :: second :: rest =>
      if !isBlank c || !isValue digest value then (none, isSingle)
      else if rest.isEmpty || (second ≠ ' ' && second ≠ '*') then
        if isSingle = some false then (none, isSingle)
        else (claim (second :: rest), some true)
      else if isSingle = some true then (claim (second :: rest), isSingle)
      else (claim rest, some false)
    | _ => (none, isSingle)

/-- What came out of a check so far. -/
structure Tally where
  isSingle : Option Bool := none
  hasClaims : Bool := false
  hasMatches : Bool := false
  malformed : Nat := 0
  unread : Nat := 0
  different : Nat := 0

def checkClaim (settings : Settings) (digest : Digest) (tally : Tally) (claim : Claim) :
    Utility Tally := do
  let tally := { tally with hasClaims := true }
  let tell (verdict : String) : Utility Unit := do
    if settings.detail ≠ .silent then
      let start := if isAwkward claim.name then ['\\'] else []
      let name := if isAwkward claim.name then onOneLine claim.name else claim.name
      announce (start ++ name ++ verdict.toList ++ ['\n'])
  match ← readFile claim.name with
  | .error error =>
    if settings.passesMissing && error = .notFound then return tally
    else
      complain (because (showName claim.name) error)
      tell ": FAILED open or read"
      return { tally with unread := tally.unread + 1 }
  | .ok bytes =>
    if hexadecimal (digest.ofBytes bytes) = claim.value.map Char.toLower then
      if settings.detail ≠ .quiet then tell ": OK"
      return { tally with hasMatches := true }
    else
      tell ": FAILED"
      return { tally with different := tally.different + 1 }

def checkLines (settings : Settings) (digest : Digest) (list : Raw) :
    (number : Nat) → List Raw → Tally → Utility Tally
  | _, [], tally => return tally
  | number, line :: rest, tally => do
    let line := if line.getLast? = some '\r' then line.dropLast else line
    if line.isEmpty || line.head? = some '#' then
      checkLines settings digest list (number + 1) rest tally
    else
      let (claim?, isSingle) := readClaim digest tally.isSingle line
      let tally := { tally with isSingle }
      let isInput : Bool := list == ['-']
      let claim? := claim?.filter fun claim => !(isInput && claim.name = ['-'])
      let tally ← match claim? with
        | some claim => checkClaim settings digest tally claim
        | none =>
          if settings.detail = .full then
            complain (shownList list ++ ": ".toList ++ Raw.ofNat number ++
              ": improperly formatted ".toList ++ label digest ++ " checksum line".toList)
          pure { tally with malformed := tally.malformed + 1 }
      checkLines settings digest list (number + 1) rest tally
where
  /-- The name of a list in messages. -/
  shownList (list : Raw) : Raw :=
    showName (if list = ['-'] then "standard input".toList else list)

def warn (count : Nat) (one several : String) : Utility Unit := do
  if count ≠ 0 then
    complain ("WARNING: ".toList ++ Raw.ofNat count ++ ' ' ::
      (if count = 1 then one else several).toList)

def check (settings : Settings) (digest : Digest) (isSingle : Option Bool) (list : Raw) :
    Utility (Option Bool) := do
  let shown := checkLines.shownList list
  let isInput : Bool := list == ['-']
  match ← if isInput then pure (.ok input) else openFile list with
  | .error error =>
    fault (because (showName list) error)
    return isSingle
  | .ok descriptor =>
    let outcome ← readAll descriptor
    match outcome with
    | .error _ =>
      fault (shown ++ ": read error".toList)
      return isSingle
    | .ok bytes =>
      let lines := Raw.lines '\n' (Raw.ofBytes bytes)
      let tally ← checkLines settings digest list 1 lines { isSingle }
      if !isInput then close descriptor
      if !tally.hasClaims then
        complain (shown ++ ": no properly formatted checksum lines found".toList)
      else if settings.detail ≠ .silent then
        warn tally.malformed "line is improperly formatted" "lines are improperly formatted"
        warn tally.unread "listed file could not be read" "listed files could not be read"
        warn tally.different "computed checksum did NOT match" "computed checksums did NOT match"
        if settings.passesMissing && !tally.hasMatches then
          complain (shown ++ ": no file was verified".toList)
      let isFine := tally.hasClaims && tally.hasMatches && tally.different = 0 &&
        tally.unread = 0 && !(settings.isStrict && tally.malformed ≠ 0)
      if !isFine then mark 1
      return tally.isSingle

def checkAll (settings : Settings) (digest : Digest) : Option Bool → List Raw → Utility Unit
  | _, [] => return ()
  | isSingle, list :: rest => do
    let isSingle ← check settings digest isSingle list
    checkAll settings digest isSingle rest

def run (digest : Digest) (arguments : List Raw) : Utility Unit := do
  let (settings, names) ← readOptions options 1 ({} : Settings) Settings.take arguments
  match settings.fault? with
  | some complaint => misuse 1 complaint.toList
  | none => pure ()
  let names := if names.isEmpty then [['-']] else names
  if settings.checks then checkAll settings digest none names
  else names.forM (tell settings digest)
  if names.contains ['-'] then
    match ← ask (.close input) with
    | .ok () => pure ()
    | .error error => die 1 (because "standard input".toList error)
  settle

end WheelInstaller.Utility.Fingerprint
