import WheelInstaller.Utility.Options

/-! `cut`: chosen bytes or fields of every line. -/

namespace WheelInstaller.Utility.Columns

open Process

/-- A range of positions, which may have no end. -/
structure Range where
  low : Nat
  high : Option Nat
deriving DecidableEq, Repr

structure Reading where
  found : List Range := []
  initial : Nat := 1
  value : Nat := 0
  hasLow : Bool := false
  hasHigh : Bool := false
  hasDash : Bool := false
  /-- The digits of the current number. -/
  digits : Raw := []

/-- The words that differ between fields and bytes. -/
structure Wording where
  numbered : String
  badRange : String
  badValue : String
  tooLarge : String
  missing : String

def fieldWording : Wording where
  numbered := "fields are numbered from 1"
  badRange := "invalid field range"
  badValue := "invalid field value "
  tooLarge := "field number "
  missing := "missing list of fields"

def byteWording : Wording where
  numbered := "byte/character positions are numbered from 1"
  badRange := "invalid byte or character range"
  badValue := "invalid byte/character position "
  tooLarge := "byte/character offset "
  missing := "missing list of byte/character positions"

/-- The ranges with one more, after a separator. -/
def Reading.close (wording : Wording) (reading : Reading) : Except Raw Reading :=
  let add (range : Range) : Reading := { found := range :: reading.found }
  if reading.hasDash then
    if !reading.hasLow && !reading.hasHigh then
      .error "invalid range with no endpoint: -".toList
    else if !reading.hasHigh then .ok (add ⟨reading.initial, none⟩)
    else if reading.value < reading.initial then .error "invalid decreasing range".toList
    else .ok (add ⟨reading.initial, some reading.value⟩)
  else if reading.value = 0 then .error wording.numbered.toList
  else .ok (add ⟨reading.value, some reading.value⟩)

def readRanges (wording : Wording) : Reading → Raw → Except Raw (List Range)
  | reading, [] => do
    let reading ← reading.close wording
    if reading.found.isEmpty then .error wording.missing.toList
    else return reading.found
  | reading, c :: rest => do
    if c = '-' then
      if reading.hasDash then .error wording.badRange.toList
      else if reading.hasLow && reading.value = 0 then .error wording.numbered.toList
      else
        readRanges wording { reading with
          hasDash := true, initial := if reading.hasLow then reading.value else 1
          value := 0, digits := [] } rest
    else if c = ',' || c = ' ' || c = '\t' then readRanges wording (← reading.close wording) rest
    else if c.isDigit then
      let value := 10 * reading.value + (c.toNat - '0'.toNat)
      let digits := reading.digits ++ [c]
      if 0xffffffffffffffff ≤ value then
        let number := digits ++ rest.takeWhile Char.isDigit
        .error (wording.tooLarge.toList ++ quoteWord number ++ " is too large".toList)
      else
        readRanges wording { reading with
          value, digits
          hasLow := reading.hasLow || !reading.hasDash
          hasHigh := reading.hasHigh || reading.hasDash } rest
    else .error (wording.badValue.toList ++ quoteWord (c :: rest))

/-- Ranges in order, of which none overlaps the next. -/
def merge : List Range → List Range
  | [] => []
  | [only] => [only]
  | first :: second :: rest =>
    match first.high with
    | none => [first]
    | some high =>
      if second.low ≤ high then
        let joined := match second.high with
          | none => none
          | some other => some (max high other)
        merge (⟨first.low, joined⟩ :: rest)
      else first :: merge (second :: rest)
termination_by ranges => ranges.length

/-- The ranges between ranges, from a position on. -/
def complement : (start : Nat) → List Range → List Range
  | start, [] => [⟨start, none⟩]
  | start, range :: rest =>
    let before := if start < range.low then [⟨start, some (range.low - 1)⟩] else []
    match range.high with
    | none => before
    | some high => before ++ complement (high + 1) rest

structure Settings where
  /-- The list as it was given, and whether it is about fields. -/
  list : Option (Bool × Raw) := none
  delimiter : Option Char := none
  onlyDelimited : Bool := false
  isComplement : Bool := false
  outputDelimiter : Option Raw := none
  lineEnd : Char := '\n'

def options : Options where
  letters := Options.valuedLetters "bcdf" ++ Options.plainLetters "nsz"
  words := [
    ("bytes", .valued, "b"), ("characters", .valued, "c"), ("fields", .valued, "f"),
    ("delimiter", .valued, "d"), ("only-delimited", .plain, "s"),
    ("output-delimiter", .valued, "output"), ("complement", .plain, "complement"),
    ("zero-terminated", .plain, "z")]

def Settings.take (settings : Settings) (key : String) (value : Raw) : Utility Settings := do
  let withList (fields : Bool) : Utility Settings := do
    if settings.list.isSome then misuse 1 "only one list may be specified".toList
    return { settings with list := some (fields, value) }
  match key with
  | "b" | "c" => withList false
  | "f" => withList true
  | "d" =>
    match value with
    | [] => return { settings with delimiter := some '\x00' }
    | [c] => return { settings with delimiter := some c }
    | _ => misuse 1 "the delimiter must be a single character".toList
  | "s" => return { settings with onlyDelimited := true }
  | "z" => return { settings with lineEnd := '\x00' }
  | "complement" => return { settings with isComplement := true }
  | "output" => return { settings with
      outputDelimiter := some (if value.isEmpty then ['\x00'] else value) }
  | _ => return settings

/-- What is chosen of things in a row, which are counted from a position on, as one group for each
range. -/
def choose {α : Type} : (position : Nat) → List Range → List α → List (List α)
  | _, [], _ => []
  | position, range :: ranges, things =>
    let things := things.drop (range.low - position)
    if things.isEmpty then []
    else
      match range.high with
      | none => [things]
      | some high =>
        let count := high + 1 - range.low
        things.take count :: choose (high + 1) ranges (things.drop count)

/-- What is left of a line, unless it is left out. -/
def cutLine (settings : Settings) (fields : Bool) (ranges : List Range) (line : Raw) :
    Option Raw :=
  if fields then
    let delimiter := settings.delimiter.getD '\t'
    if !line.contains delimiter then if settings.onlyDelimited then none else some line
    else
      some (Raw.join (settings.outputDelimiter.getD [delimiter])
        (choose 1 ranges (Raw.split delimiter line)).flatten)
  else some (Raw.join (settings.outputDelimiter.getD []) (choose 1 ranges line))

/-- Prints what is left of the lines of a text. An end is added to the last one. -/
def printLines (settings : Settings) (fields : Bool) (ranges : List Range) (text : Raw) :
    Utility Unit := do
  let text := if text.getLast? = some settings.lineEnd then text.dropLast else text
  for line in Raw.split settings.lineEnd text do
    match cutLine settings fields ranges line with
    | some line => print (line ++ [settings.lineEnd])
    | none => pure ()

/-- Where an endless text can be cut without breaking a line: after its last line end. -/
def wholeLines (lineEnd : Char) (text : Raw) : Raw × Raw :=
  let rest := (text.reverse.takeWhile (· ≠ lineEnd)).reverse
  (text.take (text.length - rest.length), rest)

/-- Cuts the lines of what a descriptor leads to, after the start of a line. -/
def copy (settings : Settings) (fields : Bool) (ranges : List Range) (name : Raw)
    (descriptor : Nat) : (rounds : Nat) → (start : Raw) → Utility Unit
  | 0, _ => return ()
  | rounds + 1, start => do
    match ← ask (.read descriptor blockSize none) with
    | .error error => fault (because (showName name) error)
    | .ok bytes =>
      if bytes.isEmpty then
        if !start.isEmpty then printLines settings fields ranges start
      else
        let (whole, rest) := wholeLines settings.lineEnd (start ++ Raw.ofBytes bytes)
        if !whole.isEmpty then printLines settings fields ranges whole
        copy settings fields ranges name descriptor rounds rest

def each (settings : Settings) (fields : Bool) (ranges : List Range) : List Raw → Utility Unit
  | [] => return ()
  | name :: rest => do
    let isInput : Bool := name == ['-']
    match ← if isInput then pure (.ok input) else openFile name with
    | .error error => fault (because (showName name) error)
    | .ok descriptor =>
      copy settings fields ranges name descriptor forever []
      if !isInput then close descriptor
    each settings fields ranges rest

/-- `cut`. -/
def run (arguments : List Raw) : Utility Unit := do
  let (settings, names) ← readOptions options 1 {} Settings.take arguments
  match settings.list with
  | none => misuse 1 "you must specify a list of bytes, characters, or fields".toList
  | some (fields, list) =>
    if !fields && settings.delimiter.isSome then
      misuse 1 "an input delimiter may be specified only\n\twhen operating on fields".toList
    if !fields && settings.onlyDelimited then
      misuse 1 ("suppressing non-delimited lines makes sense\n\t" ++
        "only when operating on fields").toList
    match readRanges (if fields then fieldWording else byteWording) {} list with
    | .error message => misuse 1 message
    | .ok ranges =>
      let ranges := merge (ranges.mergeSort fun first second => first.low ≤ second.low)
      let ranges := if settings.isComplement then complement 1 ranges else ranges
      let names := if names.isEmpty then [['-']] else names
      each settings fields ranges names
      closeInput names

end WheelInstaller.Utility.Columns
