import WheelInstaller.Utility.Quoting
import WheelInstaller.Utility.Options

/-! `od`: bytes as numbers or characters, in lines of one length with the place of each line before
it. -/

namespace WheelInstaller.Utility.Dump

open Process

/-- How a group of bytes is shown. -/
inductive Form where
  | octal
  | hexadecimal
  | unsigned
  | signed
  /-- Characters, and escapes for those that cannot be seen. -/
  | character
  /-- Characters, and names for those that cannot be seen. -/
  | named
deriving DecidableEq, Repr

structure Format where
  form : Form
  /-- How many bytes make a number. -/
  size : Nat := 1
  /-- The characters stand at the end of the line as well. -/
  withText : Bool := false
deriving DecidableEq, Repr

/-- How wide a field is, without the space between fields. -/
def Format.width (format : Format) : Nat :=
  match format.form with
  | .octal => (8 * format.size + 2) / 3
  | .hexadecimal => 2 * format.size
  | .unsigned => (Raw.ofNat (Nat.pow 256 format.size - 1)).length
  | .signed => (Raw.ofNat (Nat.pow 256 format.size / 2)).length + 1
  | .character | .named => 3

/-- How the place of a line is shown. -/
inductive Radix where
  | octal
  | decimal
  | hexadecimal
  | none
deriving DecidableEq, Repr

structure Settings where
  radix : Radix := .octal
  skipped : Nat := 0
  limit : Option Nat := none
  /-- Lines that are the same as the line before are shown. -/
  whole : Bool := false
  width : Option Nat := none
  /-- The latest format comes first. -/
  formats : List Format := []

def options : Options where
  letters := Options.valuedLetters "AjNtS" ++ Options.plainLetters "aBbcDdHhIiLlOosvXx" ++
    [('w', .optional)]
  words := [
    ("skip-bytes", .valued, "j"), ("address-radix", .valued, "A"), ("read-bytes", .valued, "N"),
    ("format", .valued, "t"), ("output-duplicates", .plain, "v"), ("strings", .optional, "S"),
    ("traditional", .plain, "traditional"), ("width", .optional, "w")]

/-- The number of bytes that an option tells: in base ten, eight or sixteen, with a unit. -/
def readBytes (what : String) (text : Raw) : Utility Nat := do
  let base := match text with
    | '0' :: 'x' :: _ | '0' :: 'X' :: _ => 16
    | '0' :: _ => 8
    | _ => 10
  let digits := if base = 16 then text.drop 2 else text
  let value? (c : Char) : Option Nat :=
    let value := if c.isDigit then c.toNat - '0'.toNat
      else if 'a' ≤ c.toLower && c.toLower ≤ 'f' then c.toLower.toNat - 'a'.toNat + 10 else 99
    if value < base then some value else none
  let run := digits.takeWhile fun c => (value? c).isSome
  let value := run.foldl (fun sum c => base * sum + (value? c).getD 0) 0
  let factor := match digits.drop run.length with
    | [] => some 1
    | [c] => if "bEGKkMmPTYZ".toList.contains c then multiplier? c false else none
    | ['k', 'B'] | ['K', 'B'] => some 1000
    | ['M', 'B'] => some 1000000
    | _ => none
  match factor with
  | some factor =>
    if run.isEmpty then die 1 (what.toList ++ ' ' :: quoteWord text) else return value * factor
  | none =>
    let reason := if run.isEmpty then "invalid " else "invalid suffix in "
    die 1 (reason.toList ++ what.toList ++ ' ' :: quoteWord text)

/-- The form that a letter means. -/
def form? : Char → Option Form
  | 'd' => some .signed
  | 'o' => some .octal
  | 'u' => some .unsigned
  | 'x' => some .hexadecimal
  | _ => none

def readFormats (whole : Raw) : (fuel : Nat) → Raw → Utility (List Format)
  | 0, _ | _ + 1, [] => return []
  | fuel + 1, c :: rest => do
    let finish (format : Format) (rest : Raw) : Utility (List Format) := do
      match rest with
      | 'z' :: rest => return { format with withText := true } :: (← readFormats whole fuel rest)
      | rest => return format :: (← readFormats whole fuel rest)
    match c with
    | 'a' => finish ⟨.named, 1, false⟩ rest
    | 'c' => finish ⟨.character, 1, false⟩ rest
    | c =>
      match form? c with
      | none =>
        die 1 ("invalid character ".toList ++ quoteWord [c] ++ " in type string ".toList ++
          quoteWord whole)
      | some form =>
        let digits := rest.takeWhile Char.isDigit
        match rest with
        | 'C' :: rest => finish ⟨form, 1, false⟩ rest
        | 'S' :: rest => finish ⟨form, 2, false⟩ rest
        | 'I' :: rest => finish ⟨form, 4, false⟩ rest
        | 'L' :: rest => finish ⟨form, 8, false⟩ rest
        | rest =>
          let size := if digits.isEmpty then 4 else Raw.digitsValue digits
          if [1, 2, 4, 8].contains size then finish ⟨form, size, false⟩ (rest.drop digits.length)
          else
            die 1 ("invalid type string ".toList ++ quoteWord whole ++ ";\nthis system doesn't ".toList ++
              "provide a ".toList ++ Raw.ofNat size ++ "-byte integral type".toList)

def Settings.add (settings : Settings) (form : Form) (size : Nat) : Settings :=
  { settings with formats := ⟨form, size, false⟩ :: settings.formats }

def Settings.take (settings : Settings) (key : String) (value : Raw) : Utility Settings := do
  match key with
  | "A" =>
    match value.head? with
    | some 'o' => return { settings with radix := .octal }
    | some 'd' => return { settings with radix := .decimal }
    | some 'x' => return { settings with radix := .hexadecimal }
    | some 'n' => return { settings with radix := .none }
    | _ =>
      die 1 ("invalid output address radix '".toList ++ value.take 1 ++
        "'; it must be one character from [doxn]".toList)
  | "j" => return { settings with skipped := ← readBytes "-j argument" value }
  | "N" => return { settings with limit := some (← readBytes "-N argument" value) }
  | "t" =>
    let formats ← readFormats value (value.length + 1) value
    return { settings with formats := formats.reverse ++ settings.formats }
  | "w" =>
    let width ← if value.isEmpty then pure 32 else readBytes "-w argument" value
    return { settings with width := some width }
  | "v" => return { settings with whole := true }
  | "a" => return settings.add .named 1
  | "b" => return settings.add .octal 1
  | "c" => return settings.add .character 1
  | "d" => return settings.add .unsigned 2
  | "D" => return settings.add .unsigned 4
  | "H" | "X" => return settings.add .hexadecimal 4
  | "h" | "x" => return settings.add .hexadecimal 2
  | "i" => return settings.add .signed 4
  | "I" | "l" | "L" => return settings.add .signed 8
  | "o" | "B" => return settings.add .octal 2
  | "O" => return settings.add .octal 4
  | "s" => return settings.add .signed 2
  | _ => return settings

/-- The names of the characters that cannot be seen, from zero on. -/
def names : List String :=
  ["nul", "soh", "stx", "etx", "eot", "enq", "ack", "bel", "bs", "ht", "nl", "vt", "ff", "cr", "so",
   "si", "dle", "dc1", "dc2", "dc3", "dc4", "nak", "syn", "etb", "can", "em", "sub", "esc", "fs",
   "gs", "rs", "us", "sp"]

/-- A character, or an escape for it. -/
def shownCharacter (c : Char) : Raw :=
  match c with
  | '\x00' => ['\\', '0']
  | '\x07' => ['\\', 'a']
  | '\x08' => ['\\', 'b']
  | '\x0c' => ['\\', 'f']
  | '\n' => ['\\', 'n']
  | '\r' => ['\\', 'r']
  | '\t' => ['\\', 't']
  | '\x0b' => ['\\', 'v']
  | c => if isPrintable c then [c] else octal c

/-- Digits in front of which zeros stand. -/
def padded (width : Nat) (digits : Raw) : Raw :=
  List.replicate (width - digits.length) '0' ++ digits

/-- What a group of bytes looks like. The first byte counts least. -/
def Format.shown (format : Format) (group : Raw) : Raw :=
  let value := group.foldr (fun c value => 256 * value + c.toNat) 0
  match format.form with
  | .octal => padded format.width (Nat.toDigits 8 value)
  | .hexadecimal => padded format.width (Nat.toDigits 16 value)
  | .unsigned => Raw.ofNat value
  | .signed =>
    let whole := Nat.pow 256 format.size
    Raw.ofInt (if whole / 2 ≤ value then (value : Int) - whole else value)
  | .character => shownCharacter (group.headD ' ')
  | .named =>
    let code := (group.headD ' ').toNat % 128
    if code = 127 then "del".toList
    else match names[code]? with
      | some name => name.toList
      | none => [Char.ofNat code]

/-- Texts to the right of their columns, which share the room that there is besides their width. -/
def spread (width extra count : Nat) : (left : Nat) → List Raw → Raw
  | left, text :: rest =>
    let wide := extra * left / count - extra * (left - 1) / count + width
    List.replicate (wide - text.length) ' ' ++ text ++ spread width extra count (left - 1) rest
  | _, [] => []

/-- The bytes in groups of a size. The last group is filled up with zeros. -/
def groups (size : Nat) : (fuel : Nat) → Raw → List Raw
  | 0, _ | _ + 1, [] => []
  | fuel + 1, bytes =>
    let group := bytes.take size
    (group ++ List.replicate (size - group.length) '\x00') :: groups size fuel (bytes.drop size)

def Settings.place (settings : Settings) (place : Nat) : Raw :=
  match settings.radix with
  | .octal => padded 7 (Nat.toDigits 8 place)
  | .decimal => padded 7 (Raw.ofNat place)
  | .hexadecimal => padded 6 (Nat.toDigits 16 place)
  | .none => []

/-- How wide the place of a line is. -/
def Settings.margin (settings : Settings) : Nat :=
  match settings.radix with
  | .octal | .decimal => 7
  | .hexadecimal => 6
  | .none => 0

def Settings.block (settings : Settings) (formats : List Format) (width place : Nat)
    (bytes : Raw) : Raw :=
  let room := formats.foldl (fun room format =>
    max room ((format.width + 1) * (width / format.size))) 0
  let line (format : Format) (isFirst : Bool) : Raw :=
    let count := width / format.size
    let extra := room - format.width * count
    let fields := (groups format.size (bytes.length + 1) bytes).map format.shown
    let text := spread format.width extra count count fields
    let tail :=
      if format.withText then
        let blank := count - fields.length
        let gap := blank * format.width + extra * blank / count
        List.replicate gap ' ' ++ "  >".toList ++
          (bytes.map fun c => if isPrintable c then c else '.') ++ ['<']
      else []
    let start := if isFirst then settings.place place else List.replicate settings.margin ' '
    start ++ text ++ tail ++ ['\n']
  (formats.zipIdx.map fun (format, index) => line format (index = 0)).flatten

/-- Prints all blocks. Of blocks that are the same, only the first one is shown. -/
def Settings.blocks (settings : Settings) (formats : List Format) (width : Nat) :
    (fuel place : Nat) → (before : Option Raw) → (isRepeated : Bool) → Raw → Utility Nat
  | 0, place, _, _, _ | _ + 1, place, _, _, [] => return place
  | fuel + 1, place, before, isRepeated, bytes => do
    let block := bytes.take width
    let isSame := !settings.whole && block.length = width && before = some block
    if !isSame then print (settings.block formats width place block)
    else if !isRepeated then print ['*', '\n']
    settings.blocks formats width fuel (place + block.length) (some block) isSame
      (bytes.drop width)

/-- Everything in files, unless none of them can be opened. -/
def readFiles : List Raw → Utility (Option Raw)
  | [] => return none
  | name :: rest => do
    let isInput : Bool := name == ['-']
    let found ← match ← if isInput then pure (.ok input) else openFile name with
      | .error error =>
        fault (because (showName name) error)
        pure none
      | .ok descriptor =>
        let outcome ← readAll descriptor
        if !isInput then close descriptor
        match outcome with
        | .ok bytes => pure (some (Raw.ofBytes bytes))
        | .error error =>
          fault (because (showName (if isInput then "standard input".toList else name)) error)
          pure (some [])
    match found, ← readFiles rest with
    | some found, others => return some (found ++ others.getD [])
    | none, others => return others

/-- `od`. -/
def run (arguments : List Raw) : Utility Unit := do
  let (settings, names) ← readOptions options 1 ({} : Settings) Settings.take arguments
  let names := if names.isEmpty then [['-']] else names
  let formats := if settings.formats.isEmpty then [⟨.octal, 2, false⟩] else settings.formats.reverse
  let unit := formats.foldl (fun unit format => max unit format.size) 1
  let width := match settings.width with
    | none => 16
    | some width => if width = 0 || width % unit ≠ 0 then unit else width
  match settings.width with
  | some told =>
    if told ≠ width then
      complain ("warning: invalid width ".toList ++ Raw.ofNat told ++ "; using ".toList ++
        Raw.ofNat width ++ " instead".toList)
  | none => pure ()
  match ← readFiles names with
  | none => return ()
  | some text =>
    if text.length < settings.skipped then die 1 "cannot skip past end of combined input".toList
    let text := text.drop settings.skipped
    let text := settings.limit.elim text text.take
    let place ← settings.blocks formats width (text.length + 1) settings.skipped none false text
    if settings.radix ≠ .none then printLine (settings.place place)

end WheelInstaller.Utility.Dump
