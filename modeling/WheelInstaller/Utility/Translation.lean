import WheelInstaller.Utility.Options

/-! `tr`: bytes replaced, deleted or squeezed. Sets of bytes are written as texts with escapes, ranges,
classes and repetitions. -/

namespace WheelInstaller.Utility.Translation

open Process

/-- A byte of a written set, and whether a backslash takes away its special meaning. -/
abbrev Sign := Char × Bool

def letterEscape (c : Char) : Char :=
  match c with
  | 'a' => '\x07'
  | 'b' => '\x08'
  | 'f' => '\x0c'
  | 'n' => '\n'
  | 'r' => '\r'
  | 't' => '\t'
  | 'v' => '\x0b'
  | c => c

def octalDigit? (c : Char) : Option Nat :=
  if '0' ≤ c && c ≤ '7' then some (c.toNat - '0'.toNat) else none

/-- At most `count` octal digits at the start of a text, and the text after them. -/
def takeOctal : (count value : Nat) → Raw → Nat × Raw
  | count + 1, value, c :: rest =>
    match octalDigit? c with
    | some digit =>
      if 255 < 8 * value + digit then (value, c :: rest)
      else takeOctal count (8 * value + digit) rest
    | none => (value, c :: rest)
  | _, value, text => (value, text)

/-- Replaces the escapes of a written set, and tells what there is to warn about. -/
def unescape : (fuel : Nat) → Raw → List Sign × List Raw
  | 0, _ | _ + 1, [] => ([], [])
  | _ + 1, ['\\'] =>
    ([('\\', false)],
      ["warning: an unescaped backslash at end of string is not portable".toList])
  | fuel + 1, '\\' :: c :: rest =>
    match octalDigit? c with
    | some digit =>
      let (value, after) := takeOctal 2 digit rest
      let taken := rest.take (rest.length - after.length)
      let warned := taken.length = 1 && after.head?.any fun c => (octalDigit? c).isSome
      let warning :=
        if warned then
          ["warning: the ambiguous octal escape \\".toList ++ c :: taken ++ after.take 1 ++
            " is being\n\tinterpreted as the 2-byte sequence \\0".toList ++ c :: taken ++
            ", ".toList ++ after.take 1]
        else []
      let (signs, warnings) := unescape fuel after
      ((Char.ofNat value, true) :: signs, warning ++ warnings)
    | none =>
      let (signs, warnings) := unescape fuel rest
      ((letterEscape c, true) :: signs, warnings)
  | fuel + 1, c :: rest =>
    let (signs, warnings) := unescape fuel rest
    ((c, false) :: signs, warnings)

inductive Element where
  | one (c : Char)
  | range (first last : Char)
  | named (name : Raw)
  | equivalent (c : Char)
  /-- A byte so many times; zero stands for as often as needed. -/
  | repeated (c : Char) (count : Nat)
deriving DecidableEq, Repr

def allBytes : List Char :=
  (List.range 256).map Char.ofNat

/-- A byte as messages show it. -/
def shown (c : Char) : Raw :=
  match c with
  | '\\' => ['\\', '\\']
  | '\x07' => ['\\', 'a']
  | '\x08' => ['\\', 'b']
  | '\x0c' => ['\\', 'f']
  | '\n' => ['\\', 'n']
  | '\r' => ['\\', 'r']
  | '\t' => ['\\', 't']
  | '\x0b' => ['\\', 'v']
  | c => if isPrintable c then [c] else '\\' :: octal c

/-- What stands between brackets of a kind, and what comes after them. -/
def bracketed? (mark : Char) : (inner : Raw) → List Sign → Option (Raw × List Sign)
  | inner, (c, false) :: (']', false) :: rest =>
    if c = mark then some (inner.reverse, rest)
    else bracketed? mark (c :: inner) ((']', false) :: rest)
  | inner, (c, _) :: rest => bracketed? mark (c :: inner) rest
  | _, [] => none

/-- The signs are the count of a repetition up to its bracket. -/
def closesRepetition (signs : List Sign) : Bool :=
  match signs with
  | ('*', false) :: rest =>
    (rest.dropWhile fun (c, escaped) => c.isDigit && !escaped).head? = some (']', false)
  | _ => false

/-- A repetition at the start of the signs after an opening bracket. -/
def repetition? (signs : List Sign) : Option (Except Raw (Element × List Sign)) :=
  match signs with
  | (c, _) :: ('*', false) :: rest =>
    let digits := rest.takeWhile (· ≠ (']', false))
    match rest.drop digits.length with
    | [] => none
    | _ :: after =>
      let text := digits.map (·.1)
      let base := if text.head? = some '0' then 8 else 10
      let valid := text.all fun c => c.isDigit && c.toNat - '0'.toNat < base
      let value := text.foldl (fun value c => base * value + (c.toNat - '0'.toNat)) 0
      if text.isEmpty then some (.ok (.repeated c 0, after))
      else if !valid || 0xffffffffffffffff < value then
        some (.error ("invalid repeat count ".toList ++ quoteWord text ++
          " in [c*n] construct".toList))
      else some (.ok (.repeated c value, after))
  | _ => none

def readElements : (fuel : Nat) → List Sign → Except Raw (List Element)
  | 0, _ | _ + 1, [] => .ok []
  | fuel + 1, ('[', false) :: (mark, false) :: rest => do
    let marked := if mark = ':' || mark = '=' then bracketed? mark [] rest else none
    match marked with
    | some (inner, after) =>
      let refuse (message : Raw) : Except Raw (List Element) :=
        if closesRepetition rest then afterClass fuel mark rest else .error message
      if mark = ':' then
        if inner.isEmpty then .error "missing character class name '[::]'".toList
        else if (Raw.classTest? inner).isSome then
          return .named inner :: (← readElements fuel after)
        else refuse ("invalid character class ".toList ++ quoteWord inner)
      else
        match inner with
        | [] => .error "missing equivalence class character '[==]'".toList
        | [c] => return .equivalent c :: (← readElements fuel after)
        | _ => refuse (inner ++ ": equivalence class operand must be a single character".toList)
    | none => afterClass fuel mark rest
  | fuel + 1, ('[', false) :: (c, true) :: rest => do
    match repetition? ((c, true) :: rest) with
    | some found =>
      let (element, after) ← found
      return element :: (← readElements fuel after)
    | none => plain fuel '[' ((c, true) :: rest)
  | fuel + 1, (c, _) :: rest => plain fuel c rest
termination_by fuel => (fuel, 0)
where
  /-- Reads on after a bracket that starts no class. -/
  afterClass (fuel : Nat) (mark : Char) (rest : List Sign) : Except Raw (List Element) := do
    match repetition? ((mark, false) :: rest) with
    | some found =>
      let (element, after) ← found
      return element :: (← readElements fuel after)
    | none => plain fuel '[' ((mark, false) :: rest)
  termination_by (fuel, 2)
  /-- Reads on after a byte that may start a range. -/
  plain (fuel : Nat) (c : Char) (rest : List Sign) : Except Raw (List Element) := do
    match rest with
    | ('-', false) :: (last, _) :: after =>
      if last < c then
        .error ("range-endpoints of '".toList ++ shown c ++ '-' :: shown last ++
          "' are in reverse collating sequence order".toList)
      else return .range c last :: (← readElements fuel after)
    | rest => return .one c :: (← readElements fuel rest)
  termination_by (fuel, 1)

def Element.bytes (fill : Nat) : Element → List Char
  | .one c | .equivalent c => [c]
  | .range first last => allBytes.filter fun c => first ≤ c && c ≤ last
  | .named name => allBytes.filter ((Raw.classTest? name).getD fun _ => false)
  | .repeated c count => List.replicate (if count = 0 then fill else count) c

/-- The bytes of a set, in which repetitions without a count have a given one. -/
def bytesOf (fill : Nat) (elements : List Element) : List Char :=
  elements.flatMap (Element.bytes fill)

/-- The part is a class of letters in one case. -/
def Element.isCase : Element → Bool
  | .named name => name = "upper".toList || name = "lower".toList
  | _ => false

/-- The part is a class. -/
def Element.isNamed : Element → Bool
  | .named _ => true
  | _ => false

/-- The part is repeated as often as needed. -/
def Element.isFiller : Element → Bool
  | .repeated _ count => count = 0
  | _ => false

structure Settings where
  complements : Bool := false
  deletes : Bool := false
  squeezes : Bool := false
  truncates : Bool := false

def options : Options where
  letters := Options.plainLetters "cCdst"
  words := [
    ("complement", .plain, "c"), ("delete", .plain, "d"), ("squeeze-repeats", .plain, "s"),
    ("truncate-set1", .plain, "t")]
  strict := true

def Settings.take (settings : Settings) (key : String) : Settings :=
  match key with
  | "d" => { settings with deletes := true }
  | "s" => { settings with squeezes := true }
  | "t" => { settings with truncates := true }
  | _ => { settings with complements := true }

/-- Where in a set classes of letters in one case start. -/
def casePlaces (elements : List Element) : List Nat :=
  (elements.foldl (fun (places, place) element =>
    (if element.isCase then place :: places else places, place + (element.bytes 0).length))
    (([] : List Nat), 0)).1

/-- Pairs of bytes and what they become, in which classes of letters in both cases go together. -/
def pairs (first second : List Element) : List (Char × Char) :=
  let flip (element : Element) : List Char := (element.bytes 0)
  let isLower (element : Element) : Bool := element = .named "lower".toList
  let isUpper (element : Element) : Bool := element = .named "upper".toList
  let firstItems := first.map fun element => (element, flip element)
  let secondItems := second.map fun element => (element, flip element)
  go isLower isUpper (firstItems.length + secondItems.length + 1024) firstItems secondItems
where
  /-- Goes through both sets side by side. -/
  go (isLower isUpper : Element → Bool) : (fuel : Nat) → List (Element × List Char) →
      List (Element × List Char) → List (Char × Char)
    | 0, _, _ => []
    | fuel + 1, (_, []) :: firsts, seconds => go isLower isUpper fuel firsts seconds
    | fuel + 1, firsts, (_, []) :: seconds => go isLower isUpper fuel firsts seconds
    | fuel + 1, (a, x :: xs) :: firsts, (b, y :: ys) :: seconds =>
      if a.isCase && b.isCase && xs.length + 1 = (a.bytes 0).length then
        let mapped := (x :: xs).map fun c =>
          (c, if isLower a && isUpper b then c.toUpper
              else if isUpper a && isLower b then c.toLower
              else c)
        mapped ++ go isLower isUpper fuel firsts seconds
      else (x, y) :: go isLower isUpper fuel ((a, xs) :: firsts) ((b, ys) :: seconds)
    | _ + 1, _, _ => []

def complementOf (bytes : List Char) : List Char :=
  allBytes.filter fun c => !bytes.contains c

/-- Checks sets that are to be translated into each other, and tells the pairs and all bytes of the
second set. -/
def translation (settings : Settings) (first second : List Element) :
    Except Raw (List (Char × Char) × List Char) := do
  if second.any fun | .equivalent _ => true | _ => false then
    throw "[=c=] expressions may not appear in string2 when translating".toList
  if second.any fun element => element.isNamed && !element.isCase then
    throw ("when translating, the only character classes that may appear in\n" ++
      "string2 are 'upper' and 'lower'").toList
  let plain := bytesOf 0 first
  let source := if settings.complements then complementOf plain else plain
  let fixed := (bytesOf 0 second).length
  let fill := source.length - fixed
  let second := second.map fun element =>
    match element with
    | .repeated c 0 => .repeated c fill
    | element => element
  let second := second.filter (!·.isFiller)
  let target := bytesOf 0 second
  if !settings.complements then
    if (casePlaces second).any fun place => !(casePlaces first).contains place then
      throw "misaligned [:upper:] and/or [:lower:] construct".toList
  let second ←
    if target.length < source.length && !settings.truncates then
      match second.getLast? with
      | none => throw "when not truncating set1, string2 must be non-empty".toList
      | some (.named _) =>
        throw ("when translating with string1 longer than string2,\n" ++
          "the latter string must not end with a character class").toList
      | some element =>
        let last := (element.bytes 0).getLastD 'a'
        pure (second ++ [Element.repeated last (source.length - target.length)])
    else pure second
  if settings.complements && first.any Element.isNamed then
    let target := bytesOf 0 second
    let same := target.all fun c => some c = target.head?
    if !(source.length = target.length && same) then
      throw ("when translating with complemented character classes,\n" ++
        "string2 must map all characters in the domain to one").toList
  let target := bytesOf 0 second
  return (if settings.complements then source.zip target else pairs first second, target)

/-- What becomes of bytes: a table of what replaces them, and which of them go or are squeezed. -/
structure Plan where
  table : Array Char
  deleted : Array Bool
  squeezed : Array Bool

def membership (bytes : List Char) : Array Bool :=
  bytes.foldl (fun table c => table.setIfInBounds c.toNat true) (Array.replicate 256 false)

/-- What becomes of a text after a byte, the latest byte of the result first. -/
def Plan.apply (plan : Plan) : (last : Option Char) → (written : Raw) → Raw → Option Char × Raw
  | last, written, [] => (last, written)
  | last, written, c :: rest =>
    if (plan.deleted[c.toNat]?).getD false then plan.apply last written rest
    else
      let new := (plan.table[c.toNat]?).getD c
      if some new = last && (plan.squeezed[new.toNat]?).getD false then
        plan.apply last written rest
      else plan.apply (some new) (new :: written) rest

def copy (plan : Plan) : (rounds : Nat) → (last : Option Char) → Utility Unit
  | 0, _ => return ()
  | rounds + 1, last => do
    match ← ask (.read input 8192 none) with
    | .error error => die 1 (because "read error".toList error)
    | .ok bytes =>
      if !bytes.isEmpty then
        let (last, written) := plan.apply last [] (Raw.ofBytes bytes)
        print written.reverse
        copy plan rounds last

def readSet (text : Raw) : Utility (List Element) := do
  let (signs, warnings) := unescape (text.length + 1) text
  for warning in warnings do
    complain warning
  match readElements (signs.length + 1) signs with
  | .ok elements => return elements
  | .error message => die 1 message

/-- `tr`. -/
def run (arguments : List Raw) : Utility Unit := do
  let (settings, operands) ← readOptions options 1 {} (fun settings key _ =>
    return (settings : Settings).take key) arguments
  let least := if settings.deletes = settings.squeezes then 2 else 1
  let most := if settings.deletes && !settings.squeezes then 1 else 2
  if operands.length < least then
    match operands.getLast? with
    | none => misuse 1 "missing operand".toList
    | some last =>
      complain ("missing operand after ".toList ++ quoteWord last)
      remark (if settings.squeezes then
          "Two strings must be given when both deleting and squeezing repeats.\n".toList
        else "Two strings must be given when translating.\n".toList)
      suggest 1
  match operands.drop most with
  | extra :: _ =>
    complain ("extra operand ".toList ++ quoteWord extra)
    if operands.length = 2 then
      remark "Only one string may be given when deleting without squeezing repeats.\n".toList
    suggest 1
  | [] => pure ()
  let first ← readSet (operands.headD [])
  let second ← match operands[1]? with
    | some text => do pure (some (← readSet text))
    | none => pure none
  if first.any Element.isFiller then
    die 1 "the [c*] repeat construct may not appear in string1".toList
  if 1 < ((second.getD []).filter Element.isFiller).length then
    die 1 "only one [c*] repeat construct may appear in string2".toList
  let plain := bytesOf 0 first
  let source := if settings.complements then complementOf plain else plain
  let translates : Bool := second.isSome && !settings.deletes
  if !translates && (second.getD []).any Element.isFiller then
    die 1 "the [c*] construct may appear in string2 only when translating".toList
  let identity := allBytes.toArray
  let none := membership []
  match second, translates with
  | some second, true =>
    match translation settings first second with
    | .error message => die 1 message
    | .ok (found, target) =>
      let table := found.foldl (fun table (c, new) => table.setIfInBounds c.toNat new) identity
      let squeezed := if settings.squeezes then membership target else none
      copy ⟨table, none, squeezed⟩ forever .none
  | second, _ =>
    let deleted := if settings.deletes then membership source else none
    let squeezed :=
      if !settings.squeezes then none
      else match second with
        | some second => membership (bytesOf 0 second)
        | .none => membership source
    copy ⟨identity, deleted, squeezed⟩ forever .none

end WheelInstaller.Utility.Translation
