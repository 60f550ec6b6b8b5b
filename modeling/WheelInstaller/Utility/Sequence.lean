import WheelInstaller.Utility.Options
import WheelInstaller.Utility.Printing

/-! `seq`: numbers from a first to a last one in equal steps. -/

namespace WheelInstaller.Utility.Sequence

open Printing (Directive)

/-- A number with a sign, which zero has as well. -/
structure Signed where
  negative : Bool := false
  size : Fraction

namespace Signed

/-- The nearest number that can be held. -/
def nearest (negative : Bool) (size : Fraction) : Signed :=
  ⟨negative, (size.limit Fraction.extended).getD size⟩

def times (value : Signed) (count : Nat) : Signed :=
  nearest value.negative ⟨value.size.numerator * count, value.size.denominator⟩

def numerator (value : Signed) : Int :=
  if value.negative then -(value.size.numerator : Int) else value.size.numerator

/-- The sum of two numbers. -/
def plus (first second : Signed) : Signed :=
  let total : Int :=
    first.numerator * second.size.denominator + second.numerator * first.size.denominator
  let both := first.negative && second.negative
  nearest (total < 0 || (total = 0 && both))
    ⟨total.natAbs, first.size.denominator * second.size.denominator⟩

def isLess (first second : Signed) : Bool :=
  first.numerator * second.size.denominator < second.numerator * first.size.denominator

end Signed

structure Operand where
  /-- Nothing stands for a number that is larger than any other. -/
  value : Option Signed
  /-- The places after the point, if that can be told. -/
  places : Option Nat := some 0
  width : Nat := 0

def one : Operand := { value := some ⟨false, ⟨1, 1⟩⟩, width := 1 }

/-- The sign of an operand and its value, if it is one. -/
def value? (text : Raw) : Option (Bool × Printing.Magnitude) := do
  let (negative, digits) := Printing.takeSign (text.dropWhile Raw.isSpace)
  match ← Printing.takeMagnitude? Fraction.extended digits with
  | (value, true, []) => some (negative, value)
  | _ => none

/-- The places after the point and the width with which a text without an exponent is written. -/
def extentOf (text : Raw) : Option Nat × Nat :=
  let (mantissa, exponent) :=
    let start := text.takeWhile fun c => c ≠ 'e' && c ≠ 'E'
    (start, text.drop start.length)
  let (places, width, hasPoint, pointLast) := match Raw.splitAt? '.' mantissa with
    | none => (0, mantissa.length, false, false)
    | some (whole, fraction) =>
      let needsZero := !whole.getLast?.any Char.isDigit
      (fraction.length,
        if fraction.isEmpty then mantissa.length - 1
        else if needsZero then mantissa.length + 1 else mantissa.length,
        true, fraction.isEmpty)
  match exponent with
  | [] => (some places, width)
  | _ :: digits =>
    let (negative, digits) := Printing.takeSign digits
    let power := Raw.digitsValue (digits.takeWhile Char.isDigit)
    if negative then
      let width := if hasPoint then if pointLast then width + 1 else width else width + 1
      (some (places + power), width + power)
    else
      let left := places - min places power
      let width := if hasPoint && left = 0 && places ≠ 0 then width - 1 else width
      (some left, width + (power - min places power))

def scan (text : Raw) : Utility Operand := do
  match value? text with
  | none => misuse 1 ("invalid floating point argument: ".toList ++ quoteWord text)
  | some (_, .notNumber) =>
    misuse 1 ("invalid 'not-a-number' argument: ".toList ++ quoteWord text)
  | some (negative, value) =>
    let shown := text.dropWhile fun c => Raw.isSpace c || c = '+'
    let isHexadecimal := shown.any fun c => c = 'x' || c = 'X'
    let isWhole := !shown.contains '.' && !shown.contains 'p'
    match value with
    | .finite size =>
      let (places, width) :=
        if isHexadecimal then (if isWhole then some 0 else none, 0) else extentOf shown
      return { value := some ⟨negative, size⟩, places, width }
    | _ => return { value := none, places := some 0 }

/-- How numbers are written: what comes before and after them, and the directive. -/
structure Layout where
  before : Raw := []
  directive : Directive := {}
  letter : Char := 'f'
  after : Raw := []

/-- A number in a layout, without what comes before and after it. -/
def Layout.body (layout : Layout) (value : Signed) : Raw :=
  layout.directive.fraction .program layout.letter value.negative (.finite value.size)

def Layout.text (layout : Layout) (value : Signed) : Raw :=
  layout.before ++ layout.body value ++ layout.after

/-- The layout unless another one is asked for. -/
def usualLayout (first step last : Operand) (equalWidth : Bool) : Layout :=
  match first.places, step.places, last.places with
  | some firstPlaces, some stepPlaces, some lastPlaces =>
    let places := max firstPlaces stepPlaces
    let widened (operand : Operand) (own : Nat) : Nat :=
      operand.width + places - own + (if own = 0 && places ≠ 0 then 1 else 0)
    let lastWidth := widened last lastPlaces - (if lastPlaces ≠ 0 && places = 0 then 1 else 0)
    let width := if equalWidth then max (widened first firstPlaces) lastWidth else 0
    { directive := { zero := equalWidth, width, precision := some places } }
  | _, _, _ => { letter := 'g' }

/-- The text up to a directive, in which a double percent sign stands for one, and the text after the
percent sign of the directive. -/
def beforeDirective : Raw → Option (Raw × Raw)
  | [] => none
  | '%' :: '%' :: rest => (beforeDirective rest).map fun (text, rest) => ('%' :: text, rest)
  | '%' :: rest => some ([], rest)
  | c :: rest => (beforeDirective rest).map fun (text, rest) => (c :: text, rest)

/-- The text after a directive, unless there is another one in it. -/
def afterDirective : Raw → Option Raw
  | [] => some []
  | '%' :: '%' :: rest => (afterDirective rest).map ('%' :: ·)
  | '%' :: _ => none
  | c :: rest => (afterDirective rest).map (c :: ·)

def readLayout (format : Raw) : Utility Layout := do
  let refuse (what : String) : Utility Layout :=
    die 1 ("format ".toList ++ quoteWord format ++ what.toList)
  match beforeDirective format with
  | none => refuse " has no % directive"
  | some (before, rest) =>
    let (directive, rest) := ({} : Directive).readFlags .program rest
    let width := rest.takeWhile Char.isDigit
    let rest := rest.drop width.length
    let (precision, rest) := match rest with
      | '.' :: rest =>
        let run := rest.takeWhile Char.isDigit
        (some (Raw.digitsValue run), rest.drop run.length)
      | rest => (none, rest)
    let rest := match rest with
      | 'L' :: rest => rest
      | rest => rest
    match rest with
    | [] => refuse " ends in %"
    | letter :: rest =>
      if !"efgaEFGA".toList.contains letter then
        die 1 ("format ".toList ++ quoteWord format ++ " has unknown %".toList ++ letter ::
          " directive".toList)
      else
        match afterDirective rest with
        | none => refuse " has too many % directives"
        | some after =>
          return {
            before, after, letter
            directive := { directive with width := Raw.digitsValue width, precision } }

structure Settings where
  format : Option Raw := none
  separator : Raw := ['\n']
  equalWidth : Bool := false

def take (settings : Settings) (key : String) (value : Raw) : Utility Settings := do
  match key with
  | "f" => return { settings with format := some value }
  | "s" => return { settings with separator := value }
  | _ => return { settings with equalWidth := true }

def isDigits (text : Raw) : Bool :=
  !text.isEmpty && text.all Char.isDigit

def countUp (separator : Raw) (step last : Nat) : (rounds value : Nat) → Utility Unit
  | 0, _ => return ()
  | rounds + 1, value => do
    if value ≤ last then
      print (Raw.ofNat value)
      if value + step ≤ last then
        print separator
        countUp separator step last rounds (value + step)
      else print ['\n']

/-- Prints numbers, of which the first `count` are past and `value` is the next. -/
def printFrom (layout : Layout) (separator : Raw) (first step : Signed) (last : Option Signed) :
    (rounds count : Nat) → (value : Signed) → Utility Unit
  | 0, _, _ => return ()
  | rounds + 1, count, value => do
    print (layout.text value)
    let next := first.plus (step.times (count + 1))
    let isPast := last.any fun last => if step.negative then next.isLess last else last.isLess next
    let shown := layout.body next
    let isExtra := isPast && shown ≠ layout.body value &&
      match value? shown, last with
      | some (negative, .finite size), some last =>
        let read : Signed := ⟨negative, size⟩
        !read.isLess last && !last.isLess read
      | _, _ => false
    if isPast then
      if isExtra then
        print separator
        print (layout.text next)
      print ['\n']
    else
      print separator
      printFrom layout separator first step last rounds (count + 1) next

def options : Options where
  letters := [('f', .valued), ('s', .valued), ('w', .plain)]
  words := [("format", .valued, "f"), ("separator", .valued, "s"), ("equal-width", .plain, "w")]
  strict := true

/-- The arguments that can be options, and those from the first negative number on. -/
def untilNumber : (skips : Bool) → List Raw → List Raw × List Raw
  | _, [] => ([], [])
  | true, value :: rest =>
    let (found, operands) := untilNumber false rest
    (value :: found, operands)
  | false, argument :: rest =>
    let isNumber : Bool := match argument with
      | '-' :: c :: _ => c = '.' || c.isDigit
      | _ => false
    let isOption := argument.head? = some '-' && argument.length ≠ 1 && argument ≠ ['-', '-']
    let wantsValue := argument.getLast?.any (fun c => c = 'f' || c = 's') && argument.length = 2
    if isNumber || !isOption then ([], argument :: rest)
    else
      let (found, operands) := untilNumber wantsValue rest
      (argument :: found, operands)

/-- `seq`. -/
def run (arguments : List Raw) : Utility Unit := do
  let (given, operands) := untilNumber false arguments
  let (settings, _) ← readOptions options 1 ({} : Settings) take given
  let operands := if operands.head? = some ['-', '-'] then operands.tail else operands
  if operands.isEmpty then misuse 1 "missing operand".toList
  match operands with
  | _ :: _ :: _ :: extra :: _ => misuse 1 ("extra operand ".toList ++ quoteWord extra)
  | _ => pure ()
  let layout ← match settings.format with
    | some format => do pure (some (← readLayout format))
    | none => pure none
  if layout.isSome && settings.equalWidth then
    misuse 1 "format string may not be specified when printing equal width strings".toList
  let isPlain := layout.isNone && !settings.equalWidth && settings.separator.length = 1
  let count (first step last : Raw) : Utility Unit :=
    let first := Raw.digitsValue first
    let last := Raw.digitsValue last
    countUp settings.separator (Raw.digitsValue step) last (last + 1 - first) first
  let general (first step last : Operand) : Utility Unit := do
    let layout := layout.getD (usualLayout first step last settings.equalWidth)
    match first.value, step.value with
    | some start, some increment =>
      let isNone := last.value.any fun last =>
        if increment.negative then start.isLess last else last.isLess start
      if !isNone then
        printFrom layout settings.separator start increment last.value Process.forever 0 start
    | _, _ => return ()
  match operands with
  | [last] =>
    if isPlain && isDigits last then count ['1'] ['1'] last else general one one (← scan last)
  | [first, last] =>
    if isPlain && isDigits first && isDigits last then count first ['1'] last
    else
      let first ← scan first
      general first one (← scan last)
  | [first, step, last] =>
    let isSmall := isDigits step && 0 < Raw.digitsValue step && Raw.digitsValue step ≤ 200
    if isPlain && isDigits first && isSmall && isDigits last then count first step last
    else
      let initial ← scan first
      let increment ← scan step
      if increment.value.any (·.size.numerator = 0) then
        misuse 1 ("invalid Zero increment value: ".toList ++ quoteWord step)
      general initial increment (← scan last)
  | _ => return ()

end WheelInstaller.Utility.Sequence
