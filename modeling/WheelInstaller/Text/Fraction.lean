import WheelInstaller.Text.Encoding

/-! Numbers with a fraction, read from digits, held with limited precision, and written in digits
again. -/

namespace WheelInstaller

/-- A fraction of natural numbers; the denominator is positive. -/
structure Fraction where
  numerator : Nat
  denominator : Nat
deriving DecidableEq, Repr

namespace Fraction

/-- The nearest whole number, and of two equally near ones the even one. -/
def round (value : Fraction) : Nat :=
  let whole := value.numerator / value.denominator
  let rest := 2 * (value.numerator % value.denominator)
  if rest < value.denominator || (rest = value.denominator && whole % 2 = 0) then whole
  else whole + 1

/-- The value times a power of ten. -/
def shift (value : Fraction) : (exponent : Int) → Fraction
  | .ofNat exponent => { value with numerator := value.numerator * Nat.pow 10 exponent }
  | .negSucc exponent =>
    { value with denominator := value.denominator * Nat.pow 10 (exponent + 1) }

/-- The value times a power of two. -/
def scale (value : Fraction) : (exponent : Int) → Fraction
  | .ofNat exponent => { value with numerator := value.numerator <<< exponent }
  | .negSucc exponent => { value with denominator := value.denominator <<< (exponent + 1) }

/-- The power of two of the leading binary digit. -/
def binaryMagnitude (value : Fraction) : Int :=
  let estimate : Int := (value.numerator.log2 : Int) - value.denominator.log2
  let scaled := value.scale (-estimate)
  if scaled.numerator < scaled.denominator then estimate - 1 else estimate

/-- How numbers are held: with so many binary digits, and powers of two in between. -/
structure Precision where
  bits : Nat
  /-- The power of two that no number reaches. -/
  top : Int
  /-- The power of two of the last digit of the smallest number. -/
  bottom : Int

def double : Precision := ⟨53, 1024, -1074⟩

def extended : Precision := ⟨64, 16384, -16445⟩

/-- The nearest number of a precision as a whole number times a power of two. -/
def mantissa (precision : Precision) (value : Fraction) : Nat × Int :=
  if value.numerator = 0 then (0, 0)
  else
    let last := max (value.binaryMagnitude + 1 - precision.bits) precision.bottom
    ((value.scale (-last)).round, last)

/-- The nearest number of a precision, unless it is too large. -/
def limit (precision : Precision) (value : Fraction) : Option Fraction :=
  let (digits, last) := value.mantissa precision
  let nearest := (⟨digits, 1⟩ : Fraction).scale last
  if digits ≠ 0 && precision.top ≤ nearest.binaryMagnitude then none else some nearest

/-- Digits with a point before the last `places` of them. -/
def pointed (digits : Raw) (places : Nat) (alternate : Bool) : Raw :=
  let padded := List.replicate (places + 1 - digits.length) '0' ++ digits
  let whole := padded.take (padded.length - places)
  if places = 0 then if alternate then whole ++ ['.'] else whole
  else whole ++ '.' :: padded.drop (padded.length - places)

def fixed (value : Fraction) (places : Nat) (alternate : Bool) : Raw :=
  pointed (Raw.ofNat (value.shift places).round) places alternate

/-- The power of ten of the leading digit. -/
def magnitude (value : Fraction) : Int :=
  if value.numerator = 0 then 0
  else
    let wholeDigits := (Raw.ofNat (value.numerator / value.denominator)).length
    if value.denominator ≤ value.numerator then wholeDigits - 1
    else
      let inverse := (value.denominator + value.numerator - 1) / value.numerator
      let exponent : Int := -(Raw.ofNat inverse).length
      let shifted := value.shift (-(exponent + 1))
      if shifted.denominator ≤ shifted.numerator then exponent + 1
      else
        let shifted := value.shift (-exponent)
        if shifted.denominator ≤ shifted.numerator then exponent else exponent - 1

/-- The digits of the value, one more than `places`, and the power of ten of the first. -/
def leading (value : Fraction) (places : Nat) : Raw × Int :=
  let exponent := value.magnitude
  let digits := Raw.ofNat (value.shift (places - exponent)).round
  if places + 1 < digits.length then (digits.take (places + 1), exponent + 1)
  else (List.replicate (places + 1 - digits.length) '0' ++ digits, exponent)

def exponentText (exponent : Int) : Raw :=
  let digits := Raw.ofNat exponent.natAbs
  (if exponent < 0 then '-' else '+') :: (if digits.length < 2 then '0' :: digits else digits)

def scientific (value : Fraction) (places : Nat) (alternate : Bool) (letter : Char) : Raw :=
  let (digits, exponent) := value.leading places
  pointed digits places alternate ++ letter :: exponentText exponent

/-- Digits without the zeros at the end of their fraction. -/
def withoutZeros (text : Raw) : Raw :=
  if text.contains '.' then
    ((text.reverse.dropWhile (· = '0')).dropWhile (· = '.')).reverse
  else text

/-- The value in the shorter of the two forms. -/
def general (value : Fraction) (places : Nat) (alternate : Bool) (letter : Char) : Raw :=
  let places := max places 1
  let (digits, exponent) := value.leading (places - 1)
  if -4 ≤ exponent && exponent < places then
    let text := value.fixed (places - 1 - exponent).toNat alternate
    if alternate then text else withoutZeros text
  else
    let text := pointed digits (places - 1) alternate
    (if alternate then text else withoutZeros text) ++ letter :: exponentText exponent

/-- The value in hexadecimal digits and a power of two. The digits before the point hold one binary
digit in double precision, and four in extended precision. -/
def hexadecimal (value : Fraction) (precision : Precision) (places : Option Nat)
    (alternate : Bool) : Raw :=
  let leadBits := (precision.bits - 1) % 4 + 1
  let leadBits := if leadBits = 4 then 4 else 1
  let nibbles := (precision.bits - leadBits) / 4
  let power := if value.numerator = 0 then 0 else value.binaryMagnitude - (leadBits - 1)
  let shown := places.getD nibbles
  let digits := ((value.scale (-power)).scale (4 * shown)).round
  let isCarried : Bool := Nat.pow 16 (shown + 1) ≤ digits
  let (digits, power) := if isCarried then (digits / 16, power + 4) else (digits, power)
  let text := Nat.toDigits 16 digits
  let padded := List.replicate (shown + 1 - text.length) '0' ++ text
  let whole := padded.take (padded.length - shown)
  let fraction := padded.drop (padded.length - shown)
  let fraction := if places.isNone then Raw.dropEndWhile (· = '0') fraction else fraction
  let point := if fraction.isEmpty && !alternate then [] else ['.']
  let sign := if power < 0 then '-' else '+'
  whole ++ point ++ fraction ++ 'p' :: sign :: Raw.ofNat power.natAbs

/-- The exponent at the start of a text that one of two letters introduces, and the text after it. -/
def takeExponent (lower upper : Char) (text : Raw) : Int × Raw :=
  match text with
  | c :: rest =>
    if c = lower || c = upper then
      let (negative, digits) := match rest with
        | '-' :: digits => (true, digits)
        | '+' :: digits => (false, digits)
        | digits => (false, digits)
      let run := digits.takeWhile Char.isDigit
      if run.isEmpty then (0, text)
      else
        let value : Int := min (Raw.digitsValue run) 20000
        (if negative then -value else value, digits.drop run.length)
    else (0, text)
  | [] => (0, [])

def hexDigit? (c : Char) : Option Nat :=
  if c.isDigit then some (c.toNat - '0'.toNat)
  else if 'a' ≤ c && c ≤ 'f' then some (c.toNat - 'a'.toNat + 10)
  else if 'A' ≤ c && c ≤ 'F' then some (c.toNat - 'A'.toNat + 10)
  else none

/-- The digits at the start of a text, and after a point. -/
def takeDigits (isDigit : Char → Bool) (text : Raw) : Raw × Raw × Raw :=
  let whole := text.takeWhile isDigit
  match text.drop whole.length with
  | '.' :: after =>
    let places := after.takeWhile isDigit
    if whole.isEmpty && places.isEmpty then ([], [], text)
    else (whole, places, after.drop places.length)
  | rest => (whole, [], rest)

/-- The value at the start of a text without a sign, and the text after it. -/
def take? (text : Raw) : Option (Fraction × Raw) :=
  let decimal : Option (Fraction × Raw) :=
    match takeDigits Char.isDigit text with
    | ([], [], _) => none
    | (whole, places, rest) =>
      let (exponent, rest) := takeExponent 'e' 'E' rest
      let digits := Raw.digitsValue (whole ++ places)
      some ((⟨digits, 1⟩ : Fraction).shift (if digits = 0 then 0 else exponent - places.length),
        rest)
  match text with
  | '0' :: x :: text =>
    if x = 'x' || x = 'X' then
      match takeDigits (fun c => (hexDigit? c).isSome) text with
      | ([], [], _) => decimal
      | (whole, places, rest) =>
        let (exponent, rest) := takeExponent 'p' 'P' rest
        let digits := (whole ++ places).foldl (fun value c => 16 * value + (hexDigit? c).getD 0) 0
        some ((⟨digits, 1⟩ : Fraction).scale (exponent - 4 * places.length), rest)
    else decimal
  | _ => decimal

end Fraction
end WheelInstaller
