import WheelInstaller.Text.Encoding

/-! Patterns of texts, and where they fit. Of all the ways in which a pattern fits at one place, the
longest counts. -/

namespace WheelInstaller.Utility

def isWordChar (c : Char) : Bool :=
  c.isAlphanum || c = '_'

inductive TextPattern where
  | empty
  | character (fits : Char → Bool)
  /-- The start of the text, or of a line of it. -/
  | atStart (ofLine : Bool)
  /-- The end of the text, or of a line of it. -/
  | atEnd (ofLine : Bool)
  /-- A place with a word before it or not, and after it or not. -/
  | between (fits : Bool → Bool → Bool)
  | sequence (first second : TextPattern)
  | either (first second : TextPattern)
  /-- A part that has a number. -/
  | part (number : Nat) (body : TextPattern)
  | repeated (body : TextPattern) (least : Nat) (most : Option Nat)
  /-- The same text as a part, where letters may differ in case. -/
  | again (number : Nat) (anyCase : Bool)

/-- Where a pattern fits in a text: the characters before, and how many it takes. -/
structure TextMatch where
  start : Nat
  length : Nat
  /-- The numbered parts with their texts. -/
  parts : List (Nat × Raw)

namespace TextPattern

/-- A state of matching: the place, the characters before it, the latest first, those to come, and the
parts with their texts. -/
structure State where
  place : Nat
  past : Raw
  rest : Raw
  parts : List (Nat × Raw) := []

/-- The first of several states at every place, the furthest place first. -/
def distinct (states : List State) : List State :=
  match states with
  | [] | [_] => states
  | states =>
    let sorted := states.mergeSort fun first second => second.place ≤ first.place
    let rec go (place : Option Nat) : List State → List State
      | [] => []
      | state :: rest =>
        if place = some state.place then go place rest else state :: go (some state.place) rest
    go none sorted

/-- A text at the start of another one, where letters may differ in case. -/
def beginsWith (anyCase : Bool) (start text : Raw) : Bool :=
  if anyCase then (start.map Char.toLower).isPrefixOf (text.map Char.toLower)
  else start.isPrefixOf text

def advance : TextPattern → State → List State
  | .empty, state => [state]
  | .character fits, state =>
    match state.rest with
    | c :: rest =>
      if fits c then [{ state with place := state.place + 1, past := c :: state.past, rest }] else []
    | [] => []
  | .atStart ofLine, state =>
    if state.past.isEmpty || (ofLine && state.past.head? = some '\n') then [state] else []
  | .atEnd ofLine, state =>
    if state.rest.isEmpty || (ofLine && state.rest.head? = some '\n') then [state] else []
  | .between fits, state =>
    if fits (state.past.head?.any isWordChar) (state.rest.head?.any isWordChar) then [state] else []
  | .sequence first second, state => distinct ((first.advance state).flatMap second.advance)
  | .either first second, state => distinct (first.advance state ++ second.advance state)
  | .part number body, state =>
    (body.advance state).map fun after =>
      let text := (after.past.take (after.place - state.place)).reverse
      { after with parts := (number, text) :: after.parts.filter (·.1 ≠ number) }
  | .repeated body least most, state =>
    let rec go : (rounds count : Nat) → List State → List State
      | 0, _, _ => []
      | rounds + 1, count, states =>
        let kept := if least ≤ count then states else []
        if states.isEmpty || most.any (· ≤ count) then kept
        else
          let grown := (states.flatMap fun before => (body.advance before).filter fun after =>
            before.place < after.place || count < least)
          go rounds (count + 1) (distinct grown) ++ kept
    termination_by rounds => (sizeOf body, rounds + 1)
    distinct (go (state.rest.length + least + 2) 0 [state])
  | .again number anyCase, state =>
    match state.parts.find? (·.1 = number) with
    | some (_, text) =>
      if beginsWith anyCase text state.rest then
        let count := text.length
        [{ state with
          place := state.place + count
          past := (state.rest.take count).reverse ++ state.past
          rest := state.rest.drop count }]
      else []
    | none => []
termination_by pattern => (sizeOf pattern, 0)

/-- How many parts of the pattern have a number. -/
def partCount : TextPattern → Nat
  | .sequence first second | .either first second => first.partCount + second.partCount
  | .part _ body => body.partCount + 1
  | .repeated body _ _ => body.partCount
  | _ => 0

/-- The pattern where letters may differ in case. -/
def inAnyCase : TextPattern → TextPattern
  | .character fits => .character fun c => fits c || fits c.toLower || fits c.toUpper
  | .sequence first second => .sequence first.inAnyCase second.inAnyCase
  | .either first second => .either first.inAnyCase second.inAnyCase
  | .part number body => .part number body.inAnyCase
  | .repeated body least most => .repeated body.inAnyCase least most
  | .again number _ => .again number true
  | pattern => pattern

/-- The ways in which the pattern fits at one place of a text, the longest first. The characters before
it are told with the latest first. -/
def fitsAt (pattern : TextPattern) (place : Nat) (past rest : Raw) : List TextMatch :=
  (pattern.advance { place, past, rest }).map fun state =>
    { start := place, length := state.place - place, parts := state.parts }

/-- The longest way in which the pattern fits at the start of a text. -/
def match? (pattern : TextPattern) (text : Raw) : Option TextMatch :=
  (pattern.fitsAt 0 [] text).head?

/-- The first place of a text at which the pattern fits as wanted, from a given place on. -/
def findFrom? (pattern : TextPattern) (isWanted : TextMatch → Bool) (place : Nat) (past : Raw) :
    Raw → Option TextMatch
  | [] => (pattern.fitsAt place past []).find? isWanted
  | c :: rest =>
    match (pattern.fitsAt place past (c :: rest)).find? isWanted with
    | some found => some found
    | none => findFrom? pattern isWanted (place + 1) (c :: past) rest

/-- The first place of a text at which the pattern fits. -/
def find? (pattern : TextPattern) (text : Raw) : Option TextMatch :=
  pattern.findFrom? (fun _ => true) 0 [] text

end TextPattern
end WheelInstaller.Utility

/-! How patterns are written. In the basic form, operators stand after a backslash; in the extended
form, by themselves. -/

namespace WheelInstaller.Utility.TextPattern

structure Grammar where
  /-- Operators stand by themselves. -/
  isExtended : Bool := false
  /-- A count, and in the extended form every repetition, needs something to repeat. -/
  isStrict : Bool := true
  /-- Curly brackets and closing brackets that would be wrong mean themselves. -/
  isLax : Bool := false
  /-- The starts and ends of lines count as those of the text. -/
  byLine : Bool := false
  /-- The name of a class has to stand in brackets of its own. -/
  guardsClasses : Bool := false
  /-- Repetitions are written without a backslash where other operators have one. -/
  hasPlainRepeats : Bool := false
  /-- A letter after a backslash stands for digits, and one for everything else. -/
  knowsDigits : Bool := false

inductive Token where
  | plain (c : Char)
  | any
  | caret
  | dollar
  | brackets
  | openPart
  | closePart
  | bar
  /-- How often something is repeated, which is written with a character. -/
  | times (least : Nat) (most : Option Nat) (written : Char)
  /-- The start of bounds. -/
  | bounds
  | again (number : Nat)
  /-- A letter that means something after a backslash. -/
  | special (pattern : TextPattern)
  /-- A backslash at the end. -/
  | backslash
  /-- The end of the pattern. -/
  | over

/-- The operators that the form decides about. -/
def operator? : Char → Option Token
  | '(' => some .openPart
  | ')' => some .closePart
  | '|' => some .bar
  | '+' => some (.times 1 none '+')
  | '?' => some (.times 0 (some 1) '?')
  | '\x7b' => some .bounds
  | _ => none

/-- What a letter after a backslash means. -/
def escape? (knowsDigits : Bool) : Char → Option TextPattern
  | 'w' => some (.character isWordChar)
  | 'W' => some (.character fun c => !isWordChar c)
  | 's' => some (.character Raw.isSpace)
  | 'S' => some (.character fun c => !Raw.isSpace c)
  | 'b' => some (.between fun before after => before ≠ after)
  | 'B' => some (.between fun before after => before = after)
  | '<' => some (.between fun before after => !before && after)
  | '>' => some (.between fun before after => before && !after)
  | '\x60' => some (.atStart false)
  | '\x27' => some (.atEnd false)
  | c =>
    if knowsDigits && c = 'd' then some (.character Char.isDigit)
    else if knowsDigits && c = 'D' then some (.character fun c => !c.isDigit)
    else none

def Token.read (grammar : Grammar) : Raw → Token × Raw
  | [] => (.over, [])
  | ['\\'] => (.backslash, [])
  | '\\' :: c :: rest =>
    let token :=
      if '1' ≤ c && c ≤ '9' then .again (c.toNat - '0'.toNat)
      else
        let special := (escape? grammar.knowsDigits c).map Token.special
        let isRepeat := c = '+' || c = '?'
        if grammar.isExtended || (grammar.hasPlainRepeats && isRepeat) then
          special.getD (.plain c)
        else (operator? c <|> special).getD (.plain c)
    (token, rest)
  | c :: rest =>
    let token := match c with
      | '.' => .any
      | '^' => .caret
      | '$' => .dollar
      | '[' => .brackets
      | '*' => .times 0 none '*'
      | c =>
        let isRepeat := grammar.hasPlainRepeats && (c = '+' || c = '?')
        if grammar.isExtended || isRepeat then (operator? c).getD (.plain c) else .plain c
    (token, rest)

/-- What brackets hold. -/
abbrev Members := List (Char → Bool)

/-- One end of a range, or a character by itself, and the text after it. -/
def readMember : Raw → Option (Char × Raw)
  | '[' :: '.' :: c :: '.' :: ']' :: rest => some (c, rest)
  | c :: rest => some (c, rest)
  | [] => none

def unmatchedBracket : String := "Unmatched [, [^, [:, [., or [="

/-- Reads the members of brackets; at the start, a closing bracket is one of them. -/
def readMembers : (fuel : Nat) → (isStart : Bool) → (found : Members) → Raw →
    Except String (Members × Raw)
  | 0, _, _, _ | _ + 1, _, _, [] => .error unmatchedBracket
  | fuel + 1, isStart, found, ']' :: rest =>
    if isStart then readRange fuel found (']' :: rest) else .ok (found, rest)
  | fuel + 1, _, found, '[' :: ':' :: rest =>
    let name := rest.takeWhile Char.isAlpha
    match rest.drop name.length with
    | ':' :: ']' :: rest =>
      match Raw.classTest? name with
      | some fits => readMembers fuel false (fits :: found) rest
      | none => .error "Invalid character class name"
    | _ => .error unmatchedBracket
  | fuel + 1, _, found, '[' :: '=' :: c :: '=' :: ']' :: rest =>
    readMembers fuel false ((· = c) :: found) rest
  | fuel + 1, _, found, text => readRange fuel found text
termination_by fuel => (fuel, 0)
where
  /-- Reads a character or a range, and the members after it. -/
  readRange (fuel : Nat) (found : Members) (text : Raw) : Except String (Members × Raw) :=
    match readMember text with
    | none => .error unmatchedBracket
    | some (low, '-' :: rest) =>
      match rest with
      | ']' :: _ => readMembers fuel false ((· = low) :: found) ('-' :: rest)
      | rest =>
        match readMember rest with
        | none => .error unmatchedBracket
        | some (high, rest) =>
          if high < low then .error "Invalid range end"
          else readMembers fuel false ((fun c => low ≤ c && c ≤ high) :: found) rest
    | some (c, rest) => readMembers fuel false ((· = c) :: found) rest
  termination_by (fuel, 1)

/-- Whether what follows an opening bracket looks like the name of a class. -/
def looksLikeClass (text : Raw) : Bool :=
  let inner := text.takeWhile (· ≠ ']')
  inner.head? = some ':' && inner.getLast? = some ':' && inner.any (· ≠ ':') &&
    !inner.contains '-'

def readBrackets (grammar : Grammar) (text : Raw) : Except String (TextPattern × Raw) := do
  let (negated, members) := match text with
    | '^' :: rest => (true, rest)
    | rest => (false, rest)
  if members.isEmpty then throw "Invalid regular expression"
  if grammar.guardsClasses && looksLikeClass text then
    throw "character class syntax is [[:space:]], not [:space:]"
  let (found, rest) ← readMembers (members.length + 1) true [] members
  let isCut (c : Char) : Bool := grammar.byLine && negated && c = '\n'
  return (.character fun c => found.any (· c) ≠ negated && !isCut c, rest)

/-- What ends a number among bounds. -/
inductive BoundEnd where
  | comma
  | bracket
  /-- The end of the pattern. -/
  | nothing
deriving DecidableEq

/-- A number among bounds, which there may be none of. -/
structure Bound where
  value : Option Nat := none
  isWrong : Bool := false
  ending : BoundEnd := .nothing
  rest : Raw := []

def Bound.read (grammar : Grammar) : (found : Option Nat) → (isWrong : Bool) → Raw → Bound
  | _, _, [] => { isWrong := true }
  | value, isWrong, ',' :: rest => { value, isWrong, ending := .comma, rest }
  | value, isWrong, '\\' :: '\x7d' :: rest =>
    if grammar.isExtended then Bound.read grammar value true rest
    else { value, isWrong, ending := .bracket, rest }
  | value, isWrong, c :: rest =>
    if c = '\x7d' && grammar.isExtended then { value, isWrong, ending := .bracket, rest }
    else if c.isDigit then
      Bound.read grammar (some (10 * value.getD 0 + Raw.digitsValue [c])) isWrong rest
    else Bound.read grammar value true rest

inductive Bounds where
  | proper (least : Nat) (most : Option Nat) (rest : Raw)
  /-- What is there is not of the form of bounds. -/
  | shapeless (complaint : String)
  | wrong (complaint : String)

def Bounds.read (grammar : Grammar) (text : Raw) : Bounds :=
  let unmatched := "Unmatched \\\x7b"
  let invalid := "Invalid content of \\\x7b\\\x7d"
  let shapeless (bound : Bound) : Bounds :=
    .shapeless (if bound.ending = .nothing then unmatched else invalid)
  let close (least : Nat) (most : Option Nat) (bound : Bound) : Bounds :=
    if most.any (· < least) || bound.ending ≠ .bracket then .wrong invalid
    else if 0x7fff < most.getD least then .wrong "Regular expression too big"
    else .proper least most bound.rest
  let first := Bound.read grammar none false text
  if first.isWrong then shapeless first
  else
    match first.ending, first.value with
    | .comma, least =>
      let second := Bound.read grammar none false first.rest
      if second.isWrong then shapeless second else close (least.getD 0) second.value second
    | _, some count => close count (some count) first
    | _, none => .wrong invalid

/-- What may follow an element, and the element with it, in at most `rounds` steps. -/
def readRepeats (grammar : Grammar) : (rounds : Nat) → TextPattern → Raw →
    Except String (TextPattern × Raw)
  | 0, element, text => .ok (element, text)
  | rounds + 1, element, text =>
    match Token.read grammar text with
    | (.times least most _, rest) =>
      readRepeats grammar rounds (.repeated element least most) rest
    | (.bounds, rest) =>
      match Bounds.read grammar rest with
      | .proper least most rest =>
        readRepeats grammar rounds (.repeated element least most) rest
      | .shapeless complaint => if grammar.isLax then .ok (element, text) else .error complaint
      | .wrong complaint => .error complaint
    | _ => .ok (element, text)

/-- Whether the text is over, or a part or an alternative ends. -/
def endsHere (grammar : Grammar) (text : Raw) : Bool :=
  match (Token.read grammar text).1 with
  | .over | .closePart | .bar => true
  | _ => false

def nothingBefore : String := "Invalid preceding regular expression"

/-- The parts that were met: how many there are, and those that are complete. -/
structure Parts where
  count : Nat := 0
  complete : List Nat := []
  /-- What looks wrong, the latest first. -/
  warnings : List String := []

/-- What was met, with a repetition of nothing. -/
def Parts.warn (parts : Parts) (written : String) : Parts :=
  { parts with warnings := (written ++ " at start of expression") :: parts.warnings }

mutual

/-- Reads alternatives up to the end of a part. `depth` parts are open. -/
def readEither (grammar : Grammar) : (fuel depth : Nat) → Parts → Raw →
    Except String (TextPattern × Parts × Raw)
  | 0, _, parts, text => .ok (.empty, parts, text)
  | fuel + 1, depth, parts, text => do
    let (first, after, rest) ← readSequence grammar fuel depth parts true .empty text
    match Token.read grammar rest with
    | (.bar, rest) =>
      let others := { after with complete := parts.complete }
      let (second, last, rest) ← readEither grammar fuel depth others rest
      return (.either first second, { last with complete := last.complete ++ after.complete }, rest)
    | _ => return (first, after, rest)

/-- Reads elements up to the end of an alternative, after those found already. -/
def readSequence (grammar : Grammar) : (fuel depth : Nat) → Parts → (isStart : Bool) →
    (found : TextPattern) → Raw → Except String (TextPattern × Parts × Raw)
  | 0, _, parts, _, found, text => .ok (found, parts, text)
  | fuel + 1, depth, parts, isStart, found, text => do
    let goOn (element : TextPattern) (parts : Parts) (rest : Raw) :
        Except String (TextPattern × Parts × Raw) := do
      let (element, rest) ← readRepeats grammar (rest.length + 1) element rest
      readSequence grammar fuel depth parts false (.sequence found element) rest
    let plain (c : Char) (rest : Raw) := goOn (.character (· = c)) parts rest
    let anchored (anchor : TextPattern) (rest : Raw) :=
      if grammar.isLax then goOn anchor parts rest
      else readSequence grammar fuel depth parts true (.sequence found anchor) rest
    let (token, rest) := Token.read grammar text
    match token with
    | .over | .bar => return (found, parts, text)
    | .closePart =>
      if depth ≠ 0 then return (found, parts, text)
      else if grammar.isLax then plain ')' rest
      else throw "Unmatched ) or \\)"
    | .plain c => plain c rest
    | .any => goOn (.character fun c => !grammar.byLine || c ≠ '\n') parts rest
    | .caret =>
      if isStart then
        readSequence grammar fuel depth parts true
          (.sequence found (.atStart grammar.byLine)) rest
      else if grammar.isExtended then anchored (.atStart grammar.byLine) rest
      else plain '^' rest
    | .dollar =>
      if grammar.isExtended || endsHere grammar rest then anchored (.atEnd grammar.byLine) rest
      else plain '$' rest
    | .brackets =>
      let (element, rest) ← readBrackets grammar rest
      goOn element parts rest
    | .openPart =>
      let number := parts.count + 1
      let (body, parts, rest) ←
        readEither grammar fuel (depth + 1) { parts with count := number } rest
      match Token.read grammar rest with
      | (.closePart, rest) =>
        goOn (.part number body) { parts with complete := number :: parts.complete } rest
      | _ => throw "Unmatched ( or \\("
    | .times _ _ written =>
      if !grammar.isExtended then plain written rest
      else if grammar.isStrict then throw nothingBefore
      else goOn .empty (parts.warn (String.singleton written)) text
    | .bounds =>
      if grammar.isStrict then throw nothingBefore
      else if !grammar.isExtended then plain '\x7b' rest
      else
        match Bounds.read grammar rest with
        | .proper _ _ _ => goOn .empty (parts.warn "\x7b...\x7d") text
        | _ => plain '\x7b' rest
    | .again number =>
      if !parts.complete.contains number then throw "Invalid back reference"
      else goOn (.again number false) parts rest
    | .special (.character fits) => goOn (.character fits) parts rest
    | .special pattern => anchored pattern rest
    | .backslash => throw "Trailing backslash"

end

/-- Reads a pattern, and tells what looks wrong with it. -/
def readWarning (grammar : Grammar) (text : Raw) : Except String (TextPattern × List String) := do
  let (pattern, parts, _) ← readEither grammar (2 * text.length + 2) 0 {} text
  return (pattern, parts.warnings.reverse)

def read (grammar : Grammar) (text : Raw) : Except String TextPattern := do
  return (← readWarning grammar text).1

end WheelInstaller.Utility.TextPattern
