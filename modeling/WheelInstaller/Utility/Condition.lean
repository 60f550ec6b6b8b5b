import WheelInstaller.Process.Activity
import WheelInstaller.Utility.Printing

/-! What `test` says. The command of the shell and the program agree on every condition that makes
sense, but read and refuse others in their own ways. What is known about files is looked up before. -/

namespace WheelInstaller.Utility.Condition

open Process

inductive Comparison where
  | same | different | before | after
  | equal | unequal | less | lessEqual | greater | greaterEqual
  /-- Of two files, by their age or identity. -/
  | newer | older | identical
deriving DecidableEq, Repr

def comparison? (dialect : Dialect) (word : Raw) : Option Comparison :=
  match word with
  | ['='] => some .same
  | ['=', '='] => if dialect = .program then some .same else none
  | ['!', '='] => some .different
  | ['<'] => if dialect = .shell then some .before else none
  | ['>'] => if dialect = .shell then some .after else none
  | ['-', 'e', 'q'] => some .equal
  | ['-', 'n', 'e'] => some .unequal
  | ['-', 'l', 't'] => some .less
  | ['-', 'l', 'e'] => some .lessEqual
  | ['-', 'g', 't'] => some .greater
  | ['-', 'g', 'e'] => some .greaterEqual
  | ['-', 'n', 't'] => some .newer
  | ['-', 'o', 't'] => some .older
  | ['-', 'e', 'f'] => some .identical
  | _ => none

def question? (dialect : Dialect) (word : Raw) : Option Char :=
  match word with
  | ['-', letter] =>
    if "bcdefghkLnOGprsStuwxz".toList.contains letter then some letter
    else if dialect = .program && letter = 'N' then some letter
    else none
  | _ => none

/-- What is known about files: whether links are followed is the second argument. -/
abbrev Known := Raw → Bool → Option Status

/-- The outcome of a condition, or what there is to complain about. -/
abbrev Verdict := Except Raw

/-- The number that a text is. That of the shell has to fit in 64 bits. -/
def integer (dialect : Dialect) (text : Raw) : Verdict Int :=
  let isBlank (c : Char) : Bool :=
    if dialect = .shell then Raw.isSpace c else c = ' ' || c = '\t'
  let (negative, digits) := Printing.takeSign (text.dropWhile isBlank)
  let run := digits.takeWhile Char.isDigit
  let value : Int := Raw.digitsValue run
  let value := if negative then -value else value
  let fits := dialect = .program ||
    (-0x8000000000000000 ≤ value && value ≤ 0x7fffffffffffffff)
  if run.isEmpty || !fits || !((digits.drop run.length).dropWhile isBlank).isEmpty then
    match dialect with
    | .shell => .error ("Illegal number: ".toList ++ text)
    | .program => .error ("invalid integer ".toList ++ quoteWord text)
  else .ok value

def compareNumbers (comparison : Comparison) (left right : Int) : Bool :=
  match comparison with
  | .unequal => left ≠ right
  | .less => left < right
  | .lessEqual => left ≤ right
  | .greater => left > right
  | .greaterEqual => left ≥ right
  | _ => left = right

/-- One file is newer than another. To the program, a file is newer than none. -/
def isNewer (dialect : Dialect) (first second : Option Status) : Bool :=
  match first, second with
  | some first, some second => second.modified < first.modified
  | some _, none => dialect = .program
  | none, _ => false

def compareTexts (dialect : Dialect) (known : Known) (comparison : Comparison)
    (left right : Raw) : Verdict Bool := do
  match comparison with
  | .same => return left = right
  | .different => return left ≠ right
  | .before => return Raw.order left right = .lt
  | .after => return Raw.order left right = .gt
  | .newer => return isNewer dialect (known left true) (known right true)
  | .older => return isNewer dialect (known right true) (known left true)
  | .identical =>
    match known left true, known right true with
    | some first, some second => return first.identity = second.identity
    | _, _ => return false
  | comparison =>
    let first ← integer dialect left
    let second ← integer dialect right
    return compareNumbers comparison first second

/-- The answer to a question about a text, which is a path in most of them. -/
def answer (dialect : Dialect) (known : Known) (letter : Char) (text : Raw) : Verdict Bool := do
  match letter with
  | 'n' => return !text.isEmpty
  | 'z' => return text.isEmpty
  | 't' => do
    let _ ← integer dialect text
    return false
  | 'h' | 'L' => return (known text false).any (·.kind = .link)
  | letter =>
    match known text true with
    | none => return false
    | some status =>
      match letter with
      | 'd' => return status.kind = .directory
      | 'f' => return status.kind = .file
      | 'p' => return status.kind = .pipe
      | 'c' => return status.kind = .device
      | 's' => return status.size ≠ 0
      | 'x' => return status.kind = .directory || status.mode &&& 0o111 ≠ 0
      | 'u' => return status.mode &&& 0o4000 ≠ 0
      | 'g' => return status.mode &&& 0o2000 ≠ 0
      | 'k' => return status.mode &&& 0o1000 ≠ 0
      | 'b' | 'S' | 'N' => return false
      | _ => return true

/-- The word at a position has a meaning there as a question: it is not itself compared. -/
def asks (words : List Raw) (position : Nat) : Bool :=
  match words[position]?, words[position + 1]?, words[position + 2]? with
  | some word, some next, some _ =>
    (question? .shell word).isSome && (comparison? .shell next).isNone
  | some word, some _, none => (question? .shell word).isSome
  | _, _, _ => false

mutual

/-- Alternatives from a position on, and the position of the last word of them. -/
def alternatives (known : Known) (words : List Raw) : (fuel : Nat) → Nat → Verdict (Bool × Nat)
  | 0, position => .ok (false, position)
  | fuel + 1, position => do
    let (first, last) ← conjunction known words fuel position
    if words[last + 1]? = some ['-', 'o'] then
      let (second, last) ← alternatives known words fuel (last + 2)
      return (first || second, last)
    else return (first, last)

/-- Conditions that all have to hold. -/
def conjunction (known : Known) (words : List Raw) : (fuel : Nat) → Nat → Verdict (Bool × Nat)
  | 0, position => .ok (false, position)
  | fuel + 1, position => do
    let (first, last) ← negation known words fuel position
    if words[last + 1]? = some ['-', 'a'] then
      let (second, last) ← conjunction known words fuel (last + 2)
      return (first && second, last)
    else return (first, last)

/-- A condition, which may be negated. -/
def negation (known : Known) (words : List Raw) : (fuel : Nat) → Nat → Verdict (Bool × Nat)
  | 0, position => .ok (false, position)
  | fuel + 1, position => do
    if words[position]? = some ['!'] then
      if position + 1 < words.length then
        let (value, last) ← negation known words fuel (position + 1)
        return (!value, last)
      else return (true, position)
    else primary known words fuel position

def primary (known : Known) (words : List Raw) : (fuel : Nat) → Nat → Verdict (Bool × Nat)
  | 0, position => .ok (false, position)
  | fuel + 1, position => do
    match words[position]? with
    | none => return (false, position)
    | some word =>
      if word = ['('] && position + 1 < words.length then
        if words[position + 1]? = some [')'] then return (false, position + 1)
        else
          let (value, last) ← alternatives known words fuel (position + 1)
          if words[last + 1]? = some [')'] then return (value, last + 1)
          else .error "closing paren expected".toList
      else if asks words position then
        let letter := (question? .shell word).getD 'n'
        return (← answer .shell known letter (words.getD (position + 1) []), position + 1)
      else
        match (words[position + 1]?).bind (comparison? .shell), words[position + 2]? with
        | some comparison, some right =>
          return (← compareTexts .shell known comparison word right, position + 2)
        | some _, none => .error (words.getD (position + 1) [] ++ ": argument expected".toList)
        | none, _ => return (!word.isEmpty, position)

end

/-- The condition that the shell reads, after words that need no closer look. -/
def readWhole (known : Known) (words : List Raw) : Verdict Bool := do
  let (value, last) ← alternatives known words (4 * words.length + 8) 0
  match words[last]?, words[last + 1]? with
  | some word, some _ =>
    let subject := if word.isEmpty then [] else word ++ ": ".toList
    .error (subject ++ "unexpected operator".toList)
  | _, _ => return value

/-- What the command of the shell says. Three or four words are looked at more closely. -/
def shell (known : Known) : (fuel : Nat) → List Raw → Verdict Bool
  | _, [] => .ok false
  | 0, _ => .ok false
  | fuel + 1, words =>
    match words with
    | [left, middle, right] =>
      match comparison? .shell middle with
      | some comparison => compareTexts .shell known comparison left right
      | none =>
        if left = ['('] && right = [')'] then readWhole known [middle]
        else if left = ['!'] then (shell known fuel [middle, right]).map (!·)
        else readWhole known words
    | [first, second, third, last] =>
      if first = ['('] && last = [')'] then readWhole known [second, third]
      else if first = ['!'] then (shell known fuel [second, third, last]).map (!·)
      else readWhole known words
    | words => readWhole known words

/-- A condition that the program has read, and the words after it. -/
abbrev Judged := Verdict (Bool × List Raw)

/-- The complaint that words are missing at the end of all. -/
def missing {α : Type} (all : List Raw) : Verdict α :=
  .error ("missing argument after ".toList ++ quoteWord (all.getLast?.getD []))

def judgeQuestion (known : Known) (all : List Raw) : List Raw → Judged
  | word :: rest =>
    match question? .program word, rest with
    | none, _ => .error (quoteWord word ++ ": unary operator expected".toList)
    | some _, [] => missing all
    | some letter, text :: rest => do return (← answer .program known letter text, rest)
  | [] => missing all

def lengthOf (text : Raw) : Raw :=
  Raw.ofNat text.length

/-- The outcome of a comparison at the start of words, each side of which may be the length of a
text. -/
def judgeComparison (known : Known) (all : List Raw) (words : List Raw) : Judged := do
  let (left, rest) := match words with
    | ['-', 'l'] :: text :: middle :: rest =>
      if (comparison? .program middle).isSome then (lengthOf text, middle :: rest)
      else (['-', 'l'], text :: middle :: rest)
    | left :: rest => (left, rest)
    | [] => ([], [])
  match rest with
  | middle :: rest =>
    let comparison := (comparison? .program middle).getD .same
    match rest with
    | ['-', 'l'] :: text :: rest =>
      return (← compareTexts .program known comparison left (lengthOf text), rest)
    | right :: rest => return (← compareTexts .program known comparison left right, rest)
    | [] => missing all
  | [] => missing all

/-- The second of several words is a comparison. -/
def compares (words : List Raw) : Bool :=
  match words with
  | _ :: middle :: _ :: _ => (comparison? .program middle).isSome
  | _ => false

def looksLikeQuestion : Raw → Bool
  | ['-', _] => true
  | _ => false

def judgeTwo (known : Known) (all : List Raw) (words : List Raw) : Judged :=
  match words with
  | first :: second :: rest =>
    if first = ['!'] then .ok (second.isEmpty, rest)
    else if looksLikeQuestion first then judgeQuestion known all words
    else missing all
  | _ => missing all

mutual

def judgeOr (known : Known) (all : List Raw) : (fuel : Nat) → List Raw → Judged
  | 0, words => .ok (false, words)
  | fuel + 1, words => do
    let (first, rest) ← judgeAnd known all fuel words
    match rest with
    | ['-', 'o'] :: rest =>
      let (second, rest) ← judgeOr known all fuel rest
      return (first || second, rest)
    | rest => return (first, rest)

/-- Conditions that all have to hold. -/
def judgeAnd (known : Known) (all : List Raw) : (fuel : Nat) → List Raw → Judged
  | 0, words => .ok (false, words)
  | fuel + 1, words => do
    let (first, rest) ← judgeTerm known all fuel words
    match rest with
    | ['-', 'a'] :: rest =>
      let (second, rest) ← judgeAnd known all fuel rest
      return (first && second, rest)
    | rest => return (first, rest)

/-- A single condition, which may be negated. -/
def judgeTerm (known : Known) (all : List Raw) : (fuel : Nat) → List Raw → Judged
  | 0, words => .ok (false, words)
  | fuel + 1, words => do
    match words with
    | [] => missing all
    | ['!'] :: [] => missing all
    | ['!'] :: rest =>
      let (value, rest) ← judgeTerm known all fuel rest
      return (!value, rest)
    | ['('] :: [] => missing all
    | ['('] :: rest =>
      let inner := rest.tail.takeWhile (· ≠ [')'])
      let count := if inner.length < 4 then inner.length + 1 else rest.length
      let (value, rest) ← judge known all fuel count rest
      match rest with
      | [] => .error (quoteWord [')'] ++ " expected".toList)
      | [')'] :: rest => return (value, rest)
      | found :: _ =>
        .error (quoteWord [')'] ++ " expected, found ".toList ++ quoteWord found)
    | first :: rest =>
      let takesLength : Bool := match first, rest with
        | ['-', 'l'], _ :: middle :: _ :: _ => (comparison? .program middle).isSome
        | _, _ => false
      if takesLength || compares words then judgeComparison known all words
      else if looksLikeQuestion first then judgeQuestion known all words
      else return (!first.isEmpty, rest)

/-- What the program says about so many words. -/
def judge (known : Known) (all : List Raw) : (fuel count : Nat) → List Raw → Judged
  | 0, _, words => .ok (false, words)
  | fuel + 1, count, words => do
    match count, words with
    | 1, word :: rest => return (!word.isEmpty, rest)
    | 2, words => judgeTwo known all words
    | 3, words => judgeThree known all fuel words
    | 4, first :: second :: third :: last :: rest =>
      if first = ['!'] then
        let (value, rest) ← judgeThree known all fuel words.tail
        return (!value, rest)
      else if first = ['('] && last = [')'] then
        let (value, _) ← judgeTwo known all [second, third]
        return (value, rest)
      else judgeOr known all fuel words
    | _, words => judgeOr known all fuel words

def judgeThree (known : Known) (all : List Raw) : (fuel : Nat) → List Raw → Judged
  | 0, words => .ok (false, words)
  | fuel + 1, words => do
    match words with
    | first :: second :: third :: rest =>
      if (comparison? .program second).isSome then judgeComparison known all words
      else if first = ['!'] then
        let (value, rest) ← judgeTwo known all words.tail
        return (!value, rest)
      else if first = ['('] && third = [')'] then return (!second.isEmpty, rest)
      else if second = ['-', 'a'] || second = ['-', 'o'] || second = ['<'] || second = ['>'] then
        judgeOr known all fuel words
      else .error (quoteWord second ++ ": binary operator expected".toList)
    | _ => missing all

end

def program (known : Known) (words : List Raw) : Verdict Bool :=
  match words with
  | [] => .ok false
  | words => do
    let (value, rest) ← judge known words (4 * words.length + 8) words.length words
    match rest with
    | [] => return value
    | extra :: _ => .error ("extra argument ".toList ++ quoteWord extra)

def concernsFiles (words : List Raw) : Bool :=
  words.any fun word =>
    match word with
    | ['-', letter] => "bcdefghkLOGprsSuwxN".toList.contains letter
    | ['-', 'n', 't'] | ['-', 'o', 't'] | ['-', 'e', 'f'] => true
    | _ => false

/-- What is known about files, from a list of what was looked up. -/
def ofList (found : List (Raw × Bool × Status)) : Known :=
  fun name follow => (found.find? fun (known, followed, _) => known = name && followed = follow).map
    (·.2.2)

/-- The status for a verdict: complaints are a third way to end. -/
def statusOf : Verdict Bool → Nat
  | .ok true => 0
  | .ok false => 1
  | .error _ => 2

end WheelInstaller.Utility.Condition
