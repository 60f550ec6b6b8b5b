import WheelInstaller.Shell.Field
import WheelInstaller.Text.Wildcard
import WheelInstaller.Shell.Running
import WheelInstaller.Shell.Arithmetic

/-! What words come to. Whoever expands words has to know how to get the output of a script; this is
`capture` everywhere. -/

namespace WheelInstaller.Shell

open Process Running

/-! ### Fields as patterns for paths -/

/-- The steps of a pattern between slashes, after those found already and the characters of the
current one; the latest of both come first. -/
def stepsFrom (found : List Raw) (current : Raw) : Raw → List Raw
  | [] => (current.reverse :: found).reverse
  | '/' :: rest | '\\' :: '/' :: rest => stepsFrom (current.reverse :: found) [] rest
  | '\\' :: c :: rest => stepsFrom found (c :: '\\' :: current) rest
  | c :: rest => stepsFrom found (c :: current) rest

/-- A bracket inside a step, from the text after it: it needs a closing one. -/
def closesSet : Raw → Bool
  | '!' :: rest => closes rest
  | rest => closes rest
where
  /-- A closing bracket comes after at least one character. -/
  closes : Raw → Bool
    | '\\' :: _ :: ']' :: _ => true
    | '\\' :: _ :: rest => closes rest
    | _ :: ']' :: _ => true
    | _ :: rest => closes rest
    | [] => false

/-- The step is no plain name. -/
def isPattern : Raw → Bool
  | '*' :: _ | '?' :: _ => true
  | '[' :: rest => closesSet rest || isPattern rest
  | '\\' :: _ :: rest => isPattern rest
  | _ :: rest => isPattern rest
  | [] => false

/-- A step without the backslashes that protect characters. -/
def unprotect : Raw → Raw
  | '\\' :: c :: rest => c :: unprotect rest
  | c :: rest => c :: unprotect rest
  | [] => []

/-- Something is at a path, be it a link that leads nowhere. -/
def isThere (path : Raw) : Running Bool := do
  match ← ask (.status ⟨Raw.toString path⟩ false) with
  | .ok _ => return true
  | .error _ => return false

def namesIn (directory : Raw) (hidden : Bool) : Running (List Raw) := do
  let path := if directory.isEmpty then ['.'] else directory
  match ← ask (.list ⟨Raw.toString path⟩) with
  | .error _ => return []
  | .ok names =>
    return if hidden then ['.'] :: ['.', '.'] :: names
      else names.filter fun name => name.head? ≠ some '.'

mutual

/-- Adds the paths that fit steps, after a path that was found already. -/
def addFitting : (fuel : Nat) → List Raw → (path : Raw) → (found : List Raw) →
    Running (List Raw)
  | 0, _, _, found => return found
  | fuel + 1, steps, path, found => do
    let plain := steps.takeWhile fun step => !isPattern step
    let known := Raw.join ['/'] (plain.map unprotect)
    match steps.drop plain.length with
    | [] =>
      let whole := path ++ known
      return if !path.isEmpty && (← isThere whole) then whole :: found else found
    | step :: rest =>
      let directory := if plain.isEmpty then path else path ++ known ++ ['/']
      let isHidden : Bool := match step with
        | '\\' :: c :: _ => c = '.'
        | step => step.head? = some '.'
      let names ← namesIn directory isHidden
      addEach fuel rest directory (names.filter (Wildcard.read step).fits) found

/-- Adds the paths that fit steps below the given names in a directory. -/
def addEach : (fuel : Nat) → (rest : List Raw) → (directory : Raw) → (names : List Raw) →
    (found : List Raw) → Running (List Raw)
  | 0, _, _, _, found | _ + 1, _, _, [], found => return found
  | fuel + 1, rest, directory, name :: names, found => do
    let path := directory ++ name
    let found ←
      if rest.isEmpty then pure (path :: found) else addFitting fuel rest (path ++ ['/']) found
    addEach fuel rest directory names found

end

/-- The paths that a field stands for. A pattern that fits nothing stands for itself. -/
def pathsOf (field : List Glyph) : Running (List Raw) := do
  let special (glyph : Glyph) : Bool := match glyph with
    | .plain c => c = '*' || c = '?' || c = '['
    | _ => false
  if !field.any special || (← get).has .noglob then return [textOf field]
  else
    let found ← addFitting forever (stepsFrom [] [] (patternText field)) [] []
    if found.isEmpty then return [textOf field]
    else return found.mergeSort Raw.isAtMost

/-! ### Words -/

/-- How a word is expanded. -/
structure Manner where
  /-- It is cut into fields, and these may be patterns for paths. -/
  splits : Bool := false
  /-- It is a pattern. -/
  isPattern : Bool := false
  /-- A tilde at its start stands for a home directory. -/
  tilde : Bool := false
  /-- It is an assignment, in which tildes may stand elsewhere as well. -/
  assigns : Bool := false
  /-- The equals sign of the assignment is past. -/
  isValue : Bool := false
  quoted : Bool := false
  /-- It is a part of the value of a parameter. -/
  isInner : Bool := false

/-- What means nothing but itself is told apart. -/
def Manner.keeps (manner : Manner) : Bool :=
  manner.splits || manner.isPattern

/-- A text as glyphs. Between quotes, its characters mean nothing but themselves. -/
def Manner.glyphs (manner : Manner) (text : Raw) : List Glyph :=
  if manner.quoted && manner.keeps then
    text.map fun c => if c = '\\' || isControl c then .escaped c else .plain c
  else text.map .plain

def homes : List (String × String) := [
  ("root", "/root"), ("daemon", "/usr/sbin"), ("bin", "/bin"), ("sys", "/dev"), ("sync", "/bin"),
  ("games", "/usr/games"), ("man", "/var/cache/man"), ("lp", "/var/spool/lpd"),
  ("mail", "/var/mail"), ("news", "/var/spool/news"), ("uucp", "/var/spool/uucp"),
  ("proxy", "/bin"), ("www-data", "/var/www"), ("backup", "/var/backups"), ("list", "/var/list"),
  ("irc", "/run/ircd"), ("nobody", "/nonexistent")]

/-- The name after a tilde, and the word after the name, unless something special is in it. -/
def takeUser? (assigns : Bool) : Word → (found : Raw) → Option (Raw × Word)
  | [], found => some (found.reverse, [])
  | .close :: rest, found => some (found.reverse, .close :: rest)
  | .plain c :: rest, found =>
    if c = '/' || (c = ':' && assigns) then some (found.reverse, .plain c :: rest)
    else takeUser? assigns rest (c :: found)
  | _, _ => none

/-- The home directory that a tilde at the start of a word stands for, and the word after it. -/
def takeTilde? (state : State) (manner : Manner) (word : Word) : Option (Raw × Word) :=
  match word with
  | .plain '~' :: rest => do
    let (user, rest) ← takeUser? manner.assigns rest []
    let home ←
      if user.isEmpty then state.value? "HOME".toList
      else (homes.find? fun (name, _) => name.toList = user).map (·.2.toList)
    return (home, rest)
  | _ => none

def State.parameter? (state : State) (name : Raw) : Option Raw :=
  match name with
  | ['$'] => some (Raw.ofNat state.own)
  | ['?'] => some (Raw.ofNat state.status)
  | ['#'] => some (Raw.ofNat state.arguments.length)
  | ['!'] => state.background.map Raw.ofNat
  | ['-'] => some state.letters
  | name =>
    if name.head?.any Char.isDigit then
      match Raw.digitsValue name with
      | 0 => some state.name
      | place + 1 => state.arguments[place]?
    else state.value? name

/-- What stands between the arguments where all of them are wanted as one text. -/
def State.argumentSeparator (state : State) (manner : Manner) (isEach : Bool) : Raw :=
  if isEach && manner.quoted && manner.splits then [argumentEnd]
  else
    match state.separators? with
    | none => [' ']
    | some separators =>
      if manner.splits && !manner.quoted then [argumentEnd] else separators.take 1

def State.parameterText? (state : State) (manner : Manner) (name : Raw) : Option Raw :=
  match name with
  | ['@'] => some (Raw.join (state.argumentSeparator manner true) state.arguments)
  | ['*'] => some (Raw.join (state.argumentSeparator manner false) state.arguments)
  | name => state.parameter? name

/-- The length of a parameter's value. What stands between arguments counts unless there are no
separators. -/
def State.lengthOf (state : State) (value : Raw) : Nat :=
  if state.separators? = some [] then (value.filter (· ≠ argumentEnd)).length else value.length

/-- Where the value of a parameter is cut. -/
def State.cutOf (state : State) (manner : Manner) (name : Raw) : Cut :=
  if !manner.quoted then .atSeparators
  else if name = ['@'] && !state.arguments.isEmpty then .atArguments
  else .never

/-- The text of arguments without what a pattern fits at its start, which has to lie in the first
argument. What fits all of that fits all arguments. -/
def cutArgumentsStart (pattern : Wildcard) (longest : Bool) (text : Raw) : Raw :=
  let first := text.takeWhile (· ≠ argumentEnd)
  let rest := text.drop first.length
  if longest && !rest.isEmpty && pattern.fits first then []
  else (pattern.cutStart? longest first).getD first ++ rest

/-- The text up to something at the end of an argument that a pattern fits, looked for from the last
argument on. The latest argument comes first. -/
def cutLastArgument? (pattern : Wildcard) : List Raw → Option Raw
  | [] => none
  | last :: before =>
    match pattern.cutEnd? false last with
    | some kept => some (Raw.join [argumentEnd] (kept :: before).reverse)
    | none => cutLastArgument? pattern before

/-- The text of arguments up to something at the end of an argument that a pattern fits. The longest
such thing is looked for in the first argument only. -/
def cutArgumentsEnd (pattern : Wildcard) (longest : Bool) (text : Raw) : Raw :=
  let cut :=
    if longest then pattern.cutEnd? true (text.takeWhile (· ≠ argumentEnd))
    else cutLastArgument? pattern (Raw.split argumentEnd text).reverse
  cut.getD text

def skipInner : (depth : Nat) → Word → Word
  | _, [] => []
  | 0, .close :: rest | 0, .sumEnd :: rest => rest
  | depth + 1, .close :: rest | depth + 1, .sumEnd :: rest => skipInner depth rest
  | depth, .parameter _ adjustment _ :: rest =>
    skipInner (if adjustment = .value then depth else depth + 1) rest
  | depth, .sum :: rest => skipInner (depth + 1) rest
  | depth, _ :: rest => skipInner depth rest

/-- The plain characters at the start of a word as glyphs, and the word after them. -/
def takePlain : Word → (found : List Glyph) → List Glyph × Word
  | .plain c :: rest, found => takePlain rest (.plain c :: found)
  | word, found => (found.reverse, word)

/-- The plain characters at the start of an assignment as glyphs, up to one after which a tilde may
stand, whether the equals sign is past, and the word after them. -/
def takeAssigned : (isValue : Bool) → Word → (found : List Glyph) → List Glyph × Bool × Word
  | isValue, .plain c :: rest, found =>
    if c = ':' then ((.plain c :: found).reverse, isValue, rest)
    else if c = '=' && !isValue then ((.plain c :: found).reverse, true, rest)
    else takeAssigned isValue rest (.plain c :: found)
  | isValue, word, found => (found.reverse, isValue, word)

def withoutLastLines (text : Raw) : Raw :=
  Raw.dropEndWhile (· = '\n') text

def calculate (text : Raw) : Running Int := do
  let state ← get
  let (result, assigned) := Arithmetic.evaluate text state.value? state.isFixed
  Running.each (fun (name, value) => assign name value) assigned.reverse
  match result with
  | .ok value => return value
  | .error .overflow =>
    let (own, _) ← ask .numbers
    let _ ← ask (.kill own 8)
    return 0
  | .error fault => fail (fault.message text)

/-- Complains about a parameter without a value, in the words given or the usual ones. -/
def complainUnset {α : Type} (name : Raw) (words : Option Raw) (strict : Bool) : Running α :=
  let usual := "parameter not set".toList ++ if strict then " or null".toList else []
  fail (name ++ ": ".toList ++ words.getD usual)

mutual

/-- Adds what symbols come to, up to the end of the word or of the part of it. Of the segments, the
latest comes first. Tells the symbols after the part. -/
def expandSymbols (capture : Command → Running Raw) : (fuel : Nat) → Manner →
    (inQuotes : Bool) → Word → List Segment → Running (List Segment × Word)
  | 0, _, _, word, found => return (found, word)
  | fuel + 1, manner, inQuotes, word, found => do
    let inside := { manner with quoted := manner.quoted || inQuotes }
    let cut := if manner.isInner && !inside.quoted then .atSeparators else .never
    match word with
    | [] => return (found, [])
    | .close :: rest | .sumEnd :: rest => return (found, rest)
    | .plain _ :: _ =>
      if manner.assigns then
        let (glyphs, isValue, rest) := takeAssigned manner.isValue word []
        let manner := { manner with isValue }
        let found := ⟨glyphs, cut⟩ :: found
        let mayHaveTilde : Bool := match glyphs.getLast? with
          | some (.plain c) => c = '=' || c = ':'
          | _ => false
        if mayHaveTilde then expandTilde capture fuel manner inQuotes rest found
        else expandSymbols capture fuel manner inQuotes rest found
      else
        let (glyphs, rest) := takePlain word []
        expandSymbols capture fuel manner inQuotes rest (⟨glyphs, cut⟩ :: found)
    | .escaped c :: rest =>
      let glyph := if manner.keeps then .escaped c else .plain c
      expandSymbols capture fuel manner inQuotes rest (⟨[glyph], .never⟩ :: found)
    | .quote :: rest =>
      match inQuotes, rest with
      | false, .parameter ['@'] .value false :: .quote :: rest =>
        let (found, _) ← expandParameter capture fuel { inside with quoted := true } ['@'] .value
          false [] found
        expandSymbols capture fuel manner inQuotes rest found
      | _, _ =>
        let found := if manner.keeps then ⟨[.quote], .never⟩ :: found else found
        expandSymbols capture fuel manner (!inQuotes) rest found
    | .parameter name adjustment strict :: rest =>
      let (found, rest) ← expandParameter capture fuel inside name adjustment strict rest found
      expandSymbols capture fuel manner inQuotes rest found
    | .output script :: rest =>
      let text ← match script with
        | some script => capture script
        | none => pure []
      let glyphs := inside.glyphs (withoutLastLines (text.filter (· ≠ '\x00')))
      let cut := if inside.quoted then .never else .atSeparators
      expandSymbols capture fuel manner inQuotes rest (⟨glyphs, cut⟩ :: found)
    | .sum :: rest =>
      let (parts, rest) ← expandSymbols capture fuel {} false rest []
      let value ← calculate (textOfSegments parts)
      let cut := if inside.quoted then .never else .atSeparators
      expandSymbols capture fuel manner inQuotes rest
        (⟨inside.glyphs (Raw.ofInt value), cut⟩ :: found)

/-- Does the same with a word that may start with a tilde. -/
def expandTilde (capture : Command → Running Raw) : (fuel : Nat) → Manner →
    (inQuotes : Bool) → Word → List Segment → Running (List Segment × Word)
  | 0, _, _, word, found => return (found, word)
  | fuel + 1, manner, inQuotes, word, found => do
    match takeTilde? (← get) manner word with
    | some (home, rest) =>
      let glyphs := { manner with quoted := true }.glyphs home
      expandSymbols capture fuel manner inQuotes rest (⟨glyphs, .never⟩ :: found)
    | none => expandSymbols capture fuel manner inQuotes word found

/-- Adds what a parameter comes to. The symbols are those after the parameter. -/
def expandParameter (capture : Command → Running Raw) : (fuel : Nat) → Manner → (name : Raw) →
    Adjustment → (strict : Bool) → Word → List Segment → Running (List Segment × Word)
  | 0, _, _, _, _, word, found => return (found, word)
  | fuel + 1, manner, name, adjustment, strict, word, found => do
    if adjustment = .malformed then fail "Bad substitution".toList
    let state ← get
    let value := match state.parameterText? manner name with
      | some [] => if strict then none else some []
      | value => value
    let segment (text : Raw) : Segment := ⟨manner.glyphs text, state.cutOf manner name⟩
    let demand : Running Unit := do
      if value.isNone && state.has .nounset then complainUnset name none false
    match adjustment, value with
    | .malformed, _ => return (found, word)
    | .value, none =>
      demand
      return (found, word)
    | .value, some text => return (segment text :: found, word)
    | .orElse, none | .ifGiven, some _ =>
      expandTilde capture fuel { manner with tilde := true, isInner := true } false word found
    | .ifGiven, none => return (segment [] :: found, skipInner 0 word)
    | .orElse, some text | .orAssign, some text | .orComplain, some text =>
      return (segment text :: found, skipInner 0 word)
    | .orAssign, none =>
      let (parts, rest) ← expandTilde capture fuel { tilde := true } false word []
      assign name (textOfSegments parts)
      expandParameter capture fuel manner name .value false [] found >>= fun (found, _) =>
        return (found, rest)
    | .orComplain, none =>
      let isUsual : Bool := match word with
        | .close :: _ => true
        | _ => false
      let (parts, _) ← expandTilde capture fuel { tilde := true } false word []
      complainUnset name (if isUsual then none else some (textOfSegments parts)) strict
    | .length, value =>
      demand
      return (segment (Raw.ofNat (state.lengthOf (value.getD []))) :: found, word.tail)
    | .cutEnd _, none | .cutStart _, none =>
      demand
      return (found, skipInner 0 word)
    | .cutEnd longest, some text =>
      let (parts, rest) ← expandTilde capture fuel { tilde := true, isPattern := true } false word []
      let pattern := Wildcard.read (patternText (parts.reverse.flatMap (·.glyphs)))
      return (segment (cutArgumentsEnd pattern longest text) :: found, rest)
    | .cutStart longest, some text =>
      let (parts, rest) ← expandTilde capture fuel { tilde := true, isPattern := true } false word []
      let pattern := Wildcard.read (patternText (parts.reverse.flatMap (·.glyphs)))
      return (segment (cutArgumentsStart pattern longest text) :: found, rest)

end

/-- The segments that a word comes to, of which the latest comes first. -/
def expandWord (capture : Command → Running Raw) (manner : Manner) (word : Word) :
    Running (List Segment) := do
  let (found, _) ←
    if manner.tilde then expandTilde capture forever manner false word []
    else expandSymbols capture forever manner false word []
  return found

/-- The text that a word comes to, if it stays whole. -/
def expandText (capture : Command → Running Raw) (manner : Manner) (word : Word) :
    Running Raw := do
  return textOfSegments (← expandWord capture manner word)

def expandPattern (capture : Command → Running Raw) (word : Word) : Running Wildcard := do
  let found ← expandWord capture { tilde := true, isPattern := true } word
  return Wildcard.read (patternText (found.reverse.flatMap (·.glyphs)))

def pathsOfAll : List (List Glyph) → (found : List (List Raw)) → Running (List Raw)
  | [], found => return found.reverse.flatten
  | field :: rest, found => do
    let paths ← pathsOf field
    pathsOfAll rest (paths :: found)

def expandFields (capture : Command → Running Raw) (word : Word) : Running (List Raw) := do
  let found ← expandWord capture { tilde := true, splits := true } word
  let separators := (← get).separators?.getD usualSeparators
  pathsOfAll (cutFields separators none found.reverse) []

end WheelInstaller.Shell
