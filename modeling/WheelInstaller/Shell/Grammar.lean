import WheelInstaller.Shell.Level

/-! The grammar of scripts. Words can hold scripts, so words and commands are read together. `fuel`
bounds the steps of the readers. -/

namespace WheelInstaller.Shell

inductive Extent where
  /-- Those on one line. -/
  | line
  /-- Those up to a token that ends a list; there has to be one. -/
  | block
  /-- The same, but there may be none. -/
  | clause
deriving DecidableEq, Repr

def joined (first : Option Command) (second : Command) : Command :=
  match first with
  | none => second
  | some first => .sequence first second

/-- A command that is not waited for. -/
def inBackground (line : Nat) (command : Command) : Command :=
  match command with
  | .pipeline stages _ => .pipeline stages true
  | .redirected line body redirections => .background line body redirections
  | command => .background line command []

def specialNames : List String :=
  [".", ":", "break", "continue", "eval", "exec", "exit", "export", "local", "readonly", "return",
   "set", "shift", "times", "trap", "unset"]

def endingText (word : Word) : Raw :=
  word.filterMap fun
    | .plain c | .escaped c => some c
    | _ => none

/-- How a document ends, and whether tabs at the start of lines are dropped. -/
abbrev Ending := Raw × Bool

/-- Drops tabs; `c` is the first character. -/
def skipTabs : (rounds : Nat) → (c : Option Char) → Reading (Option Char)
  | 0, c => return c
  | rounds + 1, c => do if c = some '\t' then skipTabs rounds (← takeChar) else return c

/-- Reads the ending of a document, if it is on this line; `c` is the first character of the line.
Otherwise everything is put back but the first character, which is returned. -/
def skipEnding (ending : Ending) (c : Option Char) : Reading (Option Char) := do
  let first ← if ending.2 then skipTabs Process.forever c else pure c
  if ← matches? ending.1 first [] then
    countLine
    return none
  else return first
where
  /-- The rest of the line is the ending. If not, what was read after the first character is put back;
  the latest of that comes first. -/
  matches? : Raw → Option Char → List (Option Char) → Reading Bool
    | [], c, taken => do
      if c = some '\n' || c.isNone then return true
      else
        (c :: taken).dropLast.forM putBack
        return false
    | known :: rest, c, taken => do
      if c = some known then matches? rest (← takeChar) (c :: taken)
      else
        (c :: taken).dropLast.forM putBack
        return false

/-- What stands between here and a closing backquote, without the backslashes that protect
characters inside. -/
def takeBackquoted (quoted : Bool) : (rounds : Nat) → (found : Raw) → Reading Raw
  | 0, found => return found.reverse
  | rounds + 1, found => do
    match ← takeJoined with
    | some '\x60' => return found.reverse
    | some '\\' =>
      match ← takeChar with
      | none => fault "EOF in backquote substitution"
      | some c =>
        if c = '\\' || c = '\x60' || c = '$' || (quoted && c = '"') then
          takeBackquoted quoted rounds (c :: found)
        else takeBackquoted quoted rounds (c :: '\\' :: found)
    | none => fault "EOF in backquote substitution"
    | some c =>
      if c = '\n' then countLine
      takeBackquoted quoted rounds (c :: found)

/-- Reads the rest of a redirection; `arrow` is its first character. -/
def readArrow (arrow : Char) (descriptor : Option Nat) : Reading Token := do
  if arrow = '>' then
    let c ← takeJoined
    let target := descriptor.getD 1
    match c with
    | some '>' => return .redirect target (.file .append)
    | some '|' => return .redirect target (.file .overwrite)
    | some '&' => return .redirect target .copy
    | c =>
      putBack c
      return .redirect target (.file .output)
  else
    let c ← takeJoined
    let target := descriptor.getD 0
    match c with
    | some '<' =>
      let c ← takeJoined
      if c = some '-' then return .redirect target (.document true)
      else
        putBack c
        return .redirect target (.document false)
    | some '&' => return .redirect target .copy
    | some '>' => return .redirect target (.file .both)
    | c =>
      putBack c
      return .redirect target (.file .input)

/-- The descriptor that a text before an arrow names, if it can name one. -/
def descriptorOf? (found : Word) : Option (Option Nat) :=
  match found with
  | [] => some none
  | [.plain c] => if c.isDigit then some (some (c.toNat - '0'.toNat)) else none
  | _ => none

/-- Drops a comment, up to the end of the line. -/
def skipComment : (rounds : Nat) → Reading Unit
  | 0 => return ()
  | rounds + 1 => do
    let c ← takeChar
    if c = some '\n' || c.isNone then putBack c else skipComment rounds

/-- Takes one of two marks, depending on whether a character stands here. -/
def takeMark (c : Char) (double single : Mark) : Reading Token := do
  let after ← takeJoined
  if after = some c then return .mark double
  else
    putBack after
    return .mark single

structure Progress where
  levels : Levels
  /-- The latest symbol comes first. -/
  found : Word := []
  isQuoted : Bool := false

def Progress.add (progress : Progress) (symbol : Symbol) : Progress :=
  { progress with found := symbol :: progress.found }

def Progress.alter (progress : Progress) (change : Level → Level) : Progress :=
  { progress with levels := (change progress.levels.1, progress.levels.2) }

/-- The word is read to its end: nothing may be open there. -/
def Progress.finish (progress : Progress) (inDocument : Bool) : Reading Unit := do
  let level := progress.levels.1
  if level.style = .sum then fault "Missing '))'"
  if level.style ≠ .bare && !inDocument then fault "Unterminated quoted string"
  if level.braces ≠ 0 then fault "Missing '\x7d'"

def Progress.quote (progress : Progress) (inDocument : Bool) (isDouble : Bool) : Progress :=
  let progress :=
    if isDouble && progress.levels.1.braces ≠ 0 then
      progress.alter fun level => { level with innerQuotes := !level.innerQuotes }
    else progress
  if inDocument then progress else progress.add .quote

mutual

/-- Reads symbols up to the end of a word; `c` is the next character. Tells the character after the
word. -/
def readSymbols : (fuel : Nat) → (ending : Option Ending) → (startsLine : Bool) →
    (c : Option Char) → Progress → Reading (Option Char × Progress)
  | 0, _, _, c, progress => return (c, progress)
  | fuel + 1, ending, true, c, progress => do
    match ending with
    | some known => readSymbols fuel ending false (← skipEnding known c) progress
    | none => readSymbols fuel ending false c progress
  | fuel + 1, ending, false, c, progress => do
    let level := progress.levels.1
    let inDocument := ending.isSome
    let goOn (progress : Progress) : Reading (Option Char × Progress) := do
      let c ← if progress.levels.1.style = .single then takeChar else takeJoined
      readSymbols fuel ending false c progress
    let letter := c.getD ' '
    match level.style.role c with
    | .newLine =>
      if level.style = .bare && level.braces = 0 then return (c, progress)
      else
        countLine
        let c ← if level.style = .single then takeChar else takeJoined
        readSymbols fuel ending true c (progress.add (.plain letter))
    | .word => goOn (progress.add (.plain letter))
    | .control =>
      if !inDocument || level.isDouble || level.braces ≠ 0 then
        goOn (progress.add (.escaped letter))
      else goOn (progress.add (.plain letter))
    | .backslash =>
      match ← takeChar with
      | none => goOn (progress.add (.escaped '\\'))
      | some c =>
        let progress :=
          if level.protects inDocument c then progress else progress.add (.escaped '\\')
        goOn { progress.add (.escaped c) with isQuoted := true }
    | .singleQuote =>
      goOn ((progress.alter fun level => { level with style := .single }).quote inDocument false)
    | .doubleQuote =>
      let progress := progress.alter fun level => { level with style := .double, isDouble := true }
      goOn (progress.quote inDocument true)
    | .endQuote =>
      if inDocument && level.braces = 0 then goOn (progress.add (.plain letter))
      else
        let progress :=
          if level.doubleBraces = 0 then
            progress.alter fun level => { level with style := .bare, isDouble := false }
          else progress
        goOn ({ progress with isQuoted := true }.quote inDocument (letter = '"'))
    | .dollar =>
      let progress ← readDollar fuel progress
      goOn progress
    | .endBrace =>
      if !level.innerQuotes && level.braces ≠ 0 then
        goOn { progress.add .close with levels := progress.levels.leaveBraces }
      else goOn (progress.add (.plain letter))
    | .opening =>
      let progress := progress.alter fun level =>
        { level with parentheses := level.parentheses + 1 }
      goOn (progress.add (.plain letter))
    | .closing =>
      if level.parentheses ≠ 0 then
        let progress := progress.alter fun level =>
          { level with parentheses := level.parentheses - 1 }
        goOn (progress.add (.plain letter))
      else
        let after ← takeJoined
        if after = some ')' then
          goOn { progress.add .sumEnd with levels := progress.levels.leave }
        else
          putBack after
          goOn (progress.add (.plain letter))
    | .backquote =>
      if (← get).checks.ending then
        goOn { progress.add (.plain letter) with isQuoted := true }
      else
        let script ← takeBackquoted level.isDouble Process.forever []
        let before ← get
        set { before with
          text := script, isWhole := true, layers := [], spent := [], line := 1, announced := []
          isPutBack := false }
        let command ← readList fuel .clause none
        modify fun after =>
          { before with
            used := after.used, documents := after.documents, nextDocument := after.nextDocument
            isPutBack := false, checks := {} }
        goOn (progress.add (.output command))
    | .ended => return (c, progress)
    | .separator =>
      if level.braces = 0 then return (c, progress) else goOn (progress.add (.plain letter))

def readDollar : (fuel : Nat) → Progress → Reading Progress
  | 0, progress => return progress
  | fuel + 1, progress => do
    let c ← takeJoined
    let isSpecial (c : Char) : Bool :=
      c = '(' || c = '\x7b' || startsName c || isSpecialName c
    if (← get).checks.ending || !c.any isSpecial then
      putBack c
      return progress.add (.plain '$')
    else
      match c with
      | some '(' =>
        let after ← takeJoined
        if after = some '(' then
          let levels := progress.levels.enter { style := .sum, isDouble := true }
          return { progress.add .sum with levels }
        else
          putBack after
          let announced := (← get).announced
          modify fun reader => { reader with announced := [] }
          let command ← readList fuel .clause none
          let token ← takeToken fuel
          if token ≠ .mark .closing then expecting (.mark .closing)
          modify fun reader => { reader with announced }
          return progress.add (.output command)
      | some '\x7b' =>
        let written ← readBraced
        let progress := progress.add (.parameter written.name written.adjustment written.strict)
        if written.adjustment = .value && !written.strict then return progress
        else return { progress with levels := progress.levels.enterBraces written }
      | c =>
        let letter := c.getD ' '
        if startsName letter then
          let (name, after) ← takeNameFrom isNameChar Process.forever c []
          putBack after
          return progress.add (.parameter name .value false)
        else return progress.add (.parameter [letter] .value false)

/-- Reads the documents that were announced, after the end of the line. -/
def readDocuments : (fuel : Nat) → Reading Unit
  | 0 => return ()
  | fuel + 1 => do
    match (← get).announced with
    | [] => return ()
    | document :: others =>
      modify fun reader => { reader with announced := [] }
      let style : Style := if document.verbatim then .single else .double
      let c ← if document.verbatim then takeChar else takeJoined
      let (_, progress) ←
        readSymbols fuel (some (document.ending, document.dropTabs)) true c
          { levels := (Level.base style, []) }
      progress.finish true
      let word := progress.found.reverse
      modify fun reader =>
        { reader with
          announced := others, documents := (document.number, word) :: reader.documents
          word, isQuoted := progress.isQuoted }
      readDocuments fuel

/-- Reads the next token of the text, whatever it is taken for. -/
def scanToken : (fuel : Nat) → Reading Token
  | 0 => return .ended
  | fuel + 1 => do
    match ← takeJoined with
    | none => return .ended
    | some ' ' | some '\t' => scanToken fuel
    | some '#' =>
      skipComment Process.forever
      scanToken fuel
    | some '\n' =>
      countLine
      return .newLine
    | some '&' => takeMark '&' .andThen .ampersand
    | some '|' => takeMark '|' .orElse .pipe
    | some ';' => takeMark ';' .caseEnd .semicolon
    | some '(' => return .mark .opening
    | some ')' => return .mark .closing
    | c =>
      let (after, progress) ← readSymbols fuel none false c { levels := (Level.base .bare, []) }
      progress.finish false
      let arrow := if after = some '<' || after = some '>' then after else none
      match arrow, progress.isQuoted, descriptorOf? progress.found with
      | some arrow, false, some descriptor => readArrow arrow descriptor
      | _, _, _ =>
        putBack after
        modify fun reader =>
          { reader with word := progress.found.reverse, isQuoted := progress.isQuoted }
        return .word

/-- Takes the last token again or reads the next one. -/
def nextToken : (fuel : Nat) → Reading Token
  | 0 => return .ended
  | fuel + 1 => do
    let reader ← get
    if reader.isPutBack then
      set { reader with isPutBack := false }
      return reader.token
    else
      let token ← scanToken fuel
      modify fun reader => { reader with token }
      return token

/-- Skips the ends of lines; `token` is the last token. -/
def skipLines : (fuel : Nat) → (token : Token) → Reading Token
  | 0, token => return token
  | fuel + 1, token => do
    if token = .newLine then
      readDocuments fuel
      check {}
      skipLines fuel (← nextToken fuel)
    else return token

/-- Takes the next token for what the checks say. -/
def takeToken : (fuel : Nat) → Reading Token
  | 0 => return .ended
  | fuel + 1 => do takeChecked fuel (← get).checks

/-- Takes the next token for what the given checks say, or those that come up meanwhile. -/
def takeChecked : (fuel : Nat) → Checks → Reading Token
  | 0, _ => return .ended
  | fuel + 1, checks => do
    let token ← nextToken fuel
    let token ← if checks.newLines then skipLines fuel token else pure token
    let reader ← get
    let checks := { checks with
      newLines := checks.newLines || reader.checks.newLines
      keywords := checks.keywords || reader.checks.keywords
      aliases := checks.aliases || reader.checks.aliases }
    check {}
    match token, reader.isQuoted, bareText? reader.word with
    | .word, false, some text =>
      let name := String.ofList text
      let entry := reader.aliases.find? fun entry =>
        entry.name = text && !reader.used.contains text
      if checks.keywords && keywords.contains name then
        modify fun reader => { reader with token := .keyword name }
        return .keyword name
      else
        match if checks.aliases then entry else none with
        | some entry =>
          modify (·.enter entry)
          takeChecked fuel checks
        | none => return .word
    | token, _, _ => return token

/-- Reads a list of commands after those found already. -/
def readList : (fuel : Nat) → Extent → (found : Option Command) → Reading (Option Command)
  | 0, _, found => return found
  | fuel + 1, extent, found => do
    check { newLines := extent ≠ .line, keywords := true, aliases := true }
    match ← takeToken fuel with
    | .newLine =>
      readDocuments fuel
      return found
    | .ended =>
      endList fuel found
    | token =>
      putTokenBack
      if (extent = .clause || (extent = .block && found.isSome)) && token.endsList then
        return found
      let command ← readAndOr fuel
      let token ← takeToken fuel
      let line := (← get).line
      let command := if token = .mark .ampersand then inBackground line command else command
      let found := some (joined found command)
      match token with
      | .ended => endList fuel found
      | .newLine =>
        putTokenBack
        readList fuel extent found
      | .mark .ampersand | .mark .semicolon => readList fuel extent found
      | _ =>
        if extent = .line then unexpected
        else
          putTokenBack
          return found

def endList : (fuel : Nat) → (found : Option Command) → Reading (Option Command)
  | 0, found => return found
  | fuel + 1, found => do
    readDocuments fuel
    putTokenBack
    modify fun reader => { reader with token := .ended }
    return found

/-- Reads commands in a place where there have to be some. -/
def readBlock : (fuel : Nat) → Reading Command
  | 0 => unexpected
  | fuel + 1 => do
    match ← readList fuel .block none with
    | some command => return command
    | none => return .pipeline [] false

/-- Reads pipelines of which each depends on the success of those before. -/
def readAndOr : (fuel : Nat) → Reading Command
  | 0 => unexpected
  | fuel + 1 => do
    let first ← readPipeline fuel
    readMoreAndOr fuel first

def readMoreAndOr : (fuel : Nat) → (first : Command) → Reading Command
  | 0, first => return first
  | fuel + 1, first => do
    match ← takeToken fuel with
    | .mark .andThen =>
      check { newLines := true, keywords := true, aliases := true }
      let second ← readPipeline fuel
      readMoreAndOr fuel (.andThen first second)
    | .mark .orElse =>
      check { newLines := true, keywords := true, aliases := true }
      let second ← readPipeline fuel
      readMoreAndOr fuel (.orElse first second)
    | _ =>
      putTokenBack
      return first

def readPipeline : (fuel : Nat) → Reading Command
  | 0 => unexpected
  | fuel + 1 => do
    let token ← takeToken fuel
    let isNegated := token = .keyword "!"
    if isNegated then check { keywords := true, aliases := true } else putTokenBack
    let first ← readCommand fuel
    let stages ← readStages fuel
    let command := if stages.isEmpty then first else .pipeline (first :: stages) false
    return if isNegated then .negated command else command

def readStages : (fuel : Nat) → Reading (List Command)
  | 0 => return []
  | fuel + 1 => do
    if (← takeToken fuel) = .mark .pipe then
      check { newLines := true, keywords := true, aliases := true }
      let stage ← readCommand fuel
      return stage :: (← readStages fuel)
    else
      putTokenBack
      return []

def readCommand : (fuel : Nat) → Reading Command
  | 0 => unexpected
  | fuel + 1 => do
    let line := (← get).line
    match ← takeToken fuel with
    | .keyword "if" =>
      let command ← readBranch fuel
      readExactly fuel (.keyword "fi")
      readTrailer fuel line command
    | .keyword "while" =>
      let command ← readLoop fuel false
      readTrailer fuel line command
    | .keyword "until" =>
      let command ← readLoop fuel true
      readTrailer fuel line command
    | .keyword "for" =>
      let command ← readEach fuel line
      readTrailer fuel line command
    | .keyword "case" =>
      let command ← readChoice fuel line
      readTrailer fuel line command
    | .keyword "\x7b" =>
      let body ← readBlock fuel
      readExactly fuel (.keyword "\x7d")
      readTrailer fuel line body
    | .mark .opening =>
      let body ← readBlock fuel
      readExactly fuel (.mark .closing)
      let redirections ← readRedirections fuel
      return .subshell line body redirections
    | .word | .redirect _ _ =>
      putTokenBack
      readSimple fuel (← get).line true [] [] []
    | _ => unexpected

def readExactly : (fuel : Nat) → (wanted : Token) → Reading Unit
  | 0, _ => return ()
  | fuel + 1, wanted => do
    if (← takeToken fuel) ≠ wanted then expecting wanted

def readTrailer : (fuel line : Nat) → (command : Command) → Reading Command
  | 0, _, command => return command
  | fuel + 1, line, command => do
    let redirections ← readRedirections fuel
    return if redirections.isEmpty then command else .redirected line command redirections

/-- Reads redirections as long as there are any, where the next command does not start yet. -/
def readRedirections : (fuel : Nat) → Reading (List Redirection)
  | 0 => return []
  | fuel + 1 => do
    check { keywords := true, aliases := true }
    readMoreRedirections fuel

def readMoreRedirections : (fuel : Nat) → Reading (List Redirection)
  | 0 => return []
  | fuel + 1 => do
    match ← takeToken fuel with
    | .redirect descriptor arrow =>
      let redirection ← readRedirection fuel descriptor arrow
      return redirection :: (← readMoreRedirections fuel)
    | _ =>
      putTokenBack
      return []

def readRedirection : (fuel : Nat) → (descriptor : Nat) → Arrow → Reading Redirection
  | 0, descriptor, _ => return .copy descriptor []
  | fuel + 1, descriptor, arrow => do
    match arrow with
    | .document _ => check { ending := true }
    | _ => pure ()
    if (← takeToken fuel) ≠ .word then unexpected
    let reader ← get
    match arrow with
    | .file direction => return .file descriptor direction reader.word
    | .copy => return .copy descriptor reader.word
    | .document dropTabs =>
      let number := reader.nextDocument
      let announced : Announced := {
        number, ending := endingText reader.word, verbatim := reader.isQuoted, dropTabs }
      set { reader with
        announced := reader.announced ++ [announced], nextDocument := number + 1 }
      return .document descriptor number

/-- Reads assignments, words and redirections, after those found already, of which the latest come
first. An assignment or the name of the command may come next if `starts` says so. -/
def readSimple : (fuel line : Nat) → (starts : Bool) → (assignments words : List Word) →
    List Redirection → Reading Command
  | 0, line, _, assignments, words, redirections =>
    return .simple line assignments.reverse words.reverse redirections.reverse
  | fuel + 1, line, starts, assignments, words, redirections => do
    check { aliases := starts }
    let finish : Reading Command := do
      putTokenBack
      return .simple line assignments.reverse words.reverse redirections.reverse
    match ← takeToken fuel with
    | .word =>
      let word := (← get).word
      if starts && isAssignment word then
        readSimple fuel line starts (word :: assignments) words redirections
      else readSimple fuel line false assignments (word :: words) redirections
    | .redirect descriptor arrow =>
      let redirection ← readRedirection fuel descriptor arrow
      readSimple fuel line starts assignments words (redirection :: redirections)
    | .mark .opening =>
      match assignments, words, redirections with
      | [], [name], [] =>
        if (← takeToken fuel) ≠ .mark .closing then expecting (.mark .closing)
        match bareText? name with
        | none => fault "Bad function name"
        | some name =>
          if !isName name || specialNames.contains (String.ofList name) then
            fault "Bad function name"
          check { newLines := true, keywords := true, aliases := true }
          let start := (← get).line
          let body ← readCommand fuel
          return .define start name body
      | _, _, _ => finish
    | _ => finish

/-- Reads the rest of a conditional command, up to its last keyword. -/
def readBranch : (fuel : Nat) → Reading Command
  | 0 => unexpected
  | fuel + 1 => do
    let condition ← readBlock fuel
    readExactly fuel (.keyword "then")
    let yes ← readBlock fuel
    match ← takeToken fuel with
    | .keyword "elif" =>
      let no ← readBranch fuel
      return .branch condition yes (some no)
    | .keyword "else" =>
      let no ← readBlock fuel
      return .branch condition yes (some no)
    | _ =>
      putTokenBack
      return .branch condition yes none

def readLoop : (fuel : Nat) → (isUntil : Bool) → Reading Command
  | 0, _ => unexpected
  | fuel + 1, isUntil => do
    let condition ← readBlock fuel
    readExactly fuel (.keyword "do")
    let body ← readBlock fuel
    readExactly fuel (.keyword "done")
    return .loop isUntil condition body

/-- Reads the rest of a loop over words. -/
def readEach : (fuel line : Nat) → Reading Command
  | 0, _ => unexpected
  | fuel + 1, line => do
    let token ← takeToken fuel
    let reader ← get
    match token, reader.isQuoted, bareText? reader.word with
    | .word, false, some name =>
      if !isName name then fault "Bad for loop variable"
      check { newLines := true, keywords := true, aliases := true }
      let token ← takeToken fuel
      let words ←
        if token = .keyword "in" then readWords fuel
        else
          if token ≠ .mark .semicolon then putTokenBack
          pure [allArguments]
      check { newLines := true, keywords := true, aliases := true }
      readExactly fuel (.keyword "do")
      let body ← readBlock fuel
      readExactly fuel (.keyword "done")
      return .each line name words body
    | _, _, _ => fault "Bad for loop variable"

/-- Reads words up to the end of the line or a semicolon. -/
def readWords : (fuel : Nat) → Reading (List Word)
  | 0 => return []
  | fuel + 1 => do
    match ← takeToken fuel with
    | .word =>
      let word := (← get).word
      return word :: (← readWords fuel)
    | .newLine | .mark .semicolon => return []
    | _ => unexpected

def readChoice : (fuel line : Nat) → Reading Command
  | 0, _ => unexpected
  | fuel + 1, line => do
    if (← takeToken fuel) ≠ .word then expecting .word
    let subject := (← get).word
    check { newLines := true, keywords := true, aliases := true }
    readExactly fuel (.keyword "in")
    return .choice line subject (← readClauses fuel)

def readClauses : (fuel : Nat) → Reading (List (List Word × Option Command))
  | 0 => return []
  | fuel + 1 => do
    check { newLines := true, keywords := true }
    let token ← takeToken fuel
    if token = .keyword "esac" then return []
    if token = .mark .opening then
      let _ ← takeToken fuel
    let patterns ← readPatterns fuel
    let body ← readList fuel .clause none
    check { newLines := true, keywords := true }
    let token ← takeToken fuel
    if token = .keyword "esac" then return [(patterns, body)]
    if token ≠ .mark .caseEnd then expecting (.mark .caseEnd)
    return (patterns, body) :: (← readClauses fuel)

/-- Reads the patterns of a clause, of which the first is the last word already. -/
def readPatterns : (fuel : Nat) → Reading (List Word)
  | 0 => return []
  | fuel + 1 => do
    let pattern := (← get).word
    match ← takeToken fuel with
    | .mark .pipe =>
      let _ ← takeToken fuel
      return pattern :: (← readPatterns fuel)
    | .mark .closing => return [pattern]
    | _ => expecting (.mark .closing)

end

/-- What the next line of a script holds. -/
inductive Line where
  | ended
  | command (body : Option Command)

/-- Reads the commands on the next line, unless the script is over. -/
def readLine : Reading Line := do
  modify fun reader => { reader with isPutBack := false, checks := {}, announced := [] }
  match ← readList Process.forever .line none with
  | some command => return .command (some command)
  | none => return if (← get).isPutBack then .ended else .command none

end WheelInstaller.Shell
