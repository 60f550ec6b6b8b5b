import WheelInstaller.Text.Classes

/-! Cutting text into pieces: at every separator, at the first one, at line ends, and free of
the white space around it. Everything works on lists of characters, by recursion on the list. -/

namespace WheelInstaller.Text

/-- The pieces between separators. There is always one more piece than there are separators. -/
def splitOn (separator : Char) : List Char → List (List Char)
  | [] => [[]]
  | c :: rest =>
    if c = separator then [] :: splitOn separator rest
    else match splitOn separator rest with
      | [] => [[c]]
      | first :: others => (c :: first) :: others

/-- The text before and after the first separator, if there is one. -/
def splitOnce (separator : Char) : List Char → Option (List Char × List Char)
  | [] => none
  | c :: rest =>
    if c = separator then some ([], rest)
    else (splitOnce separator rest).map fun (before, after) => (c :: before, after)

/-- The pieces in one text, with the separator between neighbours. -/
def joinWith (separator : Char) : List (List Char) → List Char
  | [] => []
  | [only] => only
  | first :: second :: rest => first ++ separator :: joinWith separator (second :: rest)

/-- Text without the white space before it. -/
def trimStart (text : List Char) : List Char :=
  text.dropWhile isBlank

/-- Text without the white space after it. -/
def trimEnd (text : List Char) : List Char :=
  (text.reverse.dropWhile isBlank).reverse

/-- Text without the white space around it. -/
def trim (text : List Char) : List Char :=
  trimEnd (trimStart text)

/-- What is left of the text after the given end, if it has that end. -/
def dropSuffix? (suffix text : List Char) : Option (List Char) :=
  if suffix.isSuffixOf text then some (text.take (text.length - suffix.length)) else none

/-- A line that a line feed ends, without a carriage return before that line feed. -/
def dropReturn (line : List Char) : List Char :=
  (dropSuffix? ['\r'] line).getD line

/-- The lines of a piece list cut at line feeds: the last piece was not ended by one, so it
keeps its carriage return, and counts only if it holds something. -/
def linesOfPieces : List (List Char) → List (List Char)
  | [] => []
  | [last] => if last.isEmpty then [] else [last]
  | line :: next :: rest => dropReturn line :: linesOfPieces (next :: rest)

def lines (text : List Char) : List (List Char) :=
  linesOfPieces (splitOn '\n' text)

/-- Texts that agree once ASCII letters are lower case. -/
def sameIgnoringCase (first second : List Char) : Bool :=
  first.map Char.toLower = second.map Char.toLower

end WheelInstaller.Text
