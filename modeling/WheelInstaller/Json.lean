import WheelInstaller.Text.Quoted

/-! JSON documents and their layout on lines: two spaces per level, one element per line. -/

namespace WheelInstaller

/-- A JSON document, as far as reports need one. -/
inductive Json where
  | null
  | number (value : Nat)
  | text (value : String)
  | list (elements : List Json)
  | record (fields : List (String × Json))

namespace Json

/-- Two lower-case hexadecimal digits. -/
def twoDigits (n : Nat) : List Char :=
  [Nat.digitChar (n / 16), Nat.digitChar (n % 16)]

/-- One character of a string. Quotes, backslashes and control characters are escaped. -/
def escapeChar (c : Char) : List Char :=
  match c with
  | '"' => ['\\', '"']
  | '\\' => ['\\', '\\']
  | '\x08' => ['\\', 'b']
  | '\x0c' => ['\\', 'f']
  | '\n' => ['\\', 'n']
  | '\r' => ['\\', 'r']
  | '\t' => ['\\', 't']
  | _ => if c.toNat < 0x20 then '\\' :: 'u' :: '0' :: '0' :: twoDigits c.toNat else [c]

def writeText (value : String) : List Char :=
  '"' :: value.toList.flatMap escapeChar ++ ['"']

def newLine (level : Nat) : List Char :=
  '\n' :: List.replicate (2 * level) ' '

/-- Written elements between brackets, one per line; nothing stands between the brackets of an
empty collection. -/
def bracket (opening closing : Char) (level : Nat) (elements : List (List Char)) : List Char :=
  match elements with
  | [] => [opening, closing]
  | first :: rest =>
    opening :: newLine (level + 1) ++ first ++
      rest.flatMap (fun element => ',' :: newLine (level + 1) ++ element) ++
      newLine level ++ [closing]

mutual

/-- A document whose first line starts at the given level. -/
def write (level : Nat) : Json → List Char
  | .null => "null".toList
  | .number value => (Nat.toDigits 10 value)
  | .text value => writeText value
  | .list elements => bracket '[' ']' level (writeElements (level + 1) elements)
  | .record fields => bracket '\x7b' '\x7d' level (writeFields (level + 1) fields)

def writeElements (level : Nat) : List Json → List (List Char)
  | [] => []
  | first :: rest => write level first :: writeElements level rest

/-- The fields of a record, each after its name. -/
def writeFields (level : Nat) : List (String × Json) → List (List Char)
  | [] => []
  | (name, value) :: rest =>
    (writeText name ++ ':' :: ' ' :: write level value) :: writeFields level rest

end

/-- The document as text, without a line feed at the end. -/
def render (document : Json) : String :=
  String.ofList (document.write 0)

end Json
end WheelInstaller
