/-
`TableTest.Text.Json` — JSON texts

JSON values and their text over several lines, two blanks to a level, fields in the order
given.
-/
namespace TableTest.Text

/-- A JSON value; numbers are natural numbers. -/
inductive Json where
  | null
  | bool (b : Bool)
  | number (n : Nat)
  | string (s : String)
  | array (items : List Json)
  | object (fields : List (String × Json))
deriving Repr

namespace Json

def optional (s : Option String) : Json := s.elim null string

/-- A control character by its code point, in four hexadecimal digits. -/
def controlEscape (c : Char) : List Char :=
  let digits := Nat.toDigits 16 c.toNat
  "\\u".toList ++ List.replicate (4 - digits.length) '0' ++ digits

/-- A character as it stands between quotes. -/
def escapeJsonChar (c : Char) : List Char :=
  match c with
  | '"' => ['\\', '"']
  | '\\' => ['\\', '\\']
  | '\x08' => ['\\', 'b']
  | '\x0c' => ['\\', 'f']
  | '\n' => ['\\', 'n']
  | '\r' => ['\\', 'r']
  | '\t' => ['\\', 't']
  | c => if c.toNat < 0x20 then controlEscape c else [c]

def renderString (s : String) : String :=
  String.ofList ('"' :: s.toList.flatMap escapeJsonChar ++ ['"'])

/-- The start of a line at a level. -/
def margin (level : Nat) : String := "".pushn ' ' (2 * level)

/-- Lines at a level between two brackets, separated by commas. -/
def enclose (opening closing : String) (level : Nat) : List String → String
  | [] => opening ++ closing
  | lines =>
    opening ++ "\n" ++ ",\n".intercalate (lines.map (margin (level + 1) ++ ·)) ++ "\n" ++
      margin level ++ closing

mutual

/-- The text of a value that begins at a level. -/
def renderAt (level : Nat) : Json → String
  | null => "null"
  | bool b => if b then "true" else "false"
  | number n => toString n
  | string s => renderString s
  | array items => enclose "[" "]" level (renderItems (level + 1) items)
  | object fields => enclose "\x7b" "\x7d" level (renderFields (level + 1) fields)

def renderItems (level : Nat) : List Json → List String
  | [] => []
  | item :: items => renderAt level item :: renderItems level items

def renderFields (level : Nat) : List (String × Json) → List String
  | [] => []
  | (name, value) :: fields =>
    (renderString name ++ ": " ++ renderAt level value) :: renderFields level fields

end

def render (value : Json) : String := renderAt 0 value

end Json

end TableTest.Text
