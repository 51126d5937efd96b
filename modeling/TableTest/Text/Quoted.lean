/-
`TableTest.Text.Quoted` — texts in quotes

The quoted form of a text, as messages show lists of arguments: control characters, quotes
and backslashes are escaped, and so is every character that would not show by itself.
-/
import TableTest.Text.Combining
import TableTest.Text.Unprintable

namespace TableTest.Text

/-- A character by its code point, in lower-case hexadecimal digits. -/
def codePointEscape (c : Char) : List Char :=
  "\\u\x7b".toList ++ Nat.toDigits 16 c.toNat ++ "\x7d".toList

/-- A character as it stands between quotes. -/
def escapeChar (c : Char) : List Char :=
  match c with
  | '"' => ['\\', '"']
  | '\\' => ['\\', '\\']
  | '\n' => ['\\', 'n']
  | '\r' => ['\\', 'r']
  | '\t' => ['\\', 't']
  | '\x00' => ['\\', '0']
  | c => if isCombining c || isUnprintable c then codePointEscape c else [c]

def quote (s : String) : String :=
  String.ofList ('"' :: s.toList.flatMap escapeChar ++ ['"'])

/-- A list of texts, each in quotes, in brackets. -/
def quoteList (ss : List String) : String :=
  "[" ++ ", ".intercalate (ss.map quote) ++ "]"

end TableTest.Text
