/-
`TableTest.Toml.Quoted` — strings

Basic strings have escapes and literal strings have none; either kind can run over several
lines when its quotes are threefold.  A break right after such quotes does not count.
-/
import TableTest.Toml.Item

namespace TableTest.Toml

/-- Whether a character may stand in a comment or a string as it is. -/
def isTextChar (c : Char) : Bool := c == '\t' || (0x20 ≤ c.toNat && c.toNat != 0x7F)

def hexValue? (cs : List Char) : Option Nat :=
  cs.foldlM (fun value c =>
    if c.isDigit then some (16 * value + (c.toNat - '0'.toNat))
    else if 'a' ≤ c && c ≤ 'f' then some (16 * value + (c.toNat - 'a'.toNat + 10))
    else if 'A' ≤ c && c ≤ 'F' then some (16 * value + (c.toNat - 'A'.toNat + 10))
    else none) 0

/-- The character of a code point in hexadecimal digits. -/
def codeChar? (cs : List Char) : Option Char :=
  (hexValue? cs).bind fun n => if n.isValidChar then some (Char.ofNat n) else none

/-- The characters that stand for another one after a backslash. -/
def escaped? : Char → Option Char
  | 'b' => some '\x08'
  | 't' => some '\t'
  | 'n' => some '\n'
  | 'f' => some '\x0c'
  | 'r' => some '\r'
  | '"' => some '"'
  | '\\' => some '\\'
  | _ => none

/-- The number of hexadecimal digits that a letter after a backslash announces. -/
def escapeDigits? : Char → Option Nat
  | 'u' => some 4
  | 'U' => some 8
  | _ => none

/-- Where the reading of a string stands. -/
inductive StringState where
  | text
  /-- After a backslash. -/
  | escape
  /-- In the digits of a code point: how many are to come, and those read, latest first. -/
  | code (left : Nat) (digits : List Char)
  /-- After a backslash that takes the blanks up to the next text back; `broken` says
  whether a break has been among them. -/
  | swallow (broken : Bool)
deriving DecidableEq, Repr

structure StringStyle where
  quote : Char
  /-- Whether it runs over several lines. -/
  multiline : Bool
deriving DecidableEq, Repr

/-- Whether strings of the style have escapes. -/
def StringStyle.hasEscapes (style : StringStyle) : Bool := style.quote == '"'

/-- A finished string; `done` holds its characters, the latest first. -/
def finish (done : List Char) (rest : List Char) : Except Fault (String × List Char) :=
  .ok (String.ofList done.reverse, rest)

/-- The state and the text after a character that follows a backslash. -/
def stepEscape (style : StringStyle) (done : List Char) (c : Char) :
    Except Fault (StringState × List Char) :=
  match escaped? c, escapeDigits? c with
  | some d, _ => .ok (.text, d :: done)
  | none, some n => .ok (.code n [], done)
  | none, none =>
    if style.multiline && (c == ' ' || c == '\t') then .ok (.swallow false, done)
    else if style.multiline && c == '\n' then .ok (.swallow true, done)
    else .error .badEscape

/-- The state and the text after a digit of a code point. -/
def stepCode (done : List Char) (left : Nat) (digits : List Char) (c : Char) :
    Except Fault (StringState × List Char) :=
  if 1 < left then .ok (.code (left - 1) (c :: digits), done)
  else
    match codeChar? (c :: digits).reverse with
    | some d => .ok (.text, d :: done)
    | none => .error .badEscape

/-- The state and the text after a character that is not part of an escape. -/
def stepText (style : StringStyle) (done : List Char) (c : Char) :
    Except Fault (StringState × List Char) :=
  if c == '\\' && style.hasEscapes then .ok (.escape, done)
  else if isTextChar c || (style.multiline && c == '\n') then .ok (.text, c :: done)
  else .error .unclosedString

/-- The state and the text after one character. -/
def step (style : StringStyle) (state : StringState) (done : List Char) (c : Char) :
    Except Fault (StringState × List Char) :=
  match state with
  | .text => stepText style done c
  | .escape => stepEscape style done c
  | .code left digits => stepCode done left digits c
  | .swallow broken =>
    if c == ' ' || c == '\t' then .ok (.swallow broken, done)
    else if c == '\n' then .ok (.swallow true, done)
    else if broken then stepText style done c
    else .error .badEscape

/-- Whether a quote in this state is one of the text's own. -/
def StringState.takesQuotes : StringState → Bool
  | text | swallow true => true
  | _ => false

def quoteRun (style : StringStyle) (cs : List Char) : Nat :=
  (cs.takeWhile (· == style.quote)).length

/-- Reads on in a string up to its closing quotes.  Before the closing quotes of a string of
several lines stand at most two of its own. -/
def readString (style : StringStyle) :
    StringState → (done : List Char) → List Char → Except Fault (String × List Char)
  | _, _, [] => .error .unclosedString
  | state, done, c :: cs =>
    if c == style.quote && state.takesQuotes then
      if !style.multiline then finish done cs
      else
        match quoteRun style (c :: cs) with
        | 0 | 1 | 2 => readString style .text (c :: done) cs
        | 3 => finish done (cs.drop 2)
        | 4 => finish (c :: done) (cs.drop 3)
        | 5 => finish (c :: c :: done) (cs.drop 4)
        | _ => .error .unclosedString
    else
      match step style state done c with
      | .error e => .error e
      | .ok (state, done) => readString style state done cs

/-- Reads the string that the quotes at the start open. -/
def readQuoted : List Char → Except Fault (String × List Char)
  | '"' :: '"' :: '"' :: '\n' :: cs => readString ⟨'"', true⟩ .text [] cs
  | '"' :: '"' :: '"' :: cs => readString ⟨'"', true⟩ .text [] cs
  | '\'' :: '\'' :: '\'' :: '\n' :: cs => readString ⟨'\'', true⟩ .text [] cs
  | '\'' :: '\'' :: '\'' :: cs => readString ⟨'\'', true⟩ .text [] cs
  | '"' :: cs => readString ⟨'"', false⟩ .text [] cs
  | '\'' :: cs => readString ⟨'\'', false⟩ .text [] cs
  | _ => .error (.expected "a string")

end TableTest.Toml
