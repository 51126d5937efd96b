/-
`TableTest.Yaml.Folded` — plain and quoted scalars

Scalars whose lines are folded: a single break between words becomes a space, and of several
breaks the first is dropped.
-/
import TableTest.Yaml.Source

namespace TableTest.Yaml

/-- A folded text in the making, its lists latest first. -/
structure Folded where
  text : List Char := []
  /-- The blanks after the text, as long as no break has followed them. -/
  blanks : List Char := []
  /-- Whether a break has followed the text. -/
  broken : Bool := false
  /-- The first break after the text; none if it was escaped. -/
  firstBreak : Option Char := none
  /-- The breaks after the first one. -/
  moreBreaks : List Char := []
deriving Repr

namespace Folded

/-- What the gap after the text comes to, latest first. -/
def gap (f : Folded) : List Char :=
  if f.broken then
    match f.firstBreak with
    | some '\n' => if f.moreBreaks.isEmpty then [' '] else f.moreBreaks
    | some b => f.moreBreaks ++ [b]
    | none => f.moreBreaks
  else f.blanks

/-- The text with the gap after it. -/
def settle (f : Folded) : Folded := { text := f.gap ++ f.text }

/-- The text with the gap and one more character. -/
def push (c : Char) (f : Folded) : Folded := { text := c :: (f.gap ++ f.text) }

/-- A blank; at the start of a line it does not count. -/
def blank (c : Char) (f : Folded) : Folded :=
  if f.broken then f else { f with blanks := c :: f.blanks }

def lineBreak (c : Char) (f : Folded) : Folded :=
  if f.broken then { f with moreBreaks := c :: f.moreBreaks }
  else { f with blanks := [], broken := true, firstBreak := some c }

/-- A break that a backslash takes back. -/
def escapedBreak (f : Folded) : Folded := { f.settle with broken := true }

def toString (f : Folded) : String := String.ofList f.text.reverse

end Folded

/-! ## Plain scalars -/

def isFlowIndicator (c : Char) : Bool := ",[]\x7b\x7d".toList.contains c

/-- Whether a plain scalar ends before a character within a word. -/
def endsPlain (flow : Bool) (c : Char) (cs : List Char) : Bool :=
  (c == ':' && atGap cs) || (flow && isFlowIndicator c)

/-- Whether a plain scalar ends before a word.  Outside flow collections its lines stand at
the column `level` or further right. -/
def endsBeforeWord (flow : Bool) (level : Nat) (cs : List Char) (m : Mark) : Bool :=
  (m.column == 0 && atMarker cs) || cs.head? == some '#' || (!flow && m.column < level)

/-- Whether a colon in a flow collection stands right before an indicator. -/
def isStrayColon (flow : Bool) (c : Char) (cs : List Char) : Bool :=
  flow && c == ':' && cs.head?.any fun d => d == '?' || isFlowIndicator d

def scanPlain (flow : Bool) (level : Nat) :
    (inWord : Bool) → Folded → List Char → Mark → Except Fault (Folded × Cursor)
  | _, f, [], m => .ok (f, ⟨[], m⟩)
  | inWord, f, c :: cs, m =>
    if isBreak c then scanPlain flow level false (f.lineBreak c) cs m.newline
    else if isSpace c then
      if f.broken && m.column < level && c == '\t' then .error .tabInIndentation
      else scanPlain flow level false (f.blank c) cs (m.past c)
    else if !inWord && endsBeforeWord flow level (c :: cs) m then .ok (f, ⟨c :: cs, m⟩)
    else if isStrayColon flow c cs then .error .unexpectedColon
    else if endsPlain flow c cs then .ok (f, ⟨c :: cs, m⟩)
    else scanPlain flow level true (f.push c) cs (m.past c)

/-! ## Quoted scalars -/

/-- Reads on in a scalar in single quotes, where a quote is written twice. -/
def scanSingle : Folded → List Char → Mark → Except Fault (Folded × Cursor)
  | _, [], _ => .error .unclosedQuote
  | f, '\'' :: '\'' :: cs, m => scanSingle (f.push '\'') cs ((m.past '\'').past '\'')
  | f, '\'' :: cs, m => .ok (f.settle, ⟨cs, m.past '\''⟩)
  | f, c :: cs, m =>
    if isBreak c then scanSingle (f.lineBreak c) cs m.newline
    else if isSpace c then scanSingle (f.blank c) cs (m.past c)
    else if m.column == 0 && atMarker (c :: cs) then .error .markerInQuote
    else scanSingle (f.push c) cs (m.past c)

/-- Where the reading of a scalar in double quotes stands. -/
inductive QuoteState where
  | text
  | escape
  /-- In the hexadecimal digits of a code point: how many are to come, and those read. -/
  | code (left value : Nat)
deriving DecidableEq, Repr

/-- The characters that stand for another one after a backslash. -/
def shortEscape? : Char → Option Char
  | '0' => some '\x00'
  | 'a' => some '\x07'
  | 'b' => some '\x08'
  | 't' | '\t' => some '\t'
  | 'n' => some '\n'
  | 'v' => some '\x0b'
  | 'f' => some '\x0c'
  | 'r' => some '\r'
  | 'e' => some '\x1b'
  | ' ' => some ' '
  | '"' => some '"'
  | '/' => some '/'
  | '\\' => some '\\'
  | 'N' => some '\u0085'
  | '_' => some '\u00a0'
  | 'L' => some '\u2028'
  | 'P' => some '\u2029'
  | _ => none

/-- The number of hexadecimal digits that a letter after a backslash announces. -/
def codeDigits? : Char → Option Nat
  | 'x' => some 2
  | 'u' => some 4
  | 'U' => some 8
  | _ => none

def hexDigit? (c : Char) : Option Nat :=
  if c.isDigit then some (c.toNat - '0'.toNat)
  else if 'a' ≤ c && c ≤ 'f' then some (c.toNat - 'a'.toNat + 10)
  else if 'A' ≤ c && c ≤ 'F' then some (c.toNat - 'A'.toNat + 10)
  else none

/-- The text and the state after a character that follows a backslash. -/
def afterBackslash (f : Folded) (c : Char) : Except Fault (QuoteState × Folded) :=
  if isBreak c then .ok (.text, f.escapedBreak)
  else
    match shortEscape? c, codeDigits? c with
    | some d, _ => .ok (.text, f.push d)
    | none, some n => .ok (.code n 0, f)
    | none, none => .error .badEscape

/-- The text and the state after a digit of a code point. -/
def afterCodeDigit (f : Folded) (left value : Nat) (c : Char) :
    Except Fault (QuoteState × Folded) :=
  match hexDigit? c with
  | none => .error .badEscape
  | some d =>
    let value := 16 * value + d
    if 1 < left then .ok (.code (left - 1) value, f)
    else if value.isValidChar then .ok (.text, f.push (Char.ofNat value))
    else .error .badEscape

/-- The text and the state after a character that is not part of an escape. -/
def afterQuoted (f : Folded) (c : Char) (cs : List Char) (m : Mark) :
    Except Fault (QuoteState × Folded) :=
  if isBreak c then .ok (.text, f.lineBreak c)
  else if isSpace c then .ok (.text, f.blank c)
  else if m.column == 0 && atMarker (c :: cs) then .error .markerInQuote
  else if c == '\\' then .ok (.escape, f)
  else .ok (.text, f.push c)

/-- The text and the state after one character of a scalar in double quotes. -/
def afterDouble (state : QuoteState) (f : Folded) (c : Char) (cs : List Char) (m : Mark) :
    Except Fault (QuoteState × Folded) :=
  match state with
  | .text => afterQuoted f c cs m
  | .escape => afterBackslash f c
  | .code left value => afterCodeDigit f left value c

def scanDouble : QuoteState → Folded → List Char → Mark → Except Fault (Folded × Cursor)
  | _, _, [], _ => .error .unclosedQuote
  | state, f, c :: cs, m =>
    if state = .text && c == '"' then .ok (f.settle, ⟨cs, m.past c⟩)
    else
      match afterDouble state f c cs m with
      | .error e => .error e
      | .ok (state, f) => scanDouble state f cs (if isBreak c then m.newline else m.past c)

end TableTest.Yaml
