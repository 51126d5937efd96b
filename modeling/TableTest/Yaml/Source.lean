/-
`TableTest.Yaml.Source` — the characters of a YAML text

Which characters a YAML text may hold, which of them end a line, and where in the text a
character stands.  The breaks CR LF, CR and NEL are read as LF.
-/
namespace TableTest.Yaml

/-- Why a text is not YAML. -/
inductive Fault where
  | controlCharacter
  | tabInIndentation
  | unexpectedCharacter
  | unclosedQuote
  | markerInQuote
  | badEscape
  | badBlockHeader
  | badDirective
  | misplacedEntry
  | misplacedKey
  | misplacedValue
  | missingColon
  | unexpectedColon
  | unexpectedToken
  | missingDash
  | missingKey
  | missingComma
  | missingStart
  | severalDocuments
  | tooDeep
deriving DecidableEq, Repr

def Fault.describe : Fault → String
  | controlCharacter => "control characters are not allowed"
  | tabInIndentation => "found a tab character that violates indentation"
  | unexpectedCharacter => "found character that cannot start any token"
  | unclosedQuote => "found unexpected end of a quoted text"
  | markerInQuote => "found unexpected document indicator in a quoted text"
  | badEscape => "found unknown escape character"
  | badBlockHeader => "did not find expected comment or line break"
  | badDirective => "found an unknown or malformed directive"
  | misplacedEntry => "block sequence entries are not allowed in this context"
  | misplacedKey => "mapping keys are not allowed in this context"
  | misplacedValue => "mapping values are not allowed in this context"
  | missingColon => "could not find expected ':'"
  | unexpectedColon => "found unexpected ':'"
  | unexpectedToken => "did not find expected node content"
  | missingDash => "did not find expected '-' indicator"
  | missingKey => "did not find expected key"
  | missingComma => "did not find expected ',' or closing bracket"
  | missingStart => "did not find expected document start"
  | severalDocuments => "found more than one document"
  | tooDeep => "the text is nested too deeply"

/-- The ranges of code points that a YAML text may hold. -/
def allowedRanges : List (Nat × Nat) :=
  [(0x9, 0xA), (0xD, 0xD), (0x20, 0x7E), (0x85, 0x85), (0xA0, 0xD7FF), (0xE000, 0xFFFD),
   (0x10000, 0x10FFFF)]

def isAllowed (c : Char) : Bool :=
  allowedRanges.any fun (first, last) => first ≤ c.toNat && c.toNat ≤ last

def isSpace (c : Char) : Bool := c == ' ' || c == '\t'

/-- Whether a character ends a line, once the breaks have been unified. -/
def isBreak (c : Char) : Bool := c == '\n' || c == '\u2028' || c == '\u2029'

/-- Whether what follows is a blank, a break or the end. -/
def atGap : List Char → Bool
  | [] => true
  | c :: _ => isSpace c || isBreak c

/-- Whether what follows is the marker of a document's start or end. -/
def atMarker : List Char → Bool
  | '-' :: '-' :: '-' :: cs => atGap cs
  | '.' :: '.' :: '.' :: cs => atGap cs
  | _ => false

/-- Unifies the breaks; `done` holds the characters read so far, the latest first. -/
def unifyBreaks (done : List Char) : List Char → List Char
  | [] => done.reverse
  | '\r' :: '\n' :: cs => unifyBreaks ('\n' :: done) cs
  | '\r' :: cs => unifyBreaks ('\n' :: done) cs
  | '\u0085' :: cs => unifyBreaks ('\n' :: done) cs
  | c :: cs => unifyBreaks (c :: done) cs

/-- Where a character stands: the bytes of UTF-8 before it in the text, and the characters
before it in its line. -/
structure Mark where
  index : Nat := 0
  line : Nat := 0
  column : Nat := 0
deriving DecidableEq, Repr

/-- The place after a character of the line. -/
def Mark.past (c : Char) (m : Mark) : Mark := ⟨m.index + c.utf8Size, m.line, m.column + 1⟩

def Mark.newline (m : Mark) : Mark := ⟨m.index + 1, m.line + 1, 0⟩

/-- What is still to be read, and where it stands. -/
structure Cursor where
  chars : List Char
  mark : Mark
deriving Repr

/-- The cursor after the next character of the line. -/
def Cursor.advance (cursor : Cursor) : Cursor :=
  match cursor.chars with
  | [] => cursor
  | c :: cs => ⟨cs, cursor.mark.past c⟩

def Cursor.advanceBy (c : Cursor) : Nat → Cursor
  | 0 => c
  | n + 1 => c.advance.advanceBy n

/-- Opens a text, whose characters must be allowed. -/
def Cursor.open? (text : String) : Except Fault Cursor :=
  if text.toList.all isAllowed then .ok ⟨unifyBreaks [] text.toList, {}⟩
  else .error .controlCharacter

/-- Whether a character before a token does not count: blanks do not, but for tabs where a key
may follow, nor does a byte order mark at the start of a line. -/
def isIdle (flow keyAllowed : Bool) (c : Char) (m : Mark) : Bool :=
  c == ' ' || (c == '\t' && (flow || !keyAllowed)) || (c == '\uFEFF' && m.column == 0)

/-- Passes over blanks, comments and breaks; whether a key may follow changes at a break
outside flow collections. -/
def skipGap (flow : Bool) : (keyAllowed comment : Bool) → List Char → Mark → Cursor × Bool
  | keyAllowed, _, [], m => (⟨[], m⟩, keyAllowed)
  | keyAllowed, comment, c :: cs, m =>
    if isBreak c then skipGap flow (keyAllowed || !flow) false cs m.newline
    else if comment || c == '#' then skipGap flow keyAllowed true cs (m.past c)
    else if isIdle flow keyAllowed c m then skipGap flow keyAllowed false cs (m.past c)
    else (⟨c :: cs, m⟩, keyAllowed)

end TableTest.Yaml
