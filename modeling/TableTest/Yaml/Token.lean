/-
`TableTest.Yaml.Token` — the tokens of a YAML text

A text becomes a list of tokens in which indentation shows as the start and end of block
collections.  A key shows itself only at the colon after it, so the place where a key may
have begun is kept until then: one for the block collection and one for each open flow
collection.
-/
import TableTest.Yaml.Block
import TableTest.Yaml.Directive

namespace TableTest.Yaml

inductive Token where
  | scalar (plain : Bool) (text : String)
  | directive (d : Directive)
  | documentStart
  | documentEnd
  | blockSequence
  | blockMapping
  | blockEnd
  | openSequence
  | closeSequence
  | openMapping
  | closeMapping
  | dash
  | comma
  | key
  | colon
deriving DecidableEq, Repr

/-- A place where a key may have begun. -/
structure PossibleKey where
  /-- The number of tokens before it. -/
  place : Nat
  mark : Mark
  /-- Whether nothing but a key can stand there. -/
  required : Bool
deriving Repr

/-- The reading of tokens. -/
structure Lexer where
  cursor : Cursor
  /-- The tokens so far, the latest first. -/
  tokens : List Token := []
  count : Nat := 0
  /-- Whether a key may begin here. -/
  keyAllowed : Bool := true
  /-- The possible key of the innermost collection. -/
  possible : Option PossibleKey := none
  /-- The possible keys around each open flow collection, the innermost first. -/
  outer : List (Option PossibleKey) := []
  /-- The least column of text nested in the innermost block; 0 outside of blocks. -/
  level : Nat := 0
  /-- The levels of the blocks around it. -/
  levels : List Nat := []

namespace Lexer

def inFlow (l : Lexer) : Bool := !l.outer.isEmpty

def column (l : Lexer) : Nat := l.cursor.mark.column

/-- The reading with one more token. -/
def emit (t : Token) (l : Lexer) : Lexer :=
  { l with tokens := t :: l.tokens, count := l.count + 1 }

/-- The reading with a token put in after the first `place` tokens. -/
def emitAt (place : Nat) (t : Token) (l : Lexer) : Lexer :=
  { l with tokens := l.tokens.insertIdx (l.count - place) t, count := l.count + 1 }

def skip (n : Nat) (l : Lexer) : Lexer := { l with cursor := l.cursor.advanceBy n }

/-! ## Possible keys -/

/-- Gives up the possible key, unless it is required. -/
def dropKey (l : Lexer) : Except Fault Lexer :=
  if l.possible.any (·.required) then .error .missingColon else .ok { l with possible := none }

/-- Notes that a key may begin here. -/
def noteKey (l : Lexer) : Except Fault Lexer :=
  if l.keyAllowed then
    l.dropKey.map fun l =>
      let required := !l.inFlow && l.level == l.column + 1
      { l with possible := some ⟨l.count, l.cursor.mark, required⟩ }
  else .ok l

/-- Whether a possible key can no longer be one: a key is at most 1024 bytes of UTF-8 long and
ends on its line. -/
def isStale (m : Mark) (k : PossibleKey) : Bool :=
  k.mark.line < m.line || k.mark.index + 1024 < m.index

/-- A possible key without one that is stale; a required one must not be. -/
def refreshKey (m : Mark) : Option PossibleKey → Except Fault (Option PossibleKey)
  | some k =>
    if isStale m k then if k.required then .error .missingColon else .ok none else .ok (some k)
  | none => .ok none

/-- Gives up the stale keys. -/
def dropStale (l : Lexer) : Except Fault Lexer := do
  let possible ← refreshKey l.cursor.mark l.possible
  let outer ← l.outer.mapM (refreshKey l.cursor.mark)
  return { l with possible, outer }

/-! ## Blocks -/

/-- Ends the blocks that are deeper than a level. -/
def endBlocks (least : Nat) : List Nat → Lexer → Lexer
  | [], l => l
  | level :: levels, l =>
    if least < l.level then endBlocks least levels { l.emit .blockEnd with level, levels } else l

/-- Ends the blocks that a line at a level leaves; flow collections have none. -/
def leaveTo (least : Nat) (l : Lexer) : Lexer :=
  if l.inFlow then l else endBlocks least l.levels l

/-- Starts a block at a column, unless one is open there; `put` places its token. -/
def enter (column : Nat) (put : Lexer → Lexer) (l : Lexer) : Lexer :=
  if !l.inFlow && l.level ≤ column then
    put { l with level := column + 1, levels := l.level :: l.levels }
  else l

/-! ## Tokens -/

def marker (t : Token) (l : Lexer) : Except Fault Lexer :=
  (l.leaveTo 0).dropKey.map fun l => { (l.skip 3).emit t with keyAllowed := false }

/-- A directive, which takes up its line. -/
def directive (l : Lexer) : Except Fault Lexer := do
  let l ← (l.leaveTo 0).dropKey
  let start := l.cursor.advance
  let (d, rest) ← Directive.read start.chars
  let cursor ← skipHeaderLine false rest start.mark
  return { l.emit (.directive d) with cursor, keyAllowed := false }

def openFlow (t : Token) (l : Lexer) : Except Fault Lexer :=
  l.noteKey.map fun l =>
    { (l.skip 1).emit t with keyAllowed := true, possible := none, outer := l.possible :: l.outer }

def closeFlow (t : Token) (l : Lexer) : Except Fault Lexer :=
  l.dropKey.map fun l =>
    let l := { (l.skip 1).emit t with keyAllowed := false }
    match l.outer with
    | possible :: outer => { l with possible, outer }
    | [] => l

def comma (l : Lexer) : Except Fault Lexer :=
  l.dropKey.map fun l => { (l.skip 1).emit .comma with keyAllowed := true }

def dash (l : Lexer) : Except Fault Lexer :=
  if !l.inFlow && !l.keyAllowed then .error .misplacedEntry
  else
    (l.enter l.column (emit .blockSequence)).dropKey.map fun l =>
      { (l.skip 1).emit .dash with keyAllowed := true }

/-- The question mark of a key. -/
def questionMark (l : Lexer) : Except Fault Lexer :=
  if !l.inFlow && !l.keyAllowed then .error .misplacedKey
  else
    (l.enter l.column (emit .blockMapping)).dropKey.map fun l =>
      { (l.skip 1).emit .key with keyAllowed := !l.inFlow }

/-- The colon of a value: what began at the possible key was a key. -/
def colon (l : Lexer) : Except Fault Lexer :=
  match l.possible with
  | some k =>
    let l := (l.emitAt k.place .key).enter k.mark.column (emitAt k.place .blockMapping)
    .ok { (l.skip 1).emit .colon with possible := none, keyAllowed := false }
  | none =>
    if !l.inFlow && !l.keyAllowed then .error .misplacedValue
    else
      let l := l.enter l.column (emit .blockMapping)
      .ok { (l.skip 1).emit .colon with keyAllowed := !l.inFlow }

def block (literal : Bool) (l : Lexer) : Except Fault Lexer := do
  let l ← l.dropKey
  let (text, cursor) ← readBlock literal l.level l.cursor.advance
  return { l.emit (.scalar false text) with cursor, keyAllowed := true }

def quoted (scan : List Char → Mark → Except Fault (Folded × Cursor)) (l : Lexer) :
    Except Fault Lexer := do
  let l ← l.noteKey
  let start := l.cursor.advance
  let (f, cursor) ← scan start.chars start.mark
  return { l.emit (.scalar false f.toString) with cursor, keyAllowed := false }

/-- A plain scalar; one that runs over its line lets a key follow. -/
def plain (l : Lexer) : Except Fault Lexer := do
  let l ← l.noteKey
  let (f, cursor) ← scanPlain l.inFlow l.level true {} l.cursor.chars l.cursor.mark
  return { l.emit (.scalar true f.toString) with cursor, keyAllowed := f.broken }

/-- Whether a plain scalar can begin with a character. -/
def startsPlain (flow : Bool) (c : Char) (cs : List Char) : Bool :=
  if c == '-' then !(cs.head?.any isSpace)
  else if c == '?' || c == ':' then !flow && !atGap cs
  else !isSpace c && !isBreak c && !(",[]\x7b\x7d#&*!|>'\"%@`".toList.contains c)

/-- Reads the token that begins with a character that is no marker. -/
def tokenAt (l : Lexer) (c : Char) (cs : List Char) : Except Fault Lexer :=
  match c with
  | '[' => l.openFlow .openSequence
  | '{' => l.openFlow .openMapping
  | ']' => l.closeFlow .closeSequence
  | '}' => l.closeFlow .closeMapping
  | ',' => l.comma
  | '\'' => l.quoted (scanSingle {})
  | '"' => l.quoted (scanDouble .text {})
  | _ =>
    if c == '-' && atGap cs then l.dash
    else if c == '?' && (l.inFlow || atGap cs) then l.questionMark
    else if c == ':' && (l.inFlow || atGap cs) then l.colon
    else if (c == '|' || c == '>') && !l.inFlow then l.block (c == '|')
    else if startsPlain l.inFlow c cs then l.plain
    else .error .unexpectedCharacter

/-- Passes over the gap before a token, and ends the blocks that the token is left of. -/
def approach (l : Lexer) : Except Fault Lexer :=
  let (cursor, keyAllowed) :=
    skipGap l.inFlow l.keyAllowed false l.cursor.chars l.cursor.mark
  (dropStale { l with cursor, keyAllowed }).map fun l => l.leaveTo (l.column + 1)

/-- Reads the next token; none is left at the end of the text. -/
def next? (l : Lexer) : Except Fault (Lexer × Bool) := do
  let l ← l.approach
  match l.cursor.chars with
  | [] => return ((← (l.leaveTo 0).dropKey), false)
  | c :: cs =>
    if l.column == 0 && c == '%' then return ((← l.directive), true)
    if l.column == 0 && atMarker (c :: cs) then
      return ((← l.marker (if c == '-' then .documentStart else .documentEnd)), true)
    return ((← l.tokenAt c cs), true)

/-- Reads all tokens.  Every token takes up a character, so their number is bounded. -/
def readAll : Nat → Lexer → Except Fault (List Token)
  | 0, _ => .error .tooDeep
  | bound + 1, l =>
    match l.next? with
    | .error e => .error e
    | .ok (l, true) => readAll bound l
    | .ok (l, false) => .ok l.tokens.reverse

end Lexer

def Token.scan (text : String) : Except Fault (List Token) := do
  let cursor ← Cursor.open? text
  Lexer.readAll (cursor.chars.length + 1) { cursor }

end TableTest.Yaml
