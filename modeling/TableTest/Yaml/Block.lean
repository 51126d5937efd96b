/-
`TableTest.Yaml.Block` — literal and folded block scalars

The lines of a block scalar stand at one column, given in its header or found from its first
line.  A folded block joins lines that do not begin with a blank.
-/
import TableTest.Yaml.Source

namespace TableTest.Yaml

/-- What becomes of the breaks at the end of a block. -/
inductive Chomp where
  | strip
  | clip
  | keep
deriving DecidableEq, Repr

/-- The header of a block: what becomes of its final breaks, and its indentation if given. -/
structure BlockHeader where
  chomp : Chomp := .clip
  indent : Option Nat := none
deriving Repr

def chompOf? : Char → Option Chomp
  | '+' => some .keep
  | '-' => some .strip
  | _ => none

def indentOf? (c : Char) : Option Nat :=
  if c.isDigit then some (c.toNat - '0'.toNat) else none

def readChomp (h : BlockHeader) : List Char → BlockHeader × List Char
  | [] => (h, [])
  | c :: cs =>
    match chompOf? c with
    | some chomp => ({ h with chomp }, cs)
    | none => (h, c :: cs)

/-- Reads an indentation indicator, if one comes next; it must not be zero. -/
def readIndent (h : BlockHeader) : List Char → Except Fault (BlockHeader × List Char)
  | [] => .ok (h, [])
  | c :: cs =>
    match indentOf? c with
    | some 0 => .error .badBlockHeader
    | some n => .ok ({ h with indent := some n }, cs)
    | none => .ok (h, c :: cs)

/-- Reads the indicators of a header, which come in either order. -/
def readHeader (cs : List Char) : Except Fault (BlockHeader × List Char) := do
  let (h, rest) := readChomp {} cs
  let (h, rest) ← readIndent h rest
  if rest.length == cs.length || h.chomp != .clip then return (h, rest)
  return readChomp h rest

/-- Passes over what may follow a header on its line. -/
def skipHeaderLine : (comment : Bool) → List Char → Mark → Except Fault Cursor
  | _, [], m => .ok ⟨[], m⟩
  | comment, c :: cs, m =>
    if isBreak c then .ok ⟨cs, m.newline⟩
    else if comment || c == '#' then skipHeaderLine true cs (m.past c)
    else if isSpace c then skipHeaderLine false cs (m.past c)
    else .error .badBlockHeader

/-- A block in the making, its lists latest first. -/
structure BlockText where
  text : List Char := []
  /-- The break after the last line. -/
  lineEnd : List Char := []
  /-- The breaks of the empty lines after it. -/
  emptyLines : List Char := []
  /-- Whether the last line began with a blank. -/
  afterBlank : Bool := false
deriving Repr

namespace BlockText

/-- The break before a line: a folded block makes a space of it between lines that begin
without a blank. -/
def joint (literal startsBlank : Bool) (b : BlockText) : List Char :=
  if !literal && b.lineEnd == ['\n'] && !b.afterBlank && !startsBlank then
    if b.emptyLines.isEmpty then [' '] else []
  else b.lineEnd

/-- The block with the first character of one more line. -/
def startLine (literal : Bool) (c : Char) (b : BlockText) : BlockText where
  text := c :: (b.emptyLines ++ (b.joint literal (isSpace c) ++ b.text))
  afterBlank := isSpace c

def toString (chomp : Chomp) (b : BlockText) : String :=
  let tail :=
    match chomp with
    | .strip => []
    | .clip => b.lineEnd
    | .keep => b.emptyLines ++ b.lineEnd
  String.ofList (tail ++ b.text).reverse

end BlockText

/-- Whether a column is left of the lines of a block; all are, while that is not known. -/
def isLeftOf (column : Nat) : Option Nat → Bool
  | none => true
  | some n => column < n

/-- Reads on in the lines of a block.  `indent` is their column once it is known, `least` the
least that it can be, and `widest` the length of the longest empty line so far. -/
def scanBlock (literal : Bool) (least : Nat) :
    (indent : Option Nat) → (widest : Nat) → (inLine : Bool) → BlockText → List Char → Mark →
    Except Fault (BlockText × Cursor)
  | _, _, _, b, [], m => .ok (b, ⟨[], m⟩)
  | indent, widest, true, b, c :: cs, m =>
    if isBreak c then
      scanBlock literal least indent widest false { b with lineEnd := [c] } cs m.newline
    else scanBlock literal least indent widest true { b with text := c :: b.text } cs (m.past c)
  | indent, widest, false, b, c :: cs, m =>
    if c == ' ' && isLeftOf m.column indent then
      scanBlock literal least indent widest false b cs (m.past c)
    else if c == '\t' && isLeftOf m.column indent then .error .tabInIndentation
    else if isBreak c then
      scanBlock literal least indent (max widest m.column) false
        { b with emptyLines := c :: b.emptyLines } cs m.newline
    else
      let column := indent.getD (max (max widest m.column) least)
      if m.column == column then
        scanBlock literal least (some column) widest true (b.startLine literal c) cs (m.past c)
      else .ok (b, ⟨c :: cs, m⟩)

/-- Reads a block scalar from its header on.  `level` is the least column of text that is
nested in the block around it. -/
def readBlock (literal : Bool) (level : Nat) (cursor : Cursor) :
    Except Fault (String × Cursor) := do
  let (header, cs) ← readHeader cursor.chars
  let start ← skipHeaderLine false cs cursor.mark
  let indent := header.indent.map fun n => (level - 1) + n
  let (b, rest) ← scanBlock literal (max level 1) indent 0 false {} start.chars start.mark
  return (b.toString header.chomp, rest)

end TableTest.Yaml
