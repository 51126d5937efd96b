/-
`TableTest.Toml.Document` — reading TOML texts

A text is a list of lines, each with a header, a key and its value, or nothing; only values
run over several lines.
-/
import TableTest.Toml.Quoted
import TableTest.Toml.Word

namespace TableTest.Toml

/-- How deep values and keys can be nested. -/
def depthLimit : Nat := 80

/-- Reads CR LF as LF; `done` holds the characters read so far, the latest first. -/
def unifyBreaks (done : List Char) : List Char → List Char
  | [] => done.reverse
  | '\r' :: '\n' :: cs => unifyBreaks ('\n' :: done) cs
  | c :: cs => unifyBreaks (c :: done) cs

def isSpace (c : Char) : Bool := c == ' ' || c == '\t'

def skipSpaces (cs : List Char) : List Char := cs.dropWhile isSpace

/-- Passes over a character that must come next. -/
def expect (c : Char) : List Char → Except Fault (List Char)
  | [] => .error (.expected (String.singleton c))
  | d :: cs => if d == c then .ok cs else .error (.expected (String.singleton c))

/-- Passes over blanks, comments and breaks. -/
def skipGap : (comment : Bool) → List Char → Except Fault (List Char)
  | _, [] => .ok []
  | comment, c :: cs =>
    if c == '\n' then skipGap false cs
    else if comment then if isTextChar c then skipGap true cs else .error (.expected "a newline")
    else if isSpace c then skipGap false cs
    else if c == '#' then skipGap true cs
    else .ok (c :: cs)

/-- Passes over the rest of a line, on which nothing but a comment may stand. -/
def endLine : (comment : Bool) → List Char → Except Fault (List Char)
  | _, [] => .ok []
  | comment, c :: cs =>
    if c == '\n' then .ok cs
    else if comment then if isTextChar c then endLine true cs else .error (.expected "a newline")
    else if isSpace c then endLine false cs
    else if c == '#' then endLine true cs
    else .error (.expected "a newline")

/-! ## Keys -/

def isBareKeyChar (c : Char) : Bool := c.isAlphanum || c == '_' || c == '-'

def readKeyPart : List Char → Except Fault (String × List Char)
  | '"' :: cs => readString ⟨'"', false⟩ .text [] cs
  | '\'' :: cs => readString ⟨'\'', false⟩ .text [] cs
  | cs =>
    match cs.takeWhile isBareKeyChar with
    | [] => .error (.expected "a key")
    | part => .ok (String.ofList part, cs.dropWhile isBareKeyChar)

/-- Reads a key whose parts are joined by dots, blanks around it included. -/
def readKey : (bound : Nat) → List Char → Except Fault (List String × List Char)
  | 0, _ => .error .tooDeep
  | bound + 1, cs => do
    let (part, rest) ← readKeyPart (skipSpaces cs)
    match skipSpaces rest with
    | '.' :: rest => do
      let (parts, rest) ← readKey bound rest
      return (part :: parts, rest)
    | rest => return ([part], rest)

/-- Reads a key as the path to its table and its last part. -/
def readPath (cs : List Char) : Except Fault ((List String × String) × List Char) := do
  let (parts, rest) ← readKey (depthLimit - 1) cs
  return ((parts.dropLast, parts.getLastD ""), rest)

/-! ## Values -/

mutual

/-- Reads a value that is nested at most `depth` deep. -/
def readValue (depth : Nat) (cs : List Char) : Except Fault (Item × List Char) :=
  match cs, depth with
  | '"' :: _, _ | '\'' :: _, _ => (readQuoted cs).map fun (s, rest) => (.text s, rest)
  | '[' :: rest, depth + 1 => do
    let (items, rest) ← readItems depth rest.length (← skipGap false rest)
    return (.array items, rest)
  | '{' :: rest, depth + 1 => do
    match skipSpaces rest with
    | '}' :: rest => return (.table .inline [], rest)
    | rest => do
      let (fields, rest) ← readFields depth rest.length [] rest
      return (.table .inline fields, rest)
  | '[' :: _, 0 | '{' :: _, 0 => .error .tooDeep
  | cs, _ => do
    let (word, rest) := takeWord cs
    return (← wordValue word, rest)
termination_by (depth, 0)

def readItems (depth bound : Nat) (cs : List Char) : Except Fault (List Item × List Char) :=
  match cs, bound with
  | ']' :: rest, _ => .ok ([], rest)
  | _, 0 => .error (.expected "]")
  | _, bound + 1 => do
    let (item, rest) ← readValue depth cs
    match ← skipGap false rest with
    | ',' :: rest => do
      let (items, rest) ← readItems depth bound (← skipGap false rest)
      return (item :: items, rest)
    | ']' :: rest => return ([item], rest)
    | _ => throw (.expected "]")
termination_by (depth, bound + 1)

/-- Reads the fields of an inline table up to its end. -/
def readFields (depth bound : Nat) (fields : Fields) (cs : List Char) :
    Except Fault (Fields × List Char) :=
  match bound with
  | 0 => .error (.expected "\x7d")
  | bound + 1 => do
    let ((path, key), rest) ← readPath cs
    let (item, rest) ← readValue depth (skipSpaces (← expect '=' rest))
    let fields ← Fields.assign path key item fields
    match skipSpaces rest with
    | ',' :: rest => readFields depth bound fields rest
    | '}' :: rest => return (fields, rest)
    | _ => throw (.expected "\x7d")
termination_by (depth, bound + 1)

end

/-! ## Lines -/

/-- What has been read of a text: its contents, and the header that the next keys belong to. -/
structure Progress where
  fields : Fields := []
  header : List String := []

def readHeader (cs : List Char) : Except Fault (List String × List Char) := do
  let (path, rest) ← readKey (depthLimit - 1) cs
  return (path, ← expect ']' rest)

/-- Reads what stands on a line before its end. -/
def readLine (p : Progress) : List Char → Except Fault (Progress × List Char)
  | [] => .ok (p, [])
  | '\n' :: cs => .ok (p, '\n' :: cs)
  | '#' :: cs => .ok (p, '#' :: cs)
  | '[' :: '[' :: cs => do
    let (path, rest) ← readHeader cs
    return (⟨← Fields.append path p.fields, path⟩, ← expect ']' rest)
  | '[' :: cs => do
    let (path, rest) ← readHeader cs
    return (⟨← Fields.define path p.fields, path⟩, rest)
  | cs => do
    let ((path, key), rest) ← readPath cs
    let (item, rest) ← readValue (depthLimit - 1) (skipSpaces (← expect '=' rest))
    return ({ p with fields := ← Fields.assignIn p.header path key item p.fields }, rest)

/-- Reads all lines.  Each takes up a character, so their number is bounded. -/
def readLines : (bound : Nat) → Progress → List Char → Except Fault Fields
  | _, p, [] => .ok p.fields
  | 0, _, _ => .error .tooDeep
  | bound + 1, p, cs => do
    let (p, rest) ← readLine p (skipSpaces cs)
    readLines bound p (← endLine false rest)

/-- Reads a text as the fields of its top table. -/
def parse (text : String) : Except Fault Fields :=
  let cs := unifyBreaks [] text.toList
  let cs := if cs.head? == some '\uFEFF' then cs.tail else cs
  readLines (cs.length + 1) {} cs

end TableTest.Toml
