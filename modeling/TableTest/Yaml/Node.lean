/-
`TableTest.Yaml.Node` — the document of a YAML text

A document is a scalar, a sequence or a mapping of such.  Where a text leaves out a value, an
empty plain scalar stands.
-/
import TableTest.Yaml.Token

namespace TableTest.Yaml

/-- A node of a document.  Plain scalars are told apart from quoted ones and blocks. -/
inductive Node where
  | scalar (plain : Bool) (text : String)
  | sequence (items : List Node)
  | mapping (fields : List (Node × Node))
deriving Repr

namespace Node

/-- What stands where a value is left out. -/
def empty : Node := scalar true ""

def endsBlockValue : List Token → Bool
  | .key :: _ | .colon :: _ | .blockEnd :: _ => true
  | _ => false

/-- Whether an entry of a sequence block is left out before these tokens. -/
def endsBlockEntry : List Token → Bool
  | .dash :: _ | .blockEnd :: _ => true
  | _ => false

/-- Whether an entry of a sequence that is not indented is left out before these tokens. -/
def endsFlatEntry (ts : List Token) : Bool := endsBlockValue ts || endsBlockEntry ts

/-- Whether a flow value is left out before these tokens; `close` ends the collection. -/
def endsFlowValue (close : Token) : List Token → Bool
  | t :: _ => t == .comma || t == close
  | [] => false

/-- Whether a flow key is left out before these tokens. -/
def endsFlowKey (close : Token) (ts : List Token) : Bool :=
  ts.head? == some .colon || endsFlowValue close ts

mutual

/-- Reads a node.  `block` allows block collections, and `flat` a sequence that is not
indented. -/
def read (block flat : Bool) : Nat → List Token → Except Fault (Node × List Token)
  | 0, _ => .error .tooDeep
  | bound + 1, ts =>
    match ts with
    | .scalar plain text :: rest => .ok (scalar plain text, rest)
    | .openSequence :: rest => (readFlowItems true bound rest).map fun (is, ts) => (sequence is, ts)
    | .openMapping :: rest => (readFlowFields true bound rest).map fun (fs, ts) => (mapping fs, ts)
    | .blockSequence :: rest =>
      if block then (readBlockItems bound rest).map fun (is, ts) => (sequence is, ts)
      else .error .unexpectedToken
    | .blockMapping :: rest =>
      if block then (readBlockFields bound rest).map fun (fs, ts) => (mapping fs, ts)
      else .error .unexpectedToken
    | .dash :: _ =>
      if flat then (readFlatItems bound ts).map fun (is, ts) => (sequence is, ts)
      else .error .unexpectedToken
    | _ => .error .unexpectedToken

/-- Reads a node, unless it is left out. -/
def readUnless (absent block flat : Bool) : Nat → List Token → Except Fault (Node × List Token)
  | 0, _ => .error .tooDeep
  | bound + 1, ts => if absent then .ok (empty, ts) else read block flat bound ts

def readBlockItems : Nat → List Token → Except Fault (List Node × List Token)
  | 0, _ => .error .tooDeep
  | bound + 1, ts =>
    match ts with
    | .dash :: rest => do
      let (item, rest) ← readUnless (endsBlockEntry rest) true false bound rest
      let (items, rest) ← readBlockItems bound rest
      return (item :: items, rest)
    | .blockEnd :: rest => .ok ([], rest)
    | _ => .error .missingDash

def readFlatItems : Nat → List Token → Except Fault (List Node × List Token)
  | 0, _ => .error .tooDeep
  | bound + 1, ts =>
    match ts with
    | .dash :: rest => do
      let (item, rest) ← readUnless (endsFlatEntry rest) true false bound rest
      let (items, rest) ← readFlatItems bound rest
      return (item :: items, rest)
    | _ => .ok ([], ts)

def readBlockFields : Nat → List Token → Except Fault (List (Node × Node) × List Token)
  | 0, _ => .error .tooDeep
  | bound + 1, ts =>
    match ts with
    | .key :: rest => do
      let (key, rest) ← readUnless (endsBlockValue rest) true true bound rest
      let (value, rest) ← readBlockValue bound rest
      let (fields, rest) ← readBlockFields bound rest
      return ((key, value) :: fields, rest)
    | .blockEnd :: rest => .ok ([], rest)
    | _ => .error .missingKey

def readBlockValue : Nat → List Token → Except Fault (Node × List Token)
  | 0, _ => .error .tooDeep
  | bound + 1, ts =>
    match ts with
    | .colon :: rest => readUnless (endsBlockValue rest) true true bound rest
    | _ => .ok (empty, ts)

def readFlowItems (first : Bool) : Nat → List Token → Except Fault (List Node × List Token)
  | 0, _ => .error .tooDeep
  | bound + 1, ts =>
    match first, ts with
    | _, .closeSequence :: rest => .ok ([], rest)
    | false, .comma :: .closeSequence :: rest => .ok ([], rest)
    | false, .comma :: rest => readFlowItem bound rest
    | false, _ => .error .missingComma
    | true, _ => readFlowItem bound ts

/-- Reads an item of a flow sequence and those after it.  A key in a flow sequence makes a
mapping of one field. -/
def readFlowItem : Nat → List Token → Except Fault (List Node × List Token)
  | 0, _ => .error .tooDeep
  | bound + 1, ts => do
    let (item, rest) ←
      match ts with
      | .key :: rest => readPair bound rest
      | _ => read false false bound ts
    let (items, rest) ← readFlowItems false bound rest
    return (item :: items, rest)

/-- Reads the field of a mapping that stands without braces in a flow sequence.  A key that is
left out takes the token after it along. -/
def readPair : Nat → List Token → Except Fault (Node × List Token)
  | 0, _ => .error .tooDeep
  | bound + 1, ts => do
    let absent := endsFlowKey .closeSequence ts
    let (key, rest) ← readUnless absent false false bound (if absent then ts.tail else ts)
    let (value, rest) ← readFlowValue .closeSequence bound rest
    return (mapping [(key, value)], rest)

def readFlowValue (close : Token) : Nat → List Token → Except Fault (Node × List Token)
  | 0, _ => .error .tooDeep
  | bound + 1, ts =>
    match ts with
    | .colon :: rest => readUnless (endsFlowValue close rest) false false bound rest
    | _ => .ok (empty, ts)

def readFlowFields (first : Bool) :
    Nat → List Token → Except Fault (List (Node × Node) × List Token)
  | 0, _ => .error .tooDeep
  | bound + 1, ts =>
    match first, ts with
    | _, .closeMapping :: rest => .ok ([], rest)
    | false, .comma :: .closeMapping :: rest => .ok ([], rest)
    | false, .comma :: rest => readFlowField bound rest
    | false, _ => .error .missingComma
    | true, _ => readFlowField bound ts

def readFlowField : Nat → List Token → Except Fault (List (Node × Node) × List Token)
  | 0, _ => .error .tooDeep
  | bound + 1, ts => do
    let (field, rest) ←
      match ts with
      | .key :: rest => do
        let (key, rest) ← readUnless (endsFlowKey .closeMapping rest) false false bound rest
        let (value, rest) ← readFlowValue .closeMapping bound rest
        pure ((key, value), rest)
      | _ => do
        let (key, rest) ← read false false bound ts
        pure ((key, empty), rest)
    let (fields, rest) ← readFlowFields false bound rest
    return (field :: fields, rest)

end

/-- Whether a document without content begins before these tokens. -/
def endsDocument : List Token → Bool
  | [] | .documentStart :: _ | .documentEnd :: _ => true
  | _ => false

/-- Splits off the directives at the start. -/
def takeDirectives : List Token → List Directive × List Token
  | .directive d :: ts => let (ds, rest) := takeDirectives ts; (d :: ds, rest)
  | ts => ([], ts)

/-- Reads the document of a list of tokens, and the tokens after it.  Directives stand only
before the marker of its start. -/
def readDocument (ts : List Token) : Except Fault (Node × List Token) :=
  let bound := 4 * ts.length + 4
  match takeDirectives ts with
  | ([], []) => .ok (empty, [])
  | (ds, .documentStart :: rest) =>
    if Directive.agree ds then readUnless (endsDocument rest) true false bound rest
    else .error .badDirective
  | ([], ts) => read true false bound ts
  | _ => .error .missingStart

/-- The document of a list of tokens, which must hold no other. -/
def ofTokens (ts : List Token) : Except Fault Node := do
  let (node, rest) ← readDocument ts
  if (rest.dropWhile (· == .documentEnd)).isEmpty then return node
  throw .severalDocuments

def parse (text : String) : Except Fault Node := do
  ofTokens (← Token.scan text)

end Node

end TableTest.Yaml
