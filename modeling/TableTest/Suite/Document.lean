/-
`TableTest.Suite.Document` — suite files

Reads a suite from a YAML text.  A text field takes the text of any scalar; a field that may
be absent is so when a plain `null` or `~` or nothing stands there.  A list or a record of
which nothing is written is empty.  Fields that are not known do not count; one that is known
must not be given twice.  Anchors, aliases and tags are not read: a text that holds them is
refused.  The program may be given another reader.
-/
import TableTest.Suite
import TableTest.Yaml.Node

namespace TableTest

open Yaml (Node)

namespace Suite.Document

/-- Why a YAML document is not a suite. -/
inductive Fault where
  | yaml (fault : Yaml.Fault)
  | expected (what : String)
  | missingField (name : String)
  | duplicateField (name : String)
  | unknownKind (name : String)
deriving DecidableEq, Repr

def Fault.describe : Fault → String
  | yaml fault => fault.describe
  | expected what => s!"expected {what}"
  | missingField name => s!"missing field '{name}'"
  | duplicateField name => s!"duplicate field '{name}'"
  | unknownKind name => s!"unknown kind of element '{name}'"

/-! ## Values -/

/-- The texts that stand for nothing. -/
def nullTexts : List String := ["", "~", "null", "Null", "NULL"]

def text : Node → Except Fault String
  | .scalar _ s => .ok s
  | _ => .error (.expected "a text")

/-- A text that may be absent. -/
def textOrNothing (node : Node) : Except Fault (Option String) :=
  match node with
  | .scalar true s => .ok (if nullTexts.contains s then none else some s)
  | node => (text node).map some

/-- A truth value: one of six plain words. -/
def flag : Node → Except Fault Bool
  | .scalar true "true" | .scalar true "True" | .scalar true "TRUE" => .ok true
  | .scalar true "false" | .scalar true "False" | .scalar true "FALSE" => .ok false
  | _ => .error (.expected "true or false")

def list {α : Type} (item : Node → Except Fault α) : Node → Except Fault (List α)
  | .sequence items => items.mapM item
  | .scalar true "" => .ok []
  | _ => .error (.expected "a list")

def fields : Node → Except Fault (List (String × Node))
  | .mapping fs => fs.mapM fun (key, value) => (text key).map (·, value)
  | .scalar true "" => .ok []
  | _ => .error (.expected "a record")

def kind (node : Node) : Except Fault ElementKind :=
  (text node).bind fun name =>
    match ElementKind.ofName? name with
    | some kind => .ok kind
    | none => .error (.unknownKind name)

/-- Attributes under their names; of two under one name the later counts. -/
def attributes (node : Node) : Except Fault (Dictionary String) := do
  let entries ← (← fields node).mapM fun (name, value) => (text value).map (name, ·)
  return .ofList entries

/-! ## Fields of records -/

/-- A field that may be left out. -/
def field? {α : Type} (fs : List (String × Node)) (name : String) (read : Node → Except Fault α) :
    Except Fault (Option α) :=
  match fs.filter (·.1 == name) with
  | [] => .ok none
  | [(_, value)] => (read value).map some
  | _ => .error (.duplicateField name)

/-- A field with a default. -/
def fieldOr {α : Type} (fs : List (String × Node)) (name : String) (default : α)
    (read : Node → Except Fault α) : Except Fault α :=
  (field? fs name read).map (·.getD default)

/-- A field that must be given. -/
def field {α : Type} (fs : List (String × Node)) (name : String) (read : Node → Except Fault α) :
    Except Fault α :=
  (field? fs name read).bind fun found =>
    match found with
    | some value => .ok value
    | none => .error (.missingField name)

def element (node : Node) : Except Fault Element := do
  let fs ← fields node
  return {
    id := ← fieldOr fs "id" none textOrNothing
    name := ← fieldOr fs "name" none textOrNothing
    kind := ← fieldOr fs "kind" .label kind
    text := ← fieldOr fs "text" "" text
    value := ← fieldOr fs "value" "" text
    checked := ← fieldOr fs "checked" false flag
    visible := ← fieldOr fs "visible" true flag
    editable := ← fieldOr fs "editable" true flag
    options := ← fieldOr fs "options" [] (list text)
    selected := ← fieldOr fs "selected" none textOrNothing
    href := ← fieldOr fs "href" none textOrNothing
    attributes := ← fieldOr fs "attributes" {} attributes }

def page (node : Node) : Except Fault Page := do
  let fs ← fields node
  return {
    url := ← field fs "url" text
    title := ← fieldOr fs "title" "" text
    text := ← fieldOr fs "text" "" text
    elements := ← fieldOr fs "elements" [] (list element)
    script := ← fieldOr fs "script" [] (list (list text))
    ready := ← fieldOr fs "ready" true flag }

def site (node : Node) : Except Fault Site := do
  let fs ← fields node
  return {
    baseUrl := ← fieldOr fs "base_url" none textOrNothing
    pages := ← fieldOr fs "pages" [] (list page) }

def test (node : Node) : Except Fault SuiteTest := do
  let fs ← fields node
  return {
    name := ← fieldOr fs "name" none textOrNothing
    url := ← field fs "url" text }

def suite (node : Node) : Except Fault Suite := do
  let fs ← fields node
  return {
    name := ← field fs "name" text
    description := ← fieldOr fs "description" none textOrNothing
    site := ← fieldOr fs "site" {} site
    tests := ← fieldOr fs "tests" [] (list test) }

/-- The suite in a YAML text. -/
def ofText (yaml : String) : Except String Suite :=
  (((Node.parse yaml).mapError .yaml).bind suite).mapError Fault.describe

end Suite.Document

namespace Suite

/-- The suite in a text that some reader reads. -/
def parseWith (read : String → Except String Suite) (text : String) : Except Failure Suite :=
  (read text).mapError .suiteInvalid

def parse (yaml : String) : Except Failure Suite := parseWith Document.ofText yaml

end Suite

end TableTest
