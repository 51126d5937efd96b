/-
`TableTest.Toml.Item` — the contents of a TOML text

Values and tables, and the rules by which keys and headers define tables.  A table is defined
once: by a header, by dotted keys or as an inline value.  A header may define a table that so
far only the headers of its subtables have implied.
-/
namespace TableTest.Toml

/-- Why a text is not TOML. -/
inductive Fault where
  | expected (what : String)
  | unclosedString
  | badEscape
  | badNumber (word : String)
  | duplicateKey (key : String)
  | notATable (key : String)
  | tooDeep
deriving DecidableEq, Repr

def Fault.describe : Fault → String
  | expected what => s!"expected {what}"
  | unclosedString => "unclosed string"
  | badEscape => "invalid escape sequence"
  | badNumber word => s!"invalid value '{word}'"
  | duplicateKey key => s!"duplicate key '{key}'"
  | notATable key => s!"key '{key}' is not a table"
  | tooDeep => "the text is nested too deeply"

/-- What has defined a table. -/
inductive Origin where
  /-- Its own header, or the start of the text. -/
  | header
  /-- The header of a subtable. -/
  | implied
  /-- Dotted keys. -/
  | dotted
  /-- An inline value, which is complete. -/
  | inline
deriving DecidableEq, Repr

/-- A value, a table, or a list of tables with the same header. -/
inductive Item where
  | text (s : String)
  | integer (i : Int)
  | flag (b : Bool)
  | float
  | datetime
  | array (items : List Item)
  | table (origin : Origin) (fields : List (String × Item))
  | tables (items : List (List (String × Item)))
deriving Repr

abbrev Fields := List (String × Item)

namespace Fields

def alter (key : String) (change : Option Item → Except Fault Item) :
    Fields → Except Fault Fields
  | [] => (change none).map fun item => [(key, item)]
  | (k, item) :: rest =>
    if k = key then (change (some item)).map fun item => (k, item) :: rest
    else (alter key change rest).map ((k, item) :: ·)

/-- Changes the last of the tables under one header. -/
def alterLast (change : Fields → Except Fault Fields) : List Fields → Except Fault (List Fields)
  | [] => .ok []
  | [fs] => (change fs).map ([·])
  | fs :: rest => (alterLast change rest).map (fs :: ·)

/-- Changes the table at the end of a path, whose tables come into being on the way.  Dotted
keys do not reach into tables that have headers.  `own` says whether dotted keys have defined
the table where the path starts, and `change` learns it of the table where it ends. -/
def descend (dotted : Bool) (change : (own : Bool) → Fields → Except Fault Fields) :
    (path : List String) → (own : Bool) → Fields → Except Fault Fields
  | [], own, fs => change own fs
  | key :: path, _, fs =>
    alter key (fun item =>
      match item with
      | none =>
        (descend dotted change path dotted []).map (.table (if dotted then .dotted else .implied))
      | some (.table .inline _) => .error (.notATable key)
      | some (.table origin sub) =>
        if dotted && origin = .header then .error (.duplicateKey key)
        else (descend dotted change path (origin = .dotted) sub).map (.table origin)
      | some (.tables items) =>
        (alterLast (descend dotted change path false) items).map .tables
      | some _ => .error (.notATable key)) fs

/-- Gives a key of a table its value.  Dotted keys only add to tables that they have made. -/
def assign (path : List String) (key : String) (item : Item) (fs : Fields) :
    Except Fault Fields :=
  descend true (fun own fs =>
    if own == path.isEmpty then .error (.duplicateKey key)
    else alter key (fun old => if old.isSome then .error (.duplicateKey key) else .ok item) fs)
    path false fs

/-- Changes what a header stands for: its last key in the table that the others lead to. -/
def atHeader (path : List String) (change : String → Option Item → Except Fault Item)
    (fs : Fields) : Except Fault Fields :=
  match path.getLast? with
  | some key => descend false (fun _ fs => alter key (change key) fs) path.dropLast false fs
  | none => .error (.expected "a key")

def define (path : List String) (fs : Fields) : Except Fault Fields :=
  atHeader path (fun key item =>
    match item with
    | none => .ok (.table .header [])
    | some (.table .implied sub) => .ok (.table .header sub)
    | some _ => .error (.duplicateKey key)) fs

/-- Adds a table to the list of tables with one header. -/
def append (path : List String) (fs : Fields) : Except Fault Fields :=
  atHeader path (fun key item =>
    match item with
    | none => .ok (.tables [[]])
    | some (.tables items) => .ok (.tables (items ++ [[]]))
    | some _ => .error (.duplicateKey key)) fs

/-- Gives a key its value in the table under a header. -/
def assignIn (header path : List String) (key : String) (item : Item) (fs : Fields) :
    Except Fault Fields :=
  descend false (fun _ fs => assign path key item fs) header false fs

end Fields

end TableTest.Toml
