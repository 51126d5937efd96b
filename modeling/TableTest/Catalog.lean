/-
`TableTest.Catalog` — the commands that a script can use

The catalog is made from a list of capabilities.  A capability that is reserved, repeated or
too wide is passed over; every other one registers its family of commands.  A name can be
registered once and must not be reserved; the first that breaks this stops the making.
-/
import TableTest.Catalog.Entry
import TableTest.Dictionary
import TableTest.Settings

namespace TableTest

/-- The commands by name. -/
structure Catalog where
  table : Dictionary Entry := {}
deriving DecidableEq, Repr

namespace Catalog

/-! ## Looking up -/

def get? (catalog : Catalog) (command : String) : Option Entry :=
  catalog.table.get? command

def contains (catalog : Catalog) (command : String) : Bool :=
  catalog.table.contains command

def names (catalog : Catalog) : List String :=
  catalog.table.names

def entries (catalog : Catalog) : List Entry :=
  catalog.table.values

def size (catalog : Catalog) : Nat :=
  catalog.table.size

/-! ## Making -/

/-- Registers a command, or names it when its name is reserved or taken. -/
def register (reserved : List String) (catalog : Catalog) (entry : Entry) :
    Except String Catalog :=
  if reserved.contains entry.command || catalog.contains entry.command then
    .error entry.command
  else
    .ok ⟨catalog.table.insert entry.command entry⟩

/-- Registers commands one after the other. -/
def registerAll (reserved : List String) : List Entry → Catalog → Except String Catalog
  | [], catalog => .ok catalog
  | entry :: entries, catalog =>
    (register reserved catalog entry).bind (registerAll reserved entries)

/-- Registers the families of the capabilities; `seen` are the names to pass over. -/
def registerFamilies (settings : CatalogSettings) :
    List String → List Capability → Catalog → Except String Catalog
  | _, [], catalog => .ok catalog
  | seen, c :: cs, catalog =>
    if seen.contains c.name then registerFamilies settings seen cs catalog
    else if Capability.maxArity < c.arity then
      registerFamilies settings (c.name :: seen) cs catalog
    else
      (registerAll settings.reserved (Entry.family settings.timeoutText c) catalog).bind
        (registerFamilies settings (c.name :: seen) cs)

/-- The catalog of the capabilities, or the first name that could not be registered. -/
def assemble (settings : CatalogSettings) (cs : List Capability) : Except String Catalog :=
  registerFamilies settings settings.reserved cs {}

/-- The catalog of the capabilities. -/
def build (settings : CatalogSettings) (cs : List Capability) : Except Failure Catalog :=
  (assemble settings cs).mapError .catalogConsistency

/-! ## Resolving a script -/

/-- The step of a row. -/
def resolveRow (catalog : Catalog) (row : Row) : Except Failure Step :=
  match catalog.get? row.command with
  | some entry => .ok (entry.step row)
  | none => .error (.unknownCommand row.command)

/-- The steps of a script, or the first command that the catalog does not have. -/
def resolve (catalog : Catalog) : List Row → Except Failure (List Step)
  | [] => .ok []
  | row :: rows =>
    (catalog.resolveRow row).bind fun step => (catalog.resolve rows).map (step :: ·)

end Catalog

end TableTest
