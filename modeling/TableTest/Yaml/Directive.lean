/-
`TableTest.Yaml.Directive` — the directives before a document

A line that begins with a percent sign tells the version of YAML that a text follows, or
stands for a shorthand of tags.  Directives say nothing about the document here, but they must
be well formed and agree with each other.
-/
import TableTest.Yaml.Folded

namespace TableTest.Yaml

inductive Directive where
  | version (major minor : Nat)
  /-- A shorthand of tags, by the handle that the tags begin with. -/
  | tag (handle : String)
deriving DecidableEq, Repr

namespace Directive

def isNameChar (c : Char) : Bool := c.isAlphanum || c == '_' || c == '-'

def isAddressChar (c : Char) : Bool := isNameChar c || ";/?:@&=+$.!~*'(),[]".toList.contains c

def skipSpaces (cs : List Char) : List Char := cs.dropWhile isSpace

/-! ## Versions -/

/-- Reads a number of at most nine digits. -/
def readNumber (cs : List Char) : Except Fault (Nat × List Char) :=
  let digits := cs.takeWhile (·.isDigit)
  if digits.isEmpty || 9 < digits.length then .error .badDirective
  else
    .ok (digits.foldl (fun n c => 10 * n + (c.toNat - '0'.toNat)) 0, cs.dropWhile (·.isDigit))

def readVersion (cs : List Char) : Except Fault (Directive × List Char) := do
  let (major, rest) ← readNumber (skipSpaces cs)
  match rest with
  | '.' :: rest => do
    let (minor, rest) ← readNumber rest
    return (.version major minor, rest)
  | _ => throw .badDirective

/-! ## Shorthands of tags -/

/-- Reads a handle: an exclamation mark alone, or a name between two of them. -/
def readHandle : List Char → Except Fault (String × List Char)
  | '!' :: cs =>
    match cs.takeWhile isNameChar, cs.dropWhile isNameChar with
    | name, '!' :: rest => .ok ("!" ++ String.ofList name ++ "!", rest)
    | [], rest => .ok ("!", rest)
    | _, _ => .error .badDirective
  | _ => .error .badDirective

/-- The number of bytes that follow a first byte in UTF-8. -/
def followers? (byte : Nat) : Option Nat :=
  if byte < 0x80 then some 0
  else if byte < 0xC0 then none
  else if byte < 0xE0 then some 1
  else if byte < 0xF0 then some 2
  else if byte < 0xF8 then some 3
  else none

/-- How many bytes are to follow after one more byte, of which `left` were to follow. -/
def followersAfter? (left byte : Nat) : Option Nat :=
  match left with
  | 0 => followers? byte
  | left + 1 => if 0x80 ≤ byte && byte < 0xC0 then some left else none

/-- Passes over the address of a tag.  A percent sign and two digits give a byte, and `left`
is how many bytes are to follow before the next character. -/
def skipAddress : (left : Nat) → List Char → Except Fault (List Char)
  | left, '%' :: c :: d :: cs =>
    match (hexDigit? c).bind fun h => (hexDigit? d).bind fun l => followersAfter? left (16 * h + l)
    with
    | some left => skipAddress left cs
    | none => .error .badDirective
  | 0, c :: cs => if isAddressChar c then skipAddress 0 cs else .ok (c :: cs)
  | 0, [] => .ok []
  | _ + 1, _ => .error .badDirective

/-- Reads a handle and the address that it stands for. -/
def readTag (cs : List Char) : Except Fault (Directive × List Char) := do
  let (handle, rest) ← readHandle (skipSpaces cs)
  let address := skipSpaces rest
  let after ← skipAddress 0 address
  if address.length == rest.length || after.length == address.length || !atGap after then
    throw .badDirective
  return (.tag handle, after)

/-! ## Directives -/

def read (cs : List Char) : Except Fault (Directive × List Char) :=
  let rest := cs.dropWhile isNameChar
  if !atGap rest then .error .badDirective
  else
    match String.ofList (cs.takeWhile isNameChar) with
    | "YAML" => readVersion rest
    | "TAG" => readTag rest
    | _ => .error .badDirective

/-- Whether a directive is one that can be followed: of the versions only 1.1 and 1.2. -/
def isKnown : Directive → Bool
  | version major minor => major == 1 && (minor == 1 || minor == 2)
  | tag _ => true

/-- Whether two directives are about the same thing. -/
def clashes : Directive → Directive → Bool
  | version _ _, version _ _ => true
  | tag h, tag k => h == k
  | _, _ => false

/-- Whether directives are all known, and no two about the same thing. -/
def agree : List Directive → Bool
  | [] => true
  | d :: ds => d.isKnown && !ds.any d.clashes && agree ds

end Directive

end TableTest.Yaml
