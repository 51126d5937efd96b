/-
`TableTest.Text.Affix` — what stands before, after and inside a text

Cutting a text at its ends and at a character.  Every function is a function on the
list of characters carried over to `String`, so a law about a cut is a law about lists.
-/
namespace TableTest.Text

/-! ## On lists of characters -/

/-- What stands on either side of the first `c`. -/
def cutFirst? (c : Char) : List Char → Option (List Char × List Char)
  | [] => none
  | d :: ds => if d = c then some ([], ds) else (cutFirst? c ds).map fun (l, r) => (d :: l, r)

/-- What stands on either side of the last `c`. -/
def cutLast? (c : Char) (cs : List Char) : Option (List Char × List Char) :=
  (cutFirst? c cs.reverse).map fun (r, l) => (l.reverse, r.reverse)

/-- Whether `pattern` stands somewhere in the list. -/
def occursIn (pattern : List Char) : List Char → Bool
  | [] => pattern.isEmpty
  | c :: cs => pattern.isPrefixOf (c :: cs) || occursIn pattern cs

/-! ## On texts -/

def startsWith (head s : String) : Bool :=
  head.toList.isPrefixOf s.toList

/-- The text after `head`, if the text begins with it. -/
def after? (head s : String) : Option String :=
  (head.toList.isPrefixOf? s.toList).map String.ofList

/-- The text before `tail`, if the text ends with it. -/
def before? (tail s : String) : Option String :=
  (tail.toList.isSuffixOf? s.toList).map String.ofList

def splitFirst? (c : Char) (s : String) : Option (String × String) :=
  (cutFirst? c s.toList).map fun (l, r) => (String.ofList l, String.ofList r)

def splitLast? (c : Char) (s : String) : Option (String × String) :=
  (cutLast? c s.toList).map fun (l, r) => (String.ofList l, String.ofList r)

def contains (pattern s : String) : Bool :=
  occursIn pattern.toList s.toList

/-- The text without the run of `c` at its end. -/
def dropTail (c : Char) (s : String) : String :=
  String.ofList (s.toList.reverse.dropWhile (· == c)).reverse

end TableTest.Text
