/-
`TableTest.Program.Style` — colours of the terminal

A style is given as the parameters of an escape sequence.  Without colours a styled text is
the text itself.
-/
namespace TableTest.Program

inductive Style where
  | bold
  | dim
  | green
  | red
  | yellow
  | boldGreen
  | boldRed
deriving DecidableEq, Repr

namespace Style

/-- The parameters of the escape sequence that starts the style. -/
def parameters : Style → String
  | bold => "1"
  | dim => "2"
  | green => "32"
  | red => "31"
  | yellow => "33"
  | boldGreen => "1;32"
  | boldRed => "1;31"

/-- The escape sequence that ends every style. -/
def reset : String := "\x1b[0m"

def start (style : Style) : String := "\x1b[" ++ style.parameters ++ "m"

/-- The text in a style; where the text itself ends all styles, the style starts again. -/
def apply (style : Style) (coloured : Bool) (text : String) : String :=
  if coloured then
    style.start ++ (reset ++ style.start).intercalate (text.splitOn reset) ++ reset
  else text

end Style

/-- The text followed by blanks up to a width. -/
def padTo (width : Nat) (text : String) : String :=
  text.pushn ' ' (width - text.length)

end TableTest.Program
