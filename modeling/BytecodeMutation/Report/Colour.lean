/-! Colours on a terminal. -/

namespace BytecodeMutation

inductive Colour where
  | red
  | green
  | yellow
  | blue
  | magenta
  | cyan
  deriving DecidableEq, Inhabited

namespace Colour

/-- The number that selects the colour for letters. -/
def code : Colour → String
  | red => "31"
  | green => "32"
  | yellow => "33"
  | blue => "34"
  | magenta => "35"
  | cyan => "36"

/-- A text between the sequences that switch the colour on and off. -/
def paint (c : Colour) (text : String) : String := "\x1b[" ++ c.code ++ "m" ++ text ++ "\x1b[0m"

def paintIf (coloured : Bool) (c : Colour) (text : String) : String :=
  if coloured then c.paint text else text

end Colour

end BytecodeMutation
