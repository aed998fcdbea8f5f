/-!
# Coloured text

A style is switched on by a control sequence in front of the text and off by another behind it.
Where the text itself switches styles off, the style is switched on again.
-/

namespace Gleaner.Output

inductive Style where
  | bold
  | redBold
  | blue
  | green
  | yellow
  | brightBlue
deriving DecidableEq

namespace Style

def code : Style → String
  | bold => "1"
  | redBold => "1;31"
  | blue => "34"
  | green => "32"
  | yellow => "33"
  | brightBlue => "94"

def opening (style : Style) : String :=
  "\x1b[" ++ style.code ++ "m"

def closing : String := "\x1b[0m"

/-- Put `again` behind every closing sequence. -/
def reopen (again : List Char) : List Char → List Char
  | '\x1b' :: '[' :: '0' :: 'm' :: rest => '\x1b' :: '[' :: '0' :: 'm' :: again ++ reopen again rest
  | c :: rest => c :: reopen again rest
  | [] => []

def paint (style : Style) (text : String) : String :=
  style.opening ++ String.ofList (reopen style.opening.toList text.toList) ++ closing

/-- Paint a text if colours are wanted. -/
def paintIf (color : Bool) (style : Style) (text : String) : String :=
  if color then style.paint text else text

end Style

end Gleaner.Output
