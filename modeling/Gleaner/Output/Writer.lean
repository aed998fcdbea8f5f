import Gleaner.Output.Format
import Gleaner.Output.Table
import Gleaner.Problem

/-!
# Writing output

A writer has a format and a degree of verbosity, and it may be quiet or use colours. Each function
gives the text that one call writes. Data, subjects and problems are always written. Everything else
is for people and is left out in the other formats; when quiet, warnings alone are kept.
-/

namespace Gleaner.Output

structure Writer where
  format : OutputFormat
  color : Bool
  quiet : Bool
  verbosity : Nat := 0
deriving DecidableEq, Inhabited

namespace Writer

def line (text : String) : String :=
  text ++ "\n"

/-- Text for people, left out when quiet. -/
def remark (w : Writer) (text : String) : String :=
  if w.quiet || w.format ≠ .human then "" else text

def info (w : Writer) (message : String) : String :=
  w.remark (line
    (if w.color then Style.blue.paint "ℹ" ++ " " ++ message else "INFO: " ++ message))

def success (w : Writer) (message : String) : String :=
  w.remark (line (Style.paintIf w.color .green message))

def warning (w : Writer) (message : String) : String :=
  if w.format ≠ .human then ""
  else line (if w.color then Style.yellow.paint message else "WARNING: " ++ message)

def heading (w : Writer) (title : String) : String :=
  w.remark (line "" ++ line
    (if w.color then Style.brightBlue.paint ("═══ " ++ title ++ " ═══")
     else "=== " ++ title ++ " ==="))

def table (w : Writer) (header : List String) (rows : List (List String)) : String :=
  w.remark (String.join ((Table.lines w.color header rows).map line))

/-- End a text with a line break; two of the formats get one in any case. -/
def emit (w : Writer) (text : String) : String :=
  match w.format with
  | .human => line text
  | .jsonPretty => line text
  | _ => if text.toList.getLast? = some '\n' then text else line text

def data (w : Writer) (v : Json) : String :=
  w.emit (w.format.formatDocument v)

def subject (w : Writer) (s : Subject) : String :=
  w.emit (w.format.formatSubject s)

def problem (w : Writer) (p : Problem) : String :=
  w.emit
    (match w.format with
      | .human => p.format w.color
      | format => format.formatDocument p.toJson)

end Writer

end Gleaner.Output
