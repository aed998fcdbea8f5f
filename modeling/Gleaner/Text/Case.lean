import Gleaner.Text.CaseTable
import Gleaner.Text.CasedTable
import Gleaner.Text.FoldTable

/-!
# Changing case

Every character is replaced by its form in the other case, which may be several characters. Only one
form depends on the neighbours: a capital sigma that ends a word becomes the final sigma.
-/

namespace Gleaner.Text

def isCased (c : Char) : Bool :=
  inTable casedSpans c

def isCaseIgnorable (c : Char) : Bool :=
  inTable caseIgnorableSpans c

/-- The form of a character by a table of long forms and one of single characters. -/
def caseForm (long : List (Nat × List Nat)) (runs : List Run) (c : Char) : List Char :=
  match long.lookup c.toNat with
  | some form => form.map Char.ofNat
  | none =>
    match mapped? runs c.toNat with
    | some image => [Char.ofNat image]
    | none => [c]

def upperForm (c : Char) : List Char :=
  caseForm upperLong upperRuns c

def lowerForm (c : Char) : List Char :=
  caseForm lowerLong lowerRuns c

/-- Whether the first character that is not case-ignorable is cased. -/
def meetsCased (text : List Char) : Bool :=
  match text.dropWhile isCaseIgnorable with
  | c :: _ => isCased c
  | [] => false

/-- Lower the case of a text; `before` is what precedes it, last character first. -/
def lowerAfter (before : List Char) : List Char → List Char
  | [] => []
  | c :: rest =>
    let form :=
      if c = 'Σ' then [if meetsCased before && !meetsCased rest then 'ς' else 'σ']
      else lowerForm c
    form ++ lowerAfter (c :: before) rest

def toUpper (text : String) : String :=
  String.ofList (text.toList.flatMap upperForm)

def toLower (text : String) : String :=
  String.ofList (lowerAfter [] text.toList)

/-! ### Comparing without case -/

/-- The character that stands for all that differ from `c` only in case. -/
def foldOf (c : Nat) : Nat :=
  (mapped? foldRuns c).getD c

/-- The characters that differ from `c` only in case, itself included. -/
def caseVariants (c : Char) : List Char :=
  let folded := foldOf c.toNat
  c :: Char.ofNat folded :: (sources foldRuns folded).map Char.ofNat

end Gleaner.Text
