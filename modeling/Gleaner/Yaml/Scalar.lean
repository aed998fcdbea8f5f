import Gleaner.Json.Basic
import Gleaner.Number.Decimal

/-!
# Plain scalars

What a plain scalar of a YAML document denotes: null, a truth value, an integer, a double, or else a
text. Digits behind an idle zero are a text. The writer asks the same question, because a text that
would be read as something else has to be quoted.
-/

namespace Gleaner.Yaml

def isNullText (text : String) : Bool :=
  text = "" || text = "~" || text = "null" || text = "Null" || text = "NULL"

def truthValue? (text : String) : Option Bool :=
  if text = "true" || text = "True" || text = "TRUE" then some true
  else if text = "false" || text = "False" || text = "FALSE" then some false
  else none

/-- Whether a numeral has an idle zero in front: such digits are a text. -/
def hasIdleZero (text : List Char) : Bool :=
  let digits := match text with
    | '+' :: rest => rest
    | '-' :: rest => rest
    | other => other
  match digits with
  | '0' :: c :: rest => (c :: rest).all Char.isDigit
  | _ => false

def digitIn? (base : Nat) (c : Char) : Option Nat :=
  let value :=
    if '0' ≤ c ∧ c ≤ '9' then some (c.toNat - 48)
    else if 'a' ≤ c ∧ c ≤ 'z' then some (c.toNat - 87)
    else if 'A' ≤ c ∧ c ≤ 'Z' then some (c.toNat - 55)
    else none
  value.bind fun v => if v < base then some v else none

def digitsIn? (base : Nat) (text : List Char) : Option Nat :=
  if text.isEmpty then none
  else text.foldlM (fun acc c => (digitIn? base c).map (base * acc + ·)) 0

/-- The size of an integer: decimal, or in the base that its first two characters name. -/
def sizeOf? (text : List Char) : Option Nat :=
  match text with
  | '0' :: 'x' :: rest => digitsIn? 16 rest
  | '0' :: 'o' :: rest => digitsIn? 8 rest
  | '0' :: 'b' :: rest => digitsIn? 2 rest
  | text => if hasIdleZero text then none else digitsIn? 10 text

/-- The integer that a scalar denotes. -/
def integer? (text : List Char) : Option Int :=
  match text with
  | '+' :: rest => (sizeOf? rest).map fun n => (n : Int)
  | '-' :: rest => (sizeOf? rest).map fun n => -(n : Int)
  | text => (sizeOf? text).map fun n => (n : Int)

/-- The double that a decimal with an optional sign, point and exponent denotes. -/
def decimal? (text : List Char) : Option Binary64 :=
  let (negative, text) := match text with
    | '-' :: rest => (true, rest)
    | '+' :: rest => (false, rest)
    | other => (false, other)
  let whole := text.takeWhile Char.isDigit
  let text := text.dropWhile Char.isDigit
  let (fraction, text) := match text with
    | '.' :: rest => (rest.takeWhile Char.isDigit, rest.dropWhile Char.isDigit)
    | other => ([], other)
  let digits := whole ++ fraction
  let exponent? : Option Int := match text with
    | [] => some 0
    | c :: rest => if c = 'e' || c = 'E' then Numeral.readInt? rest else none
  if digits.isEmpty then none
  else
    exponent?.bind fun exponent =>
      (digitsIn? 10 digits).map fun n =>
        .ofDecimal negative n (exponent - fraction.length)

/-- What a number of either kind denotes. -/
inductive Number where
  | integer (n : Int)
  | double (x : Binary64)
  | infinite
  | notANumber

def number? (text : String) : Option Number :=
  let chars := text.toList
  match integer? chars with
  | some n => some (.integer n)
  | none =>
    if text ∈ [".inf", ".Inf", ".INF", "+.inf", "+.Inf", "+.INF", "-.inf", "-.Inf", "-.INF"] then
      some .infinite
    else if text ∈ [".nan", ".NaN", ".NAN"] then some .notANumber
    else if hasIdleZero chars then none
    else
      (decimal? chars).bind fun x => if x.isFinite then some (.double x) else none

/-- The document value of a plain scalar. Integers have to fit a word, and doubles that are not
finite have no value. -/
def resolve? (text : String) : Option Json :=
  if isNullText text then some .null
  else
    match truthValue? text with
    | some b => some (.bool b)
    | none =>
      match number? text with
      | some (.integer n) =>
        if -(Nat.pow 2 63 : Int) ≤ n ∧ n < (Nat.pow 2 64 : Int) then some (.int n)
        else if -(Nat.pow 2 127 : Int) ≤ n ∧ n < (Nat.pow 2 128 : Int) then none
        else some (.float (.ofInt n))
      | some (.double x) => some (.float x)
      | some .infinite => some .null
      | some .notANumber => some .null
      | none => some (.string text)

/-- Whether a text written plain would be read as something other than a text, or as another text by
readers that go by older rules. -/
def isAmbiguous (text : String) : Bool :=
  text ∈ ["yes", "Yes", "YES", "no", "No", "NO", "on", "On", "ON", "off", "Off", "OFF"] ||
  isNullText text || (truthValue? text).isSome || (number? text).isSome || hasIdleZero text.toList

end Gleaner.Yaml
