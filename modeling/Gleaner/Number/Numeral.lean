/-!
# Integer numerals

Writing and reading integers in base ten. A numeral that is read may carry a sign and leading zeros
and must have a digit; nothing else, and no blank, is accepted.
-/

namespace Gleaner.Numeral

def digitChar (d : Nat) : Char :=
  Char.ofNat (48 + d)

def digitValue? (c : Char) : Option Nat :=
  if '0' ≤ c ∧ c ≤ '9' then some (c.toNat - 48) else none

/-- The digits of `n`, most significant first, put before `rest`. -/
def digitsBefore (n : Nat) (rest : List Char) : List Char :=
  if h : n < 10 then digitChar n :: rest
  else digitsBefore (n / 10) (digitChar (n % 10) :: rest)
termination_by n
decreasing_by omega

def ofNat (n : Nat) : String :=
  String.ofList (digitsBefore n [])

def ofInt (i : Int) : String :=
  match i with
  | .ofNat n => ofNat n
  | .negSucc n => "-" ++ ofNat (n + 1)

/-- Read further digits after the value `acc`; fails at anything that is no digit. -/
def readDigits (acc : Nat) : List Char → Option Nat
  | [] => some acc
  | c :: rest => (digitValue? c).bind fun d => readDigits (10 * acc + d) rest

def readNat? : List Char → Option Nat
  | [] => none
  | text => readDigits 0 text

/-- Read an integer with an optional sign. -/
def readInt? : List Char → Option Int
  | '-' :: rest => (readNat? rest).map fun n => -(n : Int)
  | '+' :: rest => (readNat? rest).map fun n => (n : Int)
  | text => (readNat? text).map fun n => (n : Int)

/-- Whether an integer fits a signed word of 64 bits. -/
def fitsWord (i : Int) : Bool :=
  -(Nat.pow 2 63 : Int) ≤ i && i < (Nat.pow 2 63 : Int)

/-- Read a signed word of 64 bits. -/
def readWord? (text : String) : Option Int64 :=
  (readInt? text.toList).bind fun i => if fitsWord i then some (Int64.ofInt i) else none

/-- Read an index: an optional plus sign and digits, below the limit of an unsigned word. -/
def readIndex? (text : String) : Option Nat :=
  let digits := match text.toList with
    | '+' :: rest => readNat? rest
    | other => readNat? other
  digits.bind fun n => if n < Nat.pow 2 64 then some n else none

end Gleaner.Numeral
