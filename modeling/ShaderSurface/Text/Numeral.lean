import ShaderSurface.Text.Digit

/-!
# Numerals

A run of digits may be grouped by single underscores between digits, and its digits may come from
any script. Decimal numerals of more than `maxDigits` digits are neither read nor written; numerals
in base two, eight and sixteen have no such limit.
-/

namespace ShaderSurface

namespace Numeral

open Text

/-- The most digits of a decimal numeral that is read or written. -/
def maxDigits : Nat := 4300

def digitValue? (base : Nat) (c : Char) : Option Nat :=
  let value? :=
    match decimalValue? c with
    | some value => some value
    | none =>
      if 'a' ≤ c ∧ c ≤ 'f' then some (c.toNat - 'a'.toNat + 10)
      else if 'A' ≤ c ∧ c ≤ 'F' then some (c.toNat - 'A'.toNat + 10)
      else none
  value?.filter (· < base)

/-- The digits of a numeral in a base, grouped or not. -/
def digits? (base : Nat) (s : Text) : Option (List Nat) :=
  let groups := s.splitOn '_'
  if groups.any List.isEmpty then none
  else groups.flatten.mapM (digitValue? base)

def ofDigits (base : Nat) (digits : List Nat) : Nat :=
  digits.foldl (fun n digit => n * base + digit) 0

def decimal? (s : Text) : Option Nat := do
  let digits ← digits? 10 s
  if digits.length ≤ maxDigits then some (ofDigits 10 digits) else none

def baseOfLetter? (c : Char) : Option Nat :=
  if c = 'x' ∨ c = 'X' then some 16
  else if c = 'o' ∨ c = 'O' then some 8
  else if c = 'b' ∨ c = 'B' then some 2
  else none

/-- The number of a numeral that names its base: a zero, the letter of the base, perhaps an
underscore, and the digits. -/
def based? : Text → Option Nat
  | zero :: letter :: rest => do
    guard (decimalValue? zero = some 0)
    let base ← baseOfLetter? letter
    let digits ← digits? base (if rest.head? = some '_' then rest.tail else rest)
    return ofDigits base digits
  | _ => none

def signed? (unsigned? : Text → Option Nat) : Text → Option Int
  | '-' :: s => (unsigned? s).map fun n => -(n : Int)
  | '+' :: s => (unsigned? s).map Int.ofNat
  | s => (unsigned? s).map Int.ofNat

def integer? (s : Text) : Option Int :=
  signed? decimal? s <|> signed? based? s

def decimal (n : Nat) : Text :=
  Nat.toDigits 10 n

/-- The least number whose decimal numeral has more digits than the limit. -/
def writableBound : Nat :=
  Nat.pow 10 maxDigits

def isWritable (n : Int) : Bool :=
  n.natAbs < writableBound

def text? (n : Int) : Option String :=
  if isWritable n then some (toString n) else none

def oversizedMessage : String :=
  "Exceeds the limit (" ++ toString maxDigits ++
    " digits) for integer string conversion; use sys.set_int_max_str_digits() to increase the limit"

example : integer? "007".toList = some 7 := by decide
example : integer? "-1_0".toList = some (-10) := by decide
example : integer? "0x_1F".toList = some 31 := by decide
example : integer? "0x1_".toList = none := by decide
example : integer? "1__0".toList = none := by decide

end Numeral

end ShaderSurface
