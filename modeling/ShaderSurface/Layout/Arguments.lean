import ShaderSurface.Keyed
import ShaderSurface.Text.Numeral

/-!
# Arguments of a layout qualifier

The arguments are items between commas. An item is a name alone, or a name with a value after an
equals sign; a value is an integer literal or a name. Spaces, tabs and line ends may stand around
every name, value and sign. A repeated name keeps its first place and its last value.
-/

namespace ShaderSurface

/-- The value of a layout argument. A name alone is a flag. -/
inductive LayoutValue where
  | number (n : Nat)
  | name (s : String)
  | flag
  deriving DecidableEq, Repr, Inhabited

namespace LayoutValue

def number? : LayoutValue → Option Nat
  | number n => some n
  | _ => none

end LayoutValue

namespace Layout

open Text

/-- The space that may stand around a name, a value or a sign. -/
def isSpace (c : Char) : Bool :=
  c = ' ' || c = '\t' || c = '\x0c' || c = '\r' || c = '\n'

def trimSpace (s : Text) : Text :=
  ((s.dropWhile isSpace).reverse.dropWhile isSpace).reverse

def isNameStart (c : Char) : Bool :=
  c.isAlpha || c = '_'

def isNamePart (c : Char) : Bool :=
  c.isAlphanum || c = '_'

def isName : Text → Bool
  | [] => false
  | c :: rest => isNameStart c && rest.all isNamePart

def isHexDigit (c : Char) : Bool :=
  c.isDigit || ('a' ≤ c && c ≤ 'f') || ('A' ≤ c && c ≤ 'F')

def withoutSuffix (s : Text) : Text :=
  match s.reverse with
  | 'u' :: rest | 'U' :: rest => rest.reverse
  | _ => s

def numberIn? (base : Nat) (digits : Text) : Option Nat :=
  (digits.mapM (Numeral.digitValue? base)).map (Numeral.ofDigits base)

/-- The number of an integer literal. Digits after `0x` are hexadecimal, digits after another
leading zero octal, and all others decimal, in which case there is a limit to their number. -/
def literal? (s : Text) : Option Nat :=
  match withoutSuffix s with
  | '0' :: 'x' :: digits | '0' :: 'X' :: digits =>
    if digits.isEmpty || !digits.all isHexDigit then none else numberIn? 16 digits
  | digits =>
    if digits.isEmpty || !digits.all Char.isDigit then none
    else if digits.head? = some '0' && digits.length > 1 then numberIn? 8 digits
    else if digits.length ≤ Numeral.maxDigits then numberIn? 10 digits
    else none

def value? (s : Text) : Option LayoutValue :=
  if isName s then some (.name (String.ofList s)) else (literal? s).map .number

def item? (s : Text) : Option (String × LayoutValue) :=
  match (s.splitOn '=').map trimSpace with
  | [name] => if isName name then some (String.ofList name, .flag) else none
  | [name, value] =>
    if isName name then (value? value).map (String.ofList name, ·) else none
  | _ => none

/-- The arguments that a text lists. An empty text lists none. -/
def arguments? (s : Text) : Option (Keyed String LayoutValue) :=
  if s.isEmpty then some []
  else ((s.splitOn ',').mapM item?).map Keyed.ofPairs

end Layout

end ShaderSurface
