import ShaderSurface.Text.Blank
import ShaderSurface.Text.Numeral
import ShaderSurface.Text.Quoted

/-!
# Tables of set-aside spans

A table holds the texts that were set aside while a source is read, in the order in which they were
stored. A text is found again by its reference, the decimal numeral of its place.
-/

namespace ShaderSurface

/-- The texts set aside so far, in order. -/
structure SpanTable where
  spans : List Text := []
  deriving DecidableEq, Repr, Inhabited

inductive ReferenceError where
  | notDecimal (reference : Text)
  | tooLong (digits : Nat)
  deriving DecidableEq, Repr

/-- The message of a reference error. A reference that is not decimal is shown in at most two
hundred characters. -/
def ReferenceError.message : ReferenceError → String
  | notDecimal reference =>
    "invalid literal for int() with base 10: " ++
      String.ofList ((Text.quoted reference).take 200)
  | tooLong digits =>
    "Exceeds the limit (" ++ toString Numeral.maxDigits ++
      " digits) for integer string conversion: value has " ++ toString digits ++
      " digits; use sys.set_int_max_str_digits() to increase the limit"

namespace SpanTable

open Text Numeral

def size (table : SpanTable) : Nat := table.spans.length

def store (span : Text) (table : SpanTable) : Text × SpanTable :=
  (decimal table.size, ⟨table.spans ++ [span]⟩)

/-- The text at a place, counted from the end if the place is negative. -/
def at? (table : SpanTable) (place : Int) : Option Text :=
  if 0 ≤ place then table.spans[place.toNat]?
  else if -place ≤ table.size then table.spans[table.size - (-place).toNat]?
  else none

/-- The number that a run of digits gives. -/
def number (reference : Text) : Except ReferenceError Nat :=
  let leading := reference.takeWhile fun c => (decimalValue? c).isSome
  if leading.length > maxDigits then .error (.tooLong leading.length)
  else
    match reference.mapM decimalValue? with
    | some digits => .ok (ofDigits 10 digits)
    | none => .error (.notDecimal reference)

/-- The text that a reference stands for. A reference is a single word of digits; any other list of
words, and a place outside the table, stands for nothing. -/
def lookup (table : SpanTable) : List Word → Except ReferenceError (Option Text)
  | [word] =>
    let reference := trim word
    if reference.isEmpty || !reference.all isDigit then .ok none
    else (number reference).map (table.spans[·]?)
  | _ => .ok none

@[simp] theorem size_store (span : Text) (table : SpanTable) :
    (table.store span).2.size = table.size + 1 := by
  simp [store, size]

end SpanTable

end ShaderSurface
