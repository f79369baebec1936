import ShaderSurface.Text.Numeral

/-!
# Values for data interchange

A JSON value is a scalar, an array or an object whose fields keep their order. Numbers that are not
integers are kept by their shortest decimal text, since nothing is computed with them.
-/

namespace ShaderSurface

inductive Scalar where
  | null
  | bool (b : Bool)
  | int (n : Int)
  | decimal (digits : String)
  | infinite (negative : Bool)
  | notANumber
  | text (s : String)
  deriving DecidableEq, Repr, Inhabited

namespace Scalar

def text? : Scalar → Option String
  | text s => some s
  | _ => none

def bool? : Scalar → Option Bool
  | bool b => some b
  | _ => none

def int? : Scalar → Option Int
  | int n => some n
  | _ => none

def ofText? : Option String → Scalar
  | some s => text s
  | none => null

/-- The value's integer, if it is one, has a decimal numeral. -/
def isWritable : Scalar → Bool
  | int n => Numeral.isWritable n
  | _ => true

end Scalar

/-- A value for data interchange. -/
inductive Json where
  | scalar (value : Scalar)
  | array (items : List Json)
  | object (fields : List (String × Json))
  deriving Inhabited, Repr

namespace Json

def null : Json := scalar .null

def bool (b : Bool) : Json := scalar (.bool b)

def int (n : Int) : Json := scalar (.int n)

def text (s : String) : Json := scalar (.text s)

def ofText? (s : Option String) : Json := scalar (.ofText? s)

mutual

/-- Every integer in the value has a decimal numeral. -/
def isWritable : Json → Bool
  | scalar value => value.isWritable
  | array items => allWritable items
  | object fields => allFieldsWritable fields

def allWritable : List Json → Bool
  | [] => true
  | item :: items => item.isWritable && allWritable items

def allFieldsWritable : List (String × Json) → Bool
  | [] => true
  | (_, value) :: fields => value.isWritable && allFieldsWritable fields

end

end Json

end ShaderSurface
