import ShaderSurface.Declaration.Basic
import ShaderSurface.Json.Printer

/-!
# Filled-in forms and their check

A form has the fields of a record, filled in with any values. The check settles a form into a
declaration or names every problem that stands in the way.
-/

namespace ShaderSurface

/-- A member of a form: a declaration, or a value that is none. -/
inductive Member where
  | declaration (d : Declaration)
  | other (value : Scalar)
  deriving DecidableEq, Repr, Inhabited

namespace Member

def declaration? : Member → Option Declaration
  | declaration d => some d
  | other _ => none

def toJson : Member → Json
  | declaration d => d.toJson
  | other value => .scalar value

end Member

/-- The fields of a record, not checked yet. -/
structure Form where
  qualifier : Scalar := .null
  type : Scalar := .null
  name : Scalar := .null
  amount : Scalar := .null
  isInvariant : Scalar := .bool false
  isCentroid : Scalar := .bool false
  layout : Scalar := .null
  precision : Scalar := .null
  structName : Option String := none
  members : Option (List Member) := none
  deriving DecidableEq, Repr, Inhabited

/-- What stands in the way of a declaration. -/
inductive Problem where
  | unknownQualifier (given : Scalar)
  | unknownType (given : Scalar)
  | missingName
  | sizeNotANumber (given : Scalar)
  | flagNotBoolean
  | layoutNotText (given : Scalar)
  | unknownPrecision (given : Scalar)
  | structNameApart
  | bodyApart
  | unfinishedMember
  deriving DecidableEq, Repr

def Scalar.shown : Scalar → String
  | .null => "None"
  | .bool true => "True"
  | .bool false => "False"
  | .int n => toString n
  | .decimal digits => digits
  | .infinite false => "inf"
  | .infinite true => "-inf"
  | .notANumber => "nan"
  | .text s => String.ofList (Text.quoted s.toList)

def Problem.message : Problem → String
  | unknownQualifier given => "unknown qualifier " ++ given.shown
  | unknownType given => "unknown type " ++ given.shown
  | missingName => "missing name"
  | sizeNotANumber given => "array size is not a number (" ++ given.shown ++ ")"
  | flagNotBoolean => "invariant/centroid flags must be booleans"
  | layoutNotText given => "layout must be text, got " ++ given.shown
  | unknownPrecision given => "unknown precision " ++ given.shown
  | structNameApart => "struct name and struct type must come together"
  | bodyApart => "block body and block type must come together"
  | unfinishedMember => "block members must be finished declarations"

namespace Form

def toJson (f : Form) : Json :=
  Declaration.record (.scalar f.qualifier) (.scalar f.type) (.scalar f.name) (.scalar f.amount)
    (.scalar f.isInvariant) (.scalar f.isCentroid) (.scalar f.layout) (.scalar f.precision)
    (.ofText? f.structName)
    (match f.members with
      | none => .null
      | some members => .array (members.map Member.toJson))

def qualifier? (f : Form) : Option Qualifier :=
  f.qualifier.text?.bind Qualifier.ofKeyword?

def type? (f : Form) : Option DeclaredType :=
  f.type.text?.bind DeclaredType.ofName?

def name? (f : Form) : Option String :=
  f.name.text?.filter (· ≠ "")

/-- The amount that the form gives, one if it says nothing. -/
def amount? (f : Form) : Option Int :=
  if f.amount = .null then some 1 else f.amount.int?

def flags? (f : Form) : Option (Bool × Bool) := do
  return (← f.isInvariant.bool?, ← f.isCentroid.bool?)

def layout? (f : Form) : Option (Option String) :=
  if f.layout = .null then some none else f.layout.text?.map some

def precision? (f : Form) : Option (Option Precision) :=
  if f.precision = .null then some none
  else (f.precision.text?.bind Precision.ofKeyword?).map some

def members? (f : Form) : Option (Option (List Declaration)) :=
  match f.members with
  | none => some none
  | some members => (members.mapM Member.declaration?).map some

/-- The form names a struct exactly if its type is the struct marker. -/
def structNameFits (f : Form) : Bool :=
  (f.type? == some .struct) == f.structName.isSome

/-- The form has a body exactly if its type is the block marker. -/
def bodyFits (f : Form) : Bool :=
  (f.type? == some .block) == f.members.isSome

def declaration? (f : Form) : Option Declaration := do
  let qualifier ← f.qualifier?
  let type ← f.type?
  let name ← f.name?
  let amount ← f.amount?
  let (isInvariant, isCentroid) ← f.flags?
  let layout ← f.layout?
  let precision ← f.precision?
  guard f.structNameFits
  guard f.bodyFits
  let members ← f.members?
  return {
    qualifier, type, name, amount, isInvariant, isCentroid, layout, precision, members
    structName := f.structName }

def problemIf (failed : Bool) (problem : Problem) : List Problem :=
  if failed then [problem] else []

def problems (f : Form) : List Problem :=
  problemIf f.qualifier?.isNone (.unknownQualifier f.qualifier) ++
    problemIf f.type?.isNone (.unknownType f.type) ++
    problemIf f.name?.isNone .missingName ++
    problemIf f.amount?.isNone (.sizeNotANumber f.amount) ++
    problemIf f.flags?.isNone .flagNotBoolean ++
    problemIf f.layout?.isNone (.layoutNotText f.layout) ++
    problemIf f.precision?.isNone (.unknownPrecision f.precision) ++
    problemIf (!f.structNameFits) .structNameApart ++
    (if f.bodyFits then problemIf f.members?.isNone .unfinishedMember else [.bodyApart])

def refusal (what : String) (f : Form) : String :=
  "Invalid " ++ what ++ " (" ++ "; ".intercalate (f.problems.map Problem.message) ++ "): " ++
    f.toJson.render Json.oneLine

end Form

end ShaderSurface
