import ShaderSurface.Declaration.Basic

/-!
# Listing declarations

A declaration is listed on one line in the order in which a shader would write it, followed by its
members on a line each, indented and in braces.
-/

namespace ShaderSurface

/-- Why a declaration cannot be listed: a struct type without a name, at a place among the words of
its line, or an array length that has no decimal numeral. -/
inductive ListingError where
  | namelessStruct (place : Nat)
  | oversizedInteger
  deriving DecidableEq, Repr

def ListingError.message : ListingError → String
  | namelessStruct place => "no struct name at word " ++ toString place
  | oversizedInteger => Numeral.oversizedMessage

namespace Declaration

def listedName (d : Declaration) : Except ListingError String :=
  if d.isArray then
    match Numeral.text? d.amount with
    | some length => .ok (d.name ++ "[" ++ length ++ "]")
    | none => .error .oversizedInteger
  else .ok d.name

/-- The words before the type. The qualifier is left out where it is the inherited one. -/
def leadingWords (inherited : Option Qualifier) (d : Declaration) : List String :=
  ((d.layout.filter (· ≠ "")).map fun layout => "layout(" ++ layout ++ ")").toList ++
    (if d.isInvariant then ["invariant"] else []) ++
    (if d.isCentroid then ["centroid"] else []) ++
    (if inherited = some d.qualifier then [] else [d.qualifier.keyword]) ++
    (d.precision.map Precision.keyword).toList

def headline (inherited : Option Qualifier) (d : Declaration) : Except ListingError String := do
  let leading := leadingWords inherited d
  let name ← d.listedName
  let type ← match d.type with
    | .value type => pure [type.name]
    | .block => pure []
    | .struct =>
      match d.structName with
      | some structName => pure [structName]
      | none => throw (.namelessStruct leading.length)
  return " ".intercalate (leading ++ type ++ [name])

mutual

def listing (indent : String) (inherited : Option Qualifier) :
    Declaration → Except ListingError String
  | d@⟨qualifier, _, _, _, _, _, _, _, _, members⟩ => do
    let line ← headline inherited d
    return line ++ (← bodyListing indent qualifier members)

def bodyListing (indent : String) (inherited : Qualifier) :
    Option (List Declaration) → Except ListingError String
  | none => .ok ""
  | some members => do
    return " \x7b" ++ (← memberListing indent inherited members) ++ "\n" ++ indent ++ "\x7d"

def memberListing (indent : String) (inherited : Qualifier) :
    List Declaration → Except ListingError String
  | [] => .ok ""
  | member :: members => do
    let first ← listing (indent ++ "  ") (some inherited) member
    return "\n" ++ indent ++ "  " ++ first ++ (← memberListing indent inherited members)

end

end Declaration

end ShaderSurface
