import ShaderSurface.Layout.Std140

/-!
# Names of uniform leaves

A host asks for the location of a uniform by name. A struct has no location of its own: it stands
for its members, whose names follow the struct's after a point, and an array of structs stands for
each of its elements, numbered in square brackets.
-/

namespace ShaderSurface

/-- The names under which the elements of a struct are known. -/
def elementNames (name : String) (amount : Int) : List String :=
  if amount > 1 then
    (List.range amount.toNat).map fun i => name ++ "[" ++ toString i ++ "]"
  else [name]

def leafNamesOver (structs : StructTable)
    (ofMember : (path : String) → Declaration → Except AnalysisError (List String))
    (path : String) (d : Declaration) : Except AnalysisError (List String) :=
  match if d.isStruct then structs.structOf? d else none with
  | none => .ok [path ++ d.name]
  | some struct => do
    let perElement ← (elementNames (path ++ d.name) d.amount).mapM fun element =>
      struct.body.mapM (ofMember (element ++ "."))
    return perElement.flatten.flatten

def leafNamesNested (structs : StructTable) :
    (depth : Nat) → (path : String) → Declaration → Except AnalysisError (List String)
  | 0 => leafNamesOver structs fun _ _ => .error .endlessStructs
  | depth + 1 => leafNamesOver structs (leafNamesNested structs depth)

/-- The leaf names of a declaration after a path. A struct cannot be inside itself, so structs nest
no deeper than there are structs. -/
def leafNames (structs : StructTable) (path : String) (d : Declaration) :
    Except AnalysisError (List String) :=
  leafNamesNested structs structs.length path d

end ShaderSurface
