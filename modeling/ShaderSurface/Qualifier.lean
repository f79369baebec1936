/-!
# Storage qualifiers

A declaration of a shader's surface is an input, an output, a uniform or a struct.
-/

namespace ShaderSurface

/-- The role of a declaration. -/
inductive Qualifier where
  | input
  | uniform
  | output
  | struct
  deriving DecidableEq, Repr, Inhabited

namespace Qualifier

def keyword : Qualifier → String
  | input => "in"
  | uniform => "uniform"
  | output => "out"
  | struct => "struct"

def all : List Qualifier := [input, uniform, output, struct]

def ofKeyword? (s : String) : Option Qualifier :=
  all.find? (·.keyword = s)

@[simp] theorem ofKeyword?_keyword (q : Qualifier) : ofKeyword? q.keyword = some q := by
  cases q <;> decide

theorem keyword_of_ofKeyword? {s : String} {q : Qualifier} (h : ofKeyword? s = some q) :
    q.keyword = s := by
  simpa using List.find?_some h

end Qualifier

end ShaderSurface
