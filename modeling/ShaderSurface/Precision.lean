/-!
# Precision qualifiers
-/

namespace ShaderSurface

inductive Precision where
  | high
  | medium
  | low
  deriving DecidableEq, Repr, Inhabited

namespace Precision

def keyword : Precision → String
  | high => "highp"
  | medium => "mediump"
  | low => "lowp"

def all : List Precision := [high, medium, low]

def ofKeyword? (s : String) : Option Precision :=
  all.find? (·.keyword = s)

@[simp] theorem ofKeyword?_keyword (p : Precision) : ofKeyword? p.keyword = some p := by
  cases p <;> decide

theorem keyword_of_ofKeyword? {s : String} {p : Precision} (h : ofKeyword? s = some p) :
    p.keyword = s := by
  simpa using List.find?_some h

end Precision

end ShaderSurface
