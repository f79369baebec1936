import ShaderSurface.Text.Blank

/-!
# Putting source text together

A shader may come in parts, which are joined line by line. Two kinds of line must stand at the top
of the result: the version directive first, and the default precision after it. Each is moved there
from wherever it stands; all other lines keep their order.
-/

namespace ShaderSurface.Source

open Text

/-- Join the parts that are present, without the white space at their ends. -/
def merge (parts : List (Option Text)) : Text :=
  unlines ((parts.filterMap id).map trim)

/-- Move the first line that holds one of the needles to the top. -/
def hoist (needles : List Text) (code : Text) : Text :=
  let isOther (line : Text) := !needles.any line.mentions
  let ls := lines code
  match ls.dropWhile isOther with
  | [] => code
  | line :: after => unlines (line :: (ls.takeWhile isOther ++ after))

/-- The statements that set a default precision. -/
def precisionStatements : List Text :=
  ["precision highp float;".toList, "precision mediump float;".toList,
    "precision lowp float;".toList]

def hoistPrecision (code : Text) : Text :=
  hoist precisionStatements code

def hoistVersion (code : Text) : Text :=
  hoist ["#version ".toList] code

/-- Join the parts and put the version directive and the default precision on top, unless there is
nothing but white space. -/
def prepare? (parts : List (Option Text)) : Option Text :=
  let code := merge parts
  if (trim code).isEmpty then none else some (hoistVersion (hoistPrecision code))

end ShaderSurface.Source
