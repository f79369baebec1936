import ShaderSurface.Declaration.Reader

/-!
# Errors of analysis

A surface that was read may still have no layout: an argument list may be unreadable, and a member
of a block may have no size. Analysis also stops where structs contain one another, and where a text
would need the decimal numeral of an oversized integer.
-/

namespace ShaderSurface

inductive LayoutError where
  | unreadable (text : String)
  | emptyArray (member : String) (length : Int)
  | unknownStruct (structName : Option String) (member : String)
  | noSize (type : String) (member : String)
  deriving DecidableEq, Repr

def LayoutError.message : LayoutError → String
  | unreadable text => "Cannot parse layout qualifier '" ++ text ++ "'"
  | emptyArray member length =>
    "Array '" ++ member ++ "' has no std140 size (length " ++ toString length ++ ")"
  | unknownStruct structName member =>
    "Unknown struct '" ++ structName.getD "None" ++ "' for member '" ++ member ++ "'"
  | noSize type member => "Type '" ++ type ++ "' of member '" ++ member ++ "' has no std140 layout"

/-- Why a surface cannot be analysed. -/
inductive AnalysisError where
  | layout (cause : LayoutError)
  | oversizedInteger
  | endlessStructs
  | missingStage
  deriving DecidableEq, Repr

def AnalysisError.message : AnalysisError → String
  | layout cause => cause.message
  | oversizedInteger => Numeral.oversizedMessage
  | endlessStructs => "the structs contain one another"
  | missingStage => "A program needs both a vertex and a fragment declaration list"

end ShaderSurface
