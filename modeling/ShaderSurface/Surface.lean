import ShaderSurface.Declaration.Reader
import ShaderSurface.Source.Comment

/-!
# The surface of a shader

The surface of a shader is what a host can bind: its inputs, outputs and uniforms, interface blocks
included, followed by its structs. To read it, bracketed spans are set aside, so that the code can
be split at semicolons. Structs are read first, and each may use those before it; after that every
struct is known to the other declarations.
-/

namespace ShaderSurface.Surface

/-- Strip a source of comments and set its bracketed spans aside, those in braces first. -/
def setAside (source : Text) : Text × SpanTable :=
  let (code, table) := SpanTable.extract .braces (Source.stripComments source) {}
  table.extract .parentheses code

/-- Read the struct that a statement declares, after the structs before it. -/
def readStruct (table : SpanTable) (structs : List Declaration) (statement : Statement) :
    Except ReadError (List Declaration) := do
  let draft ← Draft.read table (structs.map (·.name)) statement
  return structs ++ [← draft.settle "struct"]

def readStructs (table : SpanTable) (code : Text) : Except ReadError (List Declaration) :=
  (Statement.select Statement.declaresStruct code).foldlM (readStruct table) []

def readInterface (table : SpanTable) (known : List String) (code : Text) :
    Except ReadError (List Declaration) :=
  (Statement.select Statement.declaresInterface code).mapM fun statement => do
    (← Draft.read table known statement).settle "declaration"

def read (source : Text) : Except ReadError (List Declaration) := do
  let (code, table) := setAside source
  let structs ← readStructs table code
  return (← readInterface table (structs.map (·.name)) code) ++ structs

end ShaderSurface.Surface
