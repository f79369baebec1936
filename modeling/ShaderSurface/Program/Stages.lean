import ShaderSurface.Program.Interface
import ShaderSurface.Source.Assembly
import ShaderSurface.Surface

/-!
# Reading both stages of a program

Both sources are prepared before either is read, the vertex stage first.
-/

namespace ShaderSurface

inductive ProgramError where
  | emptySource
  | reading (cause : ReadError)
  deriving DecidableEq, Repr

def ProgramError.message : ProgramError → String
  | emptySource => "Shader must have at least one non-empty code part"
  | reading cause => cause.message

structure Stages where
  vertexCode : Text
  fragmentCode : Text
  vertex : List Declaration
  fragment : List Declaration
  deriving DecidableEq, Repr

namespace Stages

def prepare (source : Text) : Except ProgramError Text :=
  match Source.prepare? [some source] with
  | some code => .ok code
  | none => .error .emptySource

def read (vertexSource fragmentSource : Text) : Except ProgramError Stages := do
  let vertexCode ← prepare vertexSource
  let fragmentCode ← prepare fragmentSource
  let vertex ← (Surface.read vertexCode).mapError .reading
  let fragment ← (Surface.read fragmentCode).mapError .reading
  return { vertexCode, fragmentCode, vertex, fragment }

def inputs (p : Stages) : List Declaration := Interface.inputs p.vertex p.fragment

def textures (p : Stages) : List Declaration := Interface.textures p.fragment

/-- A warning for each input of the fragment stage that the vertex stage does not feed. -/
def warnings (p : Stages) : List String :=
  (Interface.unmatched p.vertex p.fragment).map fun name =>
    "Fragment input '" ++ name ++ "' is not written by the vertex shader"

end Stages

end ShaderSurface
