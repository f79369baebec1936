import ShaderSurface.Declaration.Basic

/-!
# The interface of a program

A program has a vertex and a fragment stage. An output of either stage may feed an input of the same
name; what no output feeds is bound by the host. Names alone decide, types are not compared.
-/

namespace ShaderSurface.Interface

def outputNames (declarations : List Declaration) : List String :=
  (declarations.filter Declaration.isOutput).map (·.name)

/-- The declarations of both stages that are no outputs and that no output feeds. -/
def inputs (vertex fragment : List Declaration) : List Declaration :=
  let declarations := vertex ++ fragment
  declarations.filter fun d => !d.isOutput && !(outputNames declarations).contains d.name

def outputs (fragment : List Declaration) : List Declaration :=
  fragment.filter Declaration.isOutput

def textures (fragment : List Declaration) : List Declaration :=
  fragment.filter Declaration.isTexture

/-- The names of the fragment stage's inputs that no output of the vertex stage feeds. -/
def unmatched (vertex fragment : List Declaration) : List String :=
  (fragment.filter fun d => d.qualifier = .input && !(outputNames vertex).contains d.name).map
    (·.name)

end ShaderSurface.Interface
