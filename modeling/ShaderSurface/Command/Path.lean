import ShaderSurface.Text.Basic

/-!
# Paths of files

A path is read by its steps: empty steps and steps to the same directory are dropped, a step to the
parent directory is kept. A path without steps is the current directory. How long a path and a step
may be is counted in bytes.
-/

namespace ShaderSurface

/-- The steps of a path from the current directory or from a root. -/
structure Path where
  root : String := ""
  steps : List String
  deriving DecidableEq, Repr, Inhabited

namespace Path

/-- Read a path. Two slashes at the start are a root of their own; any other number of them is one.
-/
def ofString (s : String) : Path :=
  let slashes := (s.toList.takeWhile (· = '/')).length
  { root := if slashes = 0 then "" else if slashes = 2 then "//" else "/"
    steps := ((s.toList.splitOn '/').map String.ofList).filter fun step => step ≠ "" ∧ step ≠ "." }

def toString (p : Path) : String :=
  if p.root = "" ∧ p.steps = [] then "." else p.root ++ "/".intercalate p.steps

def stepLimit : Nat := 255

def lengthLimit : Nat := 4095

def isTooLong (p : Path) : Bool := lengthLimit < p.toString.utf8ByteSize

def hasNull (p : Path) : Bool := p.steps.any fun step => step.toList.contains (Char.ofNat 0)

def name (p : Path) : String := p.steps.getLast?.getD ""

/-- The last step without the ending after its last point. A point at either end of the step starts
no ending. -/
def stem (p : Path) : String :=
  match p.name.toList.reverse.span (· ≠ '.') with
  | (_ :: _, _ :: c :: before) => String.ofList (c :: before).reverse
  | _ => p.name

def parent (p : Path) : Path := { p with steps := p.steps.dropLast }

def child (p : Path) (step : String) : Path := { p with steps := p.steps ++ [step] }

example : (ofString "sub//./a.b.vert").stem = "a.b" := by decide +kernel
example : (ofString ".vert").stem = ".vert" := by decide +kernel
example : (ofString "a.").stem = "a." := by decide +kernel
example : (ofString "./").toString = "." := by decide +kernel

end Path

end ShaderSurface
