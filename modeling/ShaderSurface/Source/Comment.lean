import ShaderSurface.Text.Blank

/-!
# Directives and comments

Source text is stripped in three steps: lines that hold a preprocessor directive go as a whole, then
each line ends at its first line comment, and last the block comments are cut out. A block comment
that is not closed is kept.
-/

namespace ShaderSurface.Source

open Text

/-- The line holds a preprocessor directive. -/
def isDirective (line : Text) : Bool :=
  (trim line).head? = some '#'

def beforeLineComment (line : Text) : Text :=
  match line.cut? ['/', '/'] with
  | some (before, _) => before
  | none => line

/-- The text without its block comments, from inside or outside of one. -/
def withoutBlockComments : (isInside : Bool) → Text → Text
  | false, '/' :: '*' :: rest =>
    if mentions rest ['*', '/'] then withoutBlockComments true rest
    else '/' :: '*' :: withoutBlockComments false rest
  | false, c :: rest => c :: withoutBlockComments false rest
  | true, '*' :: '/' :: rest => withoutBlockComments false rest
  | true, _ :: rest => withoutBlockComments true rest
  | _, [] => []

def stripComments (source : Text) : Text :=
  withoutBlockComments false
    (unlines (((lines source).filter (!isDirective ·)).map beforeLineComment))

end ShaderSurface.Source
