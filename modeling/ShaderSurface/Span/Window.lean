import ShaderSurface.Text.Basic

/-!
# The window between two delimiters

The words of a statement are searched for the first word that holds an opening delimiter and the
first that holds a closing one. The window is what stands between the two. The word that holds the
opening delimiter goes with the window; what follows the closing one stays as a word.
-/

namespace ShaderSurface

/-- The words between two delimiters, and the words that remain without them. -/
structure Window where
  inside : List Word
  remaining : List Word
  deriving DecidableEq, Repr

namespace Window

open Text

/-- The window between the first opening and the first closing delimiter, unless the word with the
closing one comes first. -/
def find? (opening closing : Text) (words : List Word) : Option Window := do
  let start ← words.findIdx? (·.mentions opening)
  let stop ← words.findIdx? (·.mentions closing)
  guard (start ≤ stop)
  let first ← words[start]?
  let last ← words[stop]?
  let openAt ← first.position? opening
  let closeAt ← last.position? closing
  let inside :=
    if start = stop then [(last.take closeAt).drop (openAt + 1)]
    else
      first.drop (openAt + 1) ::
        ((words.take stop).drop (start + 1) ++ [last.take closeAt])
  let rest := last.drop (closeAt + 1)
  return {
    inside
    remaining :=
      words.take start ++ (if rest.isEmpty then [] else [rest]) ++ words.drop (stop + 1) }

end Window

end ShaderSurface
