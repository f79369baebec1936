import ShaderSurface.Span.Table

/-!
# Setting bracketed spans aside

The text between an opening delimiter and the next closing one is moved into a table, and its
reference is left in its place. A span never reaches over the next opening delimiter: of nested
brackets only the innermost are emptied.
-/

namespace ShaderSurface

/-- An opening and a closing delimiter. -/
structure Delimiters where
  opening : Text
  closing : Text
  opening_ne_nil : opening ≠ [] := by decide

namespace Delimiters

def braces : Delimiters where
  opening := ['{']
  closing := ['}']

def parentheses : Delimiters where
  opening := ['(']
  closing := [')']

def ofTexts? (opening closing : Text) : Option Delimiters :=
  if h : opening ≠ [] then some { opening, closing, opening_ne_nil := h } else none

/-- The non-empty span at the start of a fragment, and the fragment from the closing delimiter on.
-/
def span? (d : Delimiters) (fragment : Text) : Option (Text × Text) :=
  match fragment.cut? d.closing with
  | some (c :: span, after) => some (c :: span, d.closing ++ after)
  | _ => none

end Delimiters

namespace SpanTable

/-- Set aside the span at the start of each fragment. -/
def extractEach (d : Delimiters) : List Text → SpanTable → List Text × SpanTable
  | [], table => ([], table)
  | fragment :: fragments, table =>
    match d.span? fragment with
    | some (span, rest) =>
      let (reference, table) := table.store span
      let (fragments, table) := extractEach d fragments table
      ((reference ++ rest) :: fragments, table)
    | none =>
      let (fragments, table) := extractEach d fragments table
      (fragment :: fragments, table)

/-- Set aside every span between the delimiters; the result is the code with references in their
places and the table with the spans. -/
def extract (d : Delimiters) (code : Text) (table : SpanTable) : Text × SpanTable :=
  match code.pieces d.opening with
  | [] => (code, table)
  | first :: fragments =>
    let (fragments, table) := table.extractEach d fragments
    (d.opening.intercalate (first :: fragments), table)

end SpanTable

end ShaderSurface
