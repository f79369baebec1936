import ShaderSurface.Declaration.Draft
import ShaderSurface.Span.Extraction
import ShaderSurface.Span.Window
import ShaderSurface.Statement

/-!
# Reading declarations

A statement is read into a draft: the parenthesised window gives the layout, the words that remain
fill the draft in, and the window in braces refers to a body, whose statements are read in the same
way. A draft that is complete settles into a declaration.

A body may refer to further bodies through the table. A member that has no qualifier yet takes the
one of the declaration around it, so how a body is read depends on the body and on that qualifier
alone; nesting that is deeper than the number of such pairs does not end.
-/

namespace ShaderSurface

/-- Why declarations cannot be read. -/
inductive ReadError where
  | malformed (what : String) (form : Form)
  | reference (cause : ReferenceError)
  | oversizedInteger
  | endless
  deriving DecidableEq, Repr

def ReadError.message : ReadError → String
  | malformed what form => form.refusal what
  | reference cause => cause.message
  | oversizedInteger => Numeral.oversizedMessage
  | endless => "the bodies are nested without end"

/-- Settle a form. One that is refused must be writable, since the refusal shows it. -/
def Form.settle (what : String) (f : Form) : Except ReadError Declaration :=
  match f.declaration? with
  | some d => .ok d
  | none => .error (if f.toJson.isWritable then .malformed what f else .oversizedInteger)

namespace Draft

def settle (what : String) (d : Draft) : Except ReadError Declaration :=
  d.toForm.settle what

def lookupWindow (table : SpanTable) (d : Delimiters) (words : List Word) :
    Except ReadError (List Word × Option Text) :=
  match Window.find? d.opening d.closing words with
  | none => .ok (words, none)
  | some window => do
    let text ← (table.lookup window.inside).mapError ReadError.reference
    return (window.remaining, text)

/-- The word without what follows an opening brace or precedes a closing one. -/
def outsideBraces (word : Word) : Word :=
  let word := word.takeWhile (· ≠ '{')
  match Text.cut? word ['}'] with
  | some (_, after) => after
  | none => word

/-- Read a statement, given how the members in a body are read when a qualifier is inherited. -/
def readOver (table : SpanTable) (known : List String)
    (readBody : (inherited : Option Qualifier) → Text → Except ReadError (List Declaration))
    (statement : Statement) : Except ReadError Draft := do
  let (words, layout) ← lookupWindow table .parentheses statement
  let draft := readWords known (words.map outsideBraces)
    { layout := layout.map fun text => String.ofList (Text.squeeze text) }
  let (_, body) ← lookupWindow table .braces words
  match body with
  | none => return draft
  | some body =>
    let members ← readBody draft.qualifier body
    return { draft with members := some members, type := draft.type <|> some .block }

def readMember (readStatement : Statement → Except ReadError Draft) (inherited : Option Qualifier)
    (statement : Statement) : Except ReadError Declaration := do
  let member ← readStatement statement
  { member with qualifier := member.qualifier <|> inherited }.settle "block member"

def readBody (known : List String) (readStatement : Statement → Except ReadError Draft)
    (inherited : Option Qualifier) (body : Text) : Except ReadError (List Declaration) :=
  (Statement.select (Statement.declaresMember known) body).mapM (readMember readStatement inherited)

/-- Read a statement, with bodies nested to at most a depth. -/
def readNested (table : SpanTable) (known : List String) :
    (depth : Nat) → Statement → Except ReadError Draft
  | 0 => readOver table known (readBody known fun _ => .error .endless)
  | depth + 1 => readOver table known (readBody known (readNested table known depth))

/-- The depth to which bodies can be nested if the nesting ends: each text of the table can be the
body of a declaration with any of the qualifiers or with none. -/
def nestingLimit (table : SpanTable) : Nat :=
  table.size * (Qualifier.all.length + 1)

def read (table : SpanTable) (known : List String) (statement : Statement) :
    Except ReadError Draft :=
  readNested table known (nestingLimit table) statement

end Draft

end ShaderSurface
