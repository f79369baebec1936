import ShaderSurface.Declaration.Form
import ShaderSurface.Text.Blank

/-!
# Drafts of declarations

A draft collects the parts of a declaration word by word. Each word goes to the first part that it
fits and that is still open; a part that is filled is never changed by a later word.
-/

namespace ShaderSurface

/-- The length written between square brackets. -/
inductive ArrayLength where
  | count (n : Int)
  | unreadable
  deriving DecidableEq, Repr

namespace ArrayLength

/-- The length that a text gives; no text gives the length zero of an array without a size. -/
def read (s : Text) : ArrayLength :=
  let s := Text.trim s
  if s.isEmpty then count 0
  else
    match Numeral.integer? s with
    | some n => count n
    | none => unreadable

def toScalar : ArrayLength → Scalar
  | count n => .int n
  | unreadable => .notANumber

end ArrayLength

/-- The parts of a declaration that have been read so far. -/
structure Draft where
  qualifier : Option Qualifier := none
  type : Option DeclaredType := none
  name : Option String := none
  length : Option ArrayLength := none
  isInvariant : Bool := false
  isCentroid : Bool := false
  layout : Option String := none
  precision : Option Precision := none
  structName : Option String := none
  members : Option (List Declaration) := none
  deriving DecidableEq, Repr, Inhabited

namespace Draft

/-- Read a word with a square bracket: the text before the bracket is a name, the text after it, up
to the closing bracket, a length. -/
def readSubscript (before after : Text) (d : Draft) : Draft :=
  { d with
    length := d.length <|> some (.read (after.takeWhile (· ≠ ']')))
    name := d.name <|> if before.isEmpty then none else some (String.ofList before) }

/-- Read a word into the first part that it fits and that is still open, given the names of the
known structs. -/
def readWord (known : List String) (d : Draft) (word : Word) : Draft :=
  let text := String.ofList word
  if let (none, some qualifier) := (d.qualifier, Qualifier.ofKeyword? text) then
    { d with qualifier := some qualifier }
  else if d.type.isNone && known.contains text then
    { d with type := some .struct, structName := some text }
  else if let (none, some type) := (d.type, ValueType.ofName? text) then
    { d with type := some (.value type) }
  else if let some (before, after) := word.cut? ['['] then
    d.readSubscript before after
  else if !d.isCentroid && text == "centroid" then
    { d with isCentroid := true }
  else if !d.isInvariant && text == "invariant" then
    { d with isInvariant := true }
  else if let (none, some precision) := (d.precision, Precision.ofKeyword? text) then
    { d with precision := some precision }
  else if d.name.isNone && !word.isEmpty then
    { d with name := some text }
  else d

def readWords (known : List String) (words : List Word) (d : Draft) : Draft :=
  words.foldl (readWord known) d

def toForm (d : Draft) : Form where
  qualifier := .ofText? (d.qualifier.map Qualifier.keyword)
  type := .ofText? (d.type.map DeclaredType.name)
  name := .ofText? d.name
  amount := (d.length.map ArrayLength.toScalar).getD .null
  isInvariant := .bool d.isInvariant
  isCentroid := .bool d.isCentroid
  layout := .ofText? d.layout
  precision := .ofText? (d.precision.map Precision.keyword)
  structName := d.structName
  members := d.members.map (·.map Member.declaration)

end Draft

end ShaderSurface
