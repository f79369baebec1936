import ShaderSurface.Precision
import ShaderSurface.Qualifier
import ShaderSurface.Text.Blank
import ShaderSurface.ValueType

/-!
# Statements

Once bracketed spans are set aside, source text is a sequence of statements that end in semicolons.
A statement is the list of its words, and its first words tell whether it declares something.
-/

namespace ShaderSurface

/-- The words between two semicolons. -/
abbrev Statement := List Word

namespace Statement

open Text

def ofText (code : Text) : List Statement :=
  ((code.splitOn ';').map words).filter (!·.isEmpty)

def isModifier (word : Word) : Bool :=
  word = "invariant".toList || word = "centroid".toList

/-- The first word after the leading modifiers, or the last word if there are only modifiers. -/
def leading? : Statement → Option Word
  | [] => none
  | [word] => some word
  | word :: next :: rest => if isModifier word then leading? (next :: rest) else some word

def isStorage (word : Word) : Bool :=
  match Qualifier.ofKeyword? (String.ofList word) with
  | some .struct | none => false
  | some _ => true

/-- The statement declares an input, an output or a uniform. A default precision, which is a
statement of three words, declares nothing. -/
def declaresInterface (statement : Statement) : Bool :=
  match statement.leading? with
  | none => false
  | some word =>
    isStorage word || word.mentions "layout".toList ||
      (word.mentions "precision".toList && statement.length > 3)

def declaresStruct (statement : Statement) : Bool :=
  statement.head? = some "struct".toList

def declaresMember (known : List String) (statement : Statement) : Bool :=
  match statement with
  | [] => false
  | word :: _ =>
    let name := String.ofList word
    (ValueType.ofName? name).isSome || known.contains name ||
      (Precision.ofKeyword? name).isSome || statement.declaresInterface

def select (test : Statement → Bool) (code : Text) : List Statement :=
  (ofText code).filter test

end Statement

end ShaderSurface
