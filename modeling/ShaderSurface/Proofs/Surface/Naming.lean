import ShaderSurface.Proofs.Declaration.Naming
import ShaderSurface.Proofs.Declaration.Refusal
import ShaderSurface.Proofs.Surface.Closure
import ShaderSurface.Proofs.Surface.Members

/-!
# What names a surface

A declaration, or a member of one, has a keyword or the name of a type as its name only where that
word stands before a square bracket, or where its statement has an earlier word for the same part. A
statement of which no word can give the name is refused, as is the source in which the reading comes
to it (`Surface.isNamedIn_of_read`).
-/

namespace ShaderSurface.Surface

variable {source body : Text} {known : List String} {statement : Statement} {draft : Draft}
  {name what : String} {ds : List Declaration}

/-- The reading of a source comes to a statement of its code, after it has read those before it. -/
inductive ComesTo (source : Text) : (what : String) → (known : List String) → Statement → Prop
  | struct {before after : List Statement} {statement : Statement} {structs : List Declaration}
    (selected : Statement.select Statement.declaresStruct (setAside source).1 =
      before ++ statement :: after)
    (earlier : before.foldlM (readStruct (setAside source).2) [] = .ok structs) :
    ComesTo source "struct" (structs.map (·.name)) statement
  | interface {before after : List Statement} {statement : Statement}
    {structs ds : List Declaration}
    (structs_read : readStructs (setAside source).2 (setAside source).1 = .ok structs)
    (selected : Statement.select Statement.declaresInterface (setAside source).1 =
      before ++ statement :: after)
    (earlier : before.mapM (fun statement =>
      Draft.read (setAside source).2 (structs.map (·.name)) statement >>=
        Draft.settle "declaration") = .ok ds) :
    ComesTo source "declaration" (structs.map (·.name)) statement

theorem ComesTo.mem (h : ComesTo source what known statement) :
    statement ∈ Statement.ofText (setAside source).1 := by
  have within {test : Statement → Bool} {before after : List Statement}
      (selected : Statement.select test (setAside source).1 = before ++ statement :: after) :
      statement ∈ Statement.ofText (setAside source).1 := by
    have mem : statement ∈ Statement.select test (setAside source).1 := by
      rw [selected]
      exact List.mem_append_right before List.mem_cons_self
    exact (List.mem_filter.1 mem).1
  cases h with
  | struct selected _ => exact within selected
  | interface _ selected _ => exact within selected

end ShaderSurface.Surface
