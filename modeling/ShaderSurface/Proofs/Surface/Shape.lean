import ShaderSurface.Proofs.Declaration.Body
import ShaderSurface.Proofs.Statement
import ShaderSurface.Proofs.Surface.Reading

/-!
# The shape of a surface

A word leaves a draft tidy: its name and its layout are free of white space, and the structs that it
names are known. So is every draft that a statement is read into, by induction on how deeply bodies
are nested, and every declaration that settles has this shape, as have its members. As a struct is
read with only those before it known, the structs of a surface name only structs before them
(`Surface.shape_of_read`).
-/

namespace ShaderSurface

open Text

def Text.IsNameable (s : Text) : Prop :=
  s.IsSolid ∧ '[' ∉ s ∧ '{' ∉ s

namespace Declaration

/-- What is true of every declaration that is read, given the names of the known structs. -/
structure HasShape (known : List String) (d : Declaration) : Prop where
  name_ne_empty : d.name ≠ ""
  name : IsNameable d.name.toList
  layout : ∀ text ∈ d.layout, IsSolid text.toList
  struct : d.type = .struct ↔ d.structName.isSome
  block : d.type = .block ↔ d.members.isSome
  structName : ∀ name ∈ d.structName, name ∈ known

/-- The property holds of a declaration, of its members, of their members and so on. -/
inductive Throughout (P : Declaration → Prop) : Declaration → Prop
  | intro {d : Declaration} (here : P d) (members : ∀ member ∈ d.body, Throughout P member) :
    Throughout P d

theorem Throughout.mono {P Q : Declaration → Prop} (imp : ∀ d, P d → Q d) {d : Declaration}
    (h : d.Throughout P) : d.Throughout Q := by
  induction h with
  | intro here _ ih => exact .intro (imp _ here) ih

theorem HasShape.mono {known more : List String} (subset : known ⊆ more) {d : Declaration}
    (h : d.HasShape known) : d.HasShape more :=
  { h with structName := fun name mem => subset (h.structName name mem) }

end Declaration

namespace Draft

variable {table : SpanTable} {known : List String} {d : Draft} {word : Word}

/-- What is true of every draft that a statement is read into: there is no white space in its name
and its layout, the struct that it names is known, and its members have their shape. -/
structure IsTidy (known : List String) (d : Draft) : Prop where
  name : ∀ name ∈ d.name, IsNameable name.toList
  layout : ∀ text ∈ d.layout, IsSolid text.toList
  structName : ∀ name ∈ d.structName, name ∈ known
  members : ∀ members ∈ d.members, ∀ member ∈ members, member.Throughout (·.HasShape known)

/-- A word without white space and braces keeps a draft tidy. -/
theorem IsTidy.fillsIn (tidy : d.IsTidy known) (solid : word.IsSolid) (free : '{' ∉ word)
    {later : Draft} (step : FillsIn known word d later) : later.IsTidy known := by
  cases step with
  | qualifier _ q => exact { tidy with }
  | structName _ mem => exact { tidy with structName := by simpa using mem }
  | valueType _ type => exact { tidy with }
  | @subscript before after same noBracket =>
    refine { tidy with name := ?_ }
    have part : before <+: word := ⟨'[' :: after, same.symm⟩
    have nameable : IsNameable before :=
      ⟨fun c mem => solid c (part.subset mem), noBracket, fun mem => free (part.subset mem)⟩
    intro name given
    cases named : d.name with
    | some name' =>
      rw [readSubscript, named] at given
      obtain rfl := Option.some.inj given
      exact tidy.name _ named
    | none =>
      have given : (if before.isEmpty then none else some (String.ofList before)) = some name := by
        rw [readSubscript, named] at given
        exact given
      split at given
      · cases given
      · obtain rfl := Option.some.inj given
        rwa [String.toList_ofList]
  | centroid _ => exact { tidy with }
  | invariant _ => exact { tidy with }
  | precision _ p => exact { tidy with }
  | name _ ne noBracket =>
    refine { tidy with name := ?_ }
    rintro _ ⟨⟩
    rw [String.toList_ofList]
    exact ⟨solid, noBracket, free⟩
  | passed => exact tidy

theorem isSolid_outsideBraces (solid : word.IsSolid) : IsSolid (outsideBraces word) :=
  fun c mem => solid c ((List.takeWhile_prefix _).subset ((isInfix_outsideBraces word).subset mem))

theorem not_mem_outsideBraces (word : Word) : '{' ∉ outsideBraces word := by
  intro mem
  simpa using List.mem_takeWhile_imp ((isInfix_outsideBraces word).subset mem)

theorem isSolid_squeeze (s : Text) : IsSolid (squeeze s) := by
  intro c mem
  simpa using (List.mem_filter.1 mem).2

theorem isTidy_ofWords {words : List Word} (solid : ∀ word ∈ words, word.IsSolid)
    (layout : Option Text) : (ofWords known words layout).IsTidy known := by
  refine readWords_induction (P := IsTidy known) ?_ ?_
  · intro word mem d later tidy step
    obtain ⟨word, inside, rfl⟩ := List.mem_map.1 mem
    exact tidy.fillsIn (isSolid_outsideBraces (solid word inside)) (not_mem_outsideBraces word) step
  · refine ⟨by simp, fun text given => ?_, by simp, by simp⟩
    obtain ⟨inside, -, rfl⟩ := Option.map_eq_some_iff.1 given
    rw [String.toList_ofList]
    exact isSolid_squeeze inside

theorem IsTidy.withQualifier (tidy : d.IsTidy known) (q : Option Qualifier) :
    IsTidy known { d with qualifier := q } :=
  { tidy with }

theorem IsTidy.throughout (tidy : d.IsTidy known) {x : Declaration} (settled : d.SettlesInto x) :
    x.Throughout (·.HasShape known) := by
  refine .intro ?_ ?_
  · exact {
      name_ne_empty := settled.name_ne_empty
      name := tidy.name _ settled.name
      layout := settled.layout ▸ tidy.layout
      struct := settled.struct
      block := settled.body
      structName := settled.structName ▸ tidy.structName }
  · rw [Declaration.body, settled.members]
    cases members : d.members with
    | none => exact List.forall_mem_nil _
    | some members' => exact tidy.members members' members

theorem isTidy_of_readOver {readStatement : Statement → Except ReadError Draft}
    (tidy : ∀ statement draft, (∀ word ∈ statement, word.IsSolid) →
      readStatement statement = .ok draft → draft.IsTidy known)
    {statement : Statement} (solid : ∀ word ∈ statement, word.IsSolid) {draft : Draft}
    (h : readOver table known (readBody known readStatement) statement = .ok draft) :
    draft.IsTidy known := by
  obtain ⟨words, layout, rest, body?, found, -, added⟩ := exists_of_readOver h
  have words_solid : ∀ word ∈ words, word.IsSolid := by
    intro word mem c inside
    obtain ⟨whole, mem', part⟩ := isInfix_of_lookupWindow found word mem
    exact solid whole mem' c (part.subset inside)
  have start : (ofWords known words layout).IsTidy known := isTidy_ofWords words_solid layout
  cases body? with
  | none =>
    obtain rfl := Except.ok.inj added
    exact start
  | some body =>
    obtain ⟨members, gathered, rfl⟩ := Outcome.map_eq_ok.1 added
    refine { start with members := ?_ }
    rintro _ ⟨⟩ member mem
    obtain ⟨statement', selected, draft', read', settled⟩ := exists_of_mem_readBody gathered mem
    have memberTidy := tidy statement' draft'
      (fun word inside => (Statement.isInfix_of_mem_ofText (List.mem_filter.1 selected).1 inside).2)
      read'
    exact (memberTidy.withQualifier _).throughout settled

theorem isTidy_of_readNested (depth : Nat) (statement : Statement) (draft : Draft)
    (solid : ∀ word ∈ statement, word.IsSolid)
    (h : readNested table known depth statement = .ok draft) : draft.IsTidy known := by
  induction depth generalizing statement draft with
  | zero =>
    refine isTidy_of_readOver (fun statement draft _ read => ?_) solid h
    cases read
  | succ depth ih => exact isTidy_of_readOver ih solid h

end Draft

namespace Surface

variable {source : Text} {ds : List Declaration}

theorem IsReadFrom.throughout {table : SpanTable} {known : List String} {code : Text}
    {d : Declaration} (h : IsReadFrom table known (Statement.ofText code) d) :
    d.Throughout (·.HasShape known) := by
  obtain ⟨statement, mem, draft, read, settled⟩ := h
  have solid : ∀ word ∈ statement, word.IsSolid := fun word inside =>
    (Statement.isInfix_of_mem_ofText mem inside).2
  exact (Draft.isTidy_of_readNested _ statement draft solid read).throughout settled

/-- A surface that is read is made of the interface and the structs. Each of its declarations, and
each member of one, has its shape and names only structs of the surface; those of a struct name only
structs before it. -/
theorem shape_of_read (h : read source = .ok ds) :
    ∃ interface structs, ds = interface ++ structs ∧
      readStructs (setAside source).2 (setAside source).1 = .ok structs ∧
      (∀ d ∈ ds, d.Throughout (·.HasShape (structs.map (·.name)))) ∧
      ∀ before d after, structs = before ++ d :: after →
        d.Throughout (·.HasShape (before.map (·.name))) := by
  obtain ⟨interface, structs, rfl, hstructs, hinterface⟩ := exists_of_read h
  have ordered : ∀ before d after, structs = before ++ d :: after →
      d.Throughout (·.HasShape (before.map (·.name))) :=
    fun before d after same => (isReadFrom_of_readStructs hstructs same).ofSelected.throughout
  refine ⟨interface, structs, rfl, hstructs, fun d mem => ?_, ordered⟩
  rcases List.mem_append.1 mem with mem | mem
  · exact (isReadFrom_of_readInterface hinterface mem).ofSelected.throughout
  · obtain ⟨before, after, same⟩ := List.append_of_mem mem
    refine (ordered before d after same).mono fun d shape => shape.mono ?_
    rw [same, List.map_append]
    exact List.subset_append_left _ _

theorem shape_of_read_nested :
    let source :=
      "struct A \x7bfloat x;\x7d; struct B \x7bA a;\x7d; uniform U \x7bB b[2];\x7d;".toList
    let u : Declaration := {
      qualifier := .uniform, type := .block, name := "U"
      members := some [
        { qualifier := .uniform, type := .struct, name := "b", amount := 2
          structName := some "B" }] }
    let a : Declaration := {
      qualifier := .struct, type := .block, name := "A"
      members := some [{ qualifier := .struct, type := .value (.scalar .float), name := "x" }] }
    let b : Declaration := {
      qualifier := .struct, type := .block, name := "B"
      members := some [
        { qualifier := .struct, type := .struct, name := "a", structName := some "A" }] }
    read source = .ok [u, a, b] ∧ (∀ d ∈ [u, a, b], d.Throughout (·.HasShape ["A", "B"])) ∧
      b.Throughout (·.HasShape ["A"]) := by
  intro source u a b
  have whole : read source = .ok [u, a, b] := by decide +kernel
  have structs : readStructs (setAside source).2 (setAside source).1 = .ok [a, b] := by
    decide +kernel
  obtain ⟨interface, structs', -, read, shape, ordered⟩ := shape_of_read whole
  rw [structs, Except.ok.injEq] at read
  subst read
  exact ⟨whole, shape, ordered [a] b [] rfl⟩

end Surface

end ShaderSurface
