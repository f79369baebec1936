import ShaderSurface.Proofs.Surface.Nesting

/-!
# The members of a declaration

The members of a declaration are read from the statements of its body, one by one and in order.
They are read in the same way as a statement of the code, with the qualifier of the declaration
where they have none of their own (`Surface.forall₂_readsMember`).
-/

namespace ShaderSurface.Surface

variable {source body : Text} {known : List String} {statement : Statement} {d : Declaration}
  {q : Qualifier}

def ReadsAs (source : Text) (known : List String) (statement : Statement) (d : Declaration) :
    Prop :=
  ∃ draft, Draft.read (setAside source).2 known statement = .ok draft ∧ draft.SettlesInto d

theorem readsAs_of_settle (what : String)
    (h : (Draft.read (setAside source).2 known statement >>= Draft.settle what) = .ok d) :
    ReadsAs source known statement d := by
  obtain ⟨draft, read, settled⟩ := Outcome.bind_eq_ok.1 h
  exact ⟨draft, read, Draft.settlesInto_of_settle settled⟩

def ReadsMember (source : Text) (known : List String) (q : Qualifier) (statement : Statement)
    (member : Declaration) : Prop :=
  ∃ draft, Draft.read (setAside source).2 known statement = .ok draft ∧
    Draft.SettlesInto { draft with qualifier := draft.qualifier <|> some q } member

/-- The window in braces of the statement stands for the body. -/
def HasBody (source : Text) (statement : Statement) (body : Text) : Prop :=
  ∃ words layout rest,
    Draft.lookupWindow (setAside source).2 .parentheses statement = .ok (words, layout) ∧
      Draft.lookupWindow (setAside source).2 .braces words = .ok (rest, some body)

theorem read_eq_readOver_of_free (free : ∀ word ∈ statement, '{' ∉ word)
    (readMembers : Option Qualifier → Text → Except ReadError (List Declaration)) :
    Draft.read (setAside source).2 known statement =
      Draft.readOver (setAside source).2 known readMembers statement :=
  readNested_of_free free _ readMembers

/-- The members of a declaration are read from the statements of its body, in order. -/
theorem forall₂_readsMember (mem : statement ∈ Statement.ofText (setAside source).1)
    (h : ReadsAs source known statement d) (hasBody : HasBody source statement body) :
    List.Forall₂ (ReadsMember source known d.qualifier)
      (Statement.select (Statement.declaresMember known) body) d.body := by
  obtain ⟨words, layout, rest, found, found'⟩ := hasBody
  obtain ⟨draft, read, settled⟩ := h
  obtain ⟨words', layout', again, readings⟩ := exists_of_draftRead mem read
  rw [found, Except.ok.injEq, Prod.mk.injEq] at again
  obtain ⟨rfl, rfl⟩ := again
  simp only [found', Except.ok.injEq, Prod.mk.injEq] at readings
  obtain ⟨_, ⟨-, ⟨⟩⟩, -⟩ | ⟨_, _, body', members, ⟨-, same⟩, written, gathered, rfl⟩ := readings
  obtain rfl := Option.some.inj same
  have inherited : (Draft.ofWords known words layout).qualifier = some d.qualifier :=
    settled.qualifier
  rw [inherited] at gathered
  rw [Declaration.body, settled.members]
  refine Outcome.forall₂_imp_of_mem ?_ (Outcome.mapM_eq_ok_iff.1 gathered)
  intro statement' selected member read'
  have free := not_mem_of_mem_ofText written.free.1 (List.mem_filter.1 selected).1
  obtain ⟨draft', drafted, settled'⟩ := Outcome.bind_eq_ok.1 read'
  rw [← read_eq_readOver_of_free free] at drafted
  exact ⟨draft', drafted, Draft.settlesInto_of_settle settled'⟩

theorem body_eq_nil (mem : statement ∈ Statement.ofText (setAside source).1)
    (h : ReadsAs source known statement d) (none : ∀ body, ¬HasBody source statement body) :
    d.body = [] := by
  obtain ⟨draft, read, settled⟩ := h
  obtain ⟨words, layout, found, ⟨rest, -, rfl⟩ | ⟨rest, reference, body, members, found', -⟩⟩ :=
    exists_of_draftRead mem read
  · rw [Declaration.body, settled.members, Draft.members_ofWords]
    rfl
  · exact absurd ⟨words, layout, rest, found, found'⟩ (none body)

end ShaderSurface.Surface
