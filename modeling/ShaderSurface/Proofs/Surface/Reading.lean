import ShaderSurface.Proofs.Declaration.Settling
import ShaderSurface.Proofs.Outcome
import ShaderSurface.Surface

/-!
# What a surface is read from

A surface that is read is made of the inputs, outputs and uniforms, each read from a statement with
all structs known, and the structs, each read from a statement with the structs before it known. It
is not read only if a statement is not, or if the draft of one is refused.
-/

namespace ShaderSurface.Surface

variable {table : SpanTable} {known : List String} {code source : Text}
  {structs interface ds : List Declaration}

def IsReadFrom (table : SpanTable) (known : List String) (statements : List Statement)
    (d : Declaration) : Prop :=
  ∃ statement ∈ statements, ∃ draft,
    Draft.read table known statement = .ok draft ∧ draft.SettlesInto d

theorem IsReadFrom.ofSelected {test : Statement → Bool} {d : Declaration}
    (h : IsReadFrom table known (Statement.select test code) d) :
    IsReadFrom table known (Statement.ofText code) d := by
  obtain ⟨statement, selected, draft, read, settled⟩ := h
  exact ⟨statement, (List.mem_filter.1 selected).1, draft, read, settled⟩

theorem isReadFrom_foldlM {statements : List Statement} {start : List Declaration}
    (h : statements.foldlM (readStruct table) start = .ok structs) :
    ∃ added, structs = start ++ added ∧ ∀ before d after, added = before ++ d :: after →
      IsReadFrom table ((start ++ before).map (·.name)) statements d := by
  induction statements generalizing start with
  | nil =>
    obtain rfl := Except.ok.inj h
    exact ⟨[], (List.append_nil _).symm, by simp⟩
  | cons statement statements ih =>
    rw [List.foldlM_cons] at h
    obtain ⟨middle, step, h⟩ := Outcome.bind_eq_ok.1 h
    obtain ⟨draft, read, step⟩ := Outcome.bind_eq_ok.1 step
    obtain ⟨d, settled, step⟩ := Outcome.bind_eq_ok.1 step
    obtain rfl := Except.ok.inj step
    obtain ⟨added, rfl, later⟩ := ih h
    refine ⟨d :: added, by simp, fun before d' after same => ?_⟩
    cases before with
    | nil =>
      obtain ⟨rfl, -⟩ := List.cons.inj same
      rw [List.append_nil]
      exact ⟨statement, List.mem_cons_self, draft, read, Draft.settlesInto_of_settle settled⟩
    | cons d'' before =>
      obtain ⟨rfl, rest⟩ := List.cons.inj same
      obtain ⟨statement', mem, draft', read', settled'⟩ := later before d' after rest
      rw [List.append_assoc, List.singleton_append] at read'
      exact ⟨statement', List.mem_cons_of_mem statement mem, draft', read', settled'⟩

theorem isReadFrom_of_readStructs (h : readStructs table code = .ok structs)
    {before after : List Declaration} {d : Declaration} (same : structs = before ++ d :: after) :
    IsReadFrom table (before.map (·.name))
      (Statement.select Statement.declaresStruct code) d := by
  obtain ⟨added, rfl, read⟩ := isReadFrom_foldlM h
  exact read before d after same

theorem isReadFrom_of_readInterface (h : readInterface table known code = .ok interface)
    {d : Declaration} (mem : d ∈ interface) :
    IsReadFrom table known (Statement.select Statement.declaresInterface code) d := by
  obtain ⟨statement, selected, h⟩ := Outcome.exists_of_mem_right (Outcome.mapM_eq_ok_iff.1 h) mem
  obtain ⟨draft, read, settled⟩ := Outcome.bind_eq_ok.1 h
  exact ⟨statement, selected, draft, read, Draft.settlesInto_of_settle settled⟩

/-- A surface is the interface, read with all structs known, and the structs. -/
theorem exists_of_read (h : read source = .ok ds) :
    ∃ interface structs, ds = interface ++ structs ∧
      readStructs (setAside source).2 (setAside source).1 = .ok structs ∧
      readInterface (setAside source).2 (structs.map (·.name)) (setAside source).1 =
        .ok interface := by
  obtain ⟨structs, hstructs, h⟩ := Outcome.bind_eq_ok.1 h
  obtain ⟨interface, hinterface, h⟩ := Outcome.bind_eq_ok.1 h
  exact ⟨interface, structs, (Except.ok.inj h).symm, hstructs, hinterface⟩

/-- Every declaration of a surface is read from a statement of its code. -/
theorem isReadFrom_of_read (h : read source = .ok ds) {d : Declaration} (mem : d ∈ ds) :
    ∃ known, IsReadFrom (setAside source).2 known (Statement.ofText (setAside source).1) d := by
  obtain ⟨interface, structs, rfl, hstructs, hinterface⟩ := exists_of_read h
  rcases List.mem_append.1 mem with mem | mem
  · exact ⟨_, (isReadFrom_of_readInterface hinterface mem).ofSelected⟩
  · obtain ⟨before, after, same⟩ := List.append_of_mem mem
    exact ⟨_, (isReadFrom_of_readStructs hstructs same).ofSelected⟩

theorem exists_of_read_eq_error {e : ReadError} (h : read source = .error e) :
    ∃ known, ∃ statement ∈ Statement.ofText (setAside source).1,
      Draft.read (setAside source).2 known statement = .error e ∨
        ∃ draft what, Draft.read (setAside source).2 known statement = .ok draft ∧
          draft.settle what = .error e := by
  rcases Outcome.bind_eq_error.1 h with h | ⟨structs, -, h⟩
  · obtain ⟨before, statement, selected, h⟩ := Outcome.exists_of_foldlM_eq_error h
    refine ⟨before.map (·.name), statement, (List.mem_filter.1 selected).1, ?_⟩
    rcases Outcome.bind_eq_error.1 h with h | ⟨draft, read, h⟩
    · exact .inl h
    rcases Outcome.bind_eq_error.1 h with h | ⟨d, -, h⟩
    · exact .inr ⟨draft, "struct", read, h⟩
    · cases h
  rcases Outcome.bind_eq_error.1 h with h | ⟨interface, -, h⟩
  · obtain ⟨statement, selected, h⟩ := Outcome.exists_of_mapM_eq_error h
    refine ⟨structs.map (·.name), statement, (List.mem_filter.1 selected).1, ?_⟩
    rcases Outcome.bind_eq_error.1 h with h | ⟨draft, read, h⟩
    · exact .inl h
    · exact .inr ⟨draft, "declaration", read, h⟩
  · cases h

end ShaderSurface.Surface
