import ShaderSurface.Proofs.Program.StructTable
import ShaderSurface.Proofs.Surface.Shape

/-!
# The structs of a surface are closed

A statement that starts with the keyword of structs is read into a struct, whatever its other words
are. So the structs that are read first are in the table of the surface's structs, and with them
every struct that a declaration of the surface rests on (`Surface.isClosedOn_of_read`).
-/

namespace ShaderSurface

open Text

namespace Declaration

/-- What holds throughout a declaration and the structs of a table holds of all that the declaration
rests on. -/
theorem Throughout.of_restsOn {P : Declaration → Prop} {structs : StructTable}
    (inTable : ∀ name struct, structs.get? name = some struct → struct.Throughout P)
    {d part : Declaration} (h : d.Throughout P) (rest : structs.RestsOn d part) : P part := by
  induction rest with
  | self d =>
    obtain ⟨here, -⟩ := h
    exact here
  | member mem _ ih =>
    obtain ⟨-, members⟩ := h
    exact ih (members _ mem)
  | struct found mem _ ih =>
    obtain ⟨name, -, found⟩ := Option.bind_eq_some_iff.1 found
    obtain ⟨-, members⟩ := inTable name _ found
    exact ih (members _ mem)

end Declaration

theorem Window.head?_remaining {o : Char} {closing : Text} {words : List Word} {window : Window}
    (h : find? [o] closing words = some window) {word : Word} (head : words.head? = some word)
    (free : o ∉ word) : window.remaining.head? = some word := by
  obtain ⟨start, stop, openAt, closeAt, first, last, hfirst, hlast, opens, closes, rfl⟩ :=
    exists_of_find? h
  obtain ⟨rest, rfl⟩ := List.head?_eq_some_iff.1 head
  cases start with
  | zero =>
    -- the window would start in the first word
    obtain rfl : word = first := by simpa using hfirst
    rw [position?, cut?_of_not_mem free] at opens
    cases opens
  | succ start => simp

namespace Draft

variable {table : SpanTable} {known : List String} {statement words : List Word}

theorem head?_of_lookupWindow {o c : Char} {text? : Option Text}
    (h : lookupWindow table (.ofChars o c) statement = .ok (words, text?)) {word : Word}
    (head : statement.head? = some word) (free : o ∉ word) : words.head? = some word := by
  rw [lookupWindow] at h
  split at h
  · obtain ⟨rfl, -⟩ := Prod.mk.inj (Except.ok.inj h)
    exact head
  · rename_i window found
    obtain ⟨text?, -, same⟩ := Outcome.bind_eq_ok.1 h
    obtain ⟨rfl, -⟩ := Prod.mk.inj (Except.ok.inj same)
    exact Window.head?_remaining found head free

theorem qualifier_ofWords {q : Qualifier} (head : words.head? = some q.keyword.toList)
    (layout : Option Text) : (ofWords known words layout).qualifier = some q := by
  obtain ⟨rest, rfl⟩ := List.head?_eq_some_iff.1 head
  have outside : outsideBraces q.keyword.toList = q.keyword.toList := by cases q <;> decide
  have first (d : Draft) (vacant : d.qualifier = none) :
      (readWord known d q.keyword.toList).qualifier = some q := by
    simp [readWord, vacant]
  rw [ofWords, List.map_cons, outside, readWords, List.foldl_cons]
  refine readWords_induction (P := fun later => later.qualifier = some q) ?_ (first _ rfl)
  rintro word - d later given (⟨vacant, _⟩ | _)
  · rw [given] at vacant
    cases vacant
  all_goals exact given

theorem qualifier_of_readOver
    {readMembers : Option Qualifier → Text → Except ReadError (List Declaration)} {draft : Draft}
    (h : readOver table known readMembers statement = .ok draft)
    (struct : Statement.declaresStruct statement) : draft.qualifier = some .struct := by
  obtain ⟨words, layout, rest, body?, found, -, added⟩ := exists_of_readOver h
  have head : statement.head? = some Qualifier.struct.keyword.toList :=
    of_decide_eq_true struct
  rw [Delimiters.parentheses_eq] at found
  have given : (ofWords known words layout).qualifier = some .struct :=
    qualifier_ofWords (head?_of_lookupWindow found head (by decide)) layout
  cases body? with
  | none =>
    obtain rfl := Except.ok.inj added
    exact given
  | some body =>
    obtain ⟨members, -, rfl⟩ := Outcome.map_eq_ok.1 added
    exact given

end Draft

namespace Surface

variable {source : Text} {ds : List Declaration}

theorem qualifier_of_readStructs {table : SpanTable} {code : Text} {structs : List Declaration}
    (h : readStructs table code = .ok structs) {struct : Declaration} (mem : struct ∈ structs) :
    struct.qualifier = .struct := by
  obtain ⟨before, after, same⟩ := List.append_of_mem mem
  obtain ⟨statement, selected, draft, read, settled⟩ := isReadFrom_of_readStructs h same
  obtain ⟨readMembers, nested⟩ := Draft.exists_readOver table (before.map (·.name))
  rw [nested] at read
  have given := Draft.qualifier_of_readOver read (List.mem_filter.1 selected).2
  rw [settled.qualifier, Option.some.injEq] at given
  exact given

def AreStructNames (ds : List Declaration) (known : List String) : Prop :=
  ∀ name ∈ known, ∃ struct ∈ ds, struct.qualifier = .struct ∧ struct.name = name

theorem areStructNames_of_readStructs {table : SpanTable} {code : Text} {structs : List Declaration}
    {known : List String} (h : readStructs table code = .ok structs)
    (subset : known ⊆ structs.map (·.name)) (interface : List Declaration) :
    AreStructNames (interface ++ structs) known := by
  intro name given
  obtain ⟨struct, inside, same⟩ := List.mem_map.1 (subset given)
  exact ⟨struct, List.mem_append_right _ inside, qualifier_of_readStructs h inside, same⟩

/-- Every struct that a declaration of a surface rests on is one of the surface. -/
theorem isClosedOn_of_read (h : read source = .ok ds) {d : Declaration} (mem : d ∈ ds) :
    (StructTable.ofDeclarations ds).IsClosedOn d := by
  obtain ⟨interface, structs, rfl, read, shape, -⟩ := shape_of_read h
  intro part rest named
  obtain ⟨name, named⟩ := Option.isSome_iff_exists.1 named
  have partShape := (shape d mem).of_restsOn
    (fun name struct found => shape struct (StructTable.mem_of_get?_ofDeclarations found)) rest
  obtain ⟨struct, inside, rfl⟩ := List.mem_map.1 (partShape.structName name named)
  rw [StructTable.structOf?, named, Option.bind_some]
  exact StructTable.isSome_get?_ofDeclarations (List.mem_append_right interface inside)
    (qualifier_of_readStructs read inside)

end Surface

end ShaderSurface
