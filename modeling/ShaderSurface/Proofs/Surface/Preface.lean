import ShaderSurface.Proofs.Grammar.Filters
import ShaderSurface.Proofs.Source.Commented
import ShaderSurface.Proofs.Surface.Idle

/-!
# Declarations in front of a source

Simple declarations hold no bracket and no comment, so what is stripped and set aside of a source
does not depend on those that stand in front of it. The structs of the source are known to them too,
but they are read alike as long as no struct takes the name of a precision or of a built-in type
(`Surface.read_preface_append`).
-/

namespace ShaderSurface

open Text

namespace Source

variable {s : Text}

/-- Text without slashes and number signs on lines of its own stays in front of a source that is
stripped; at most the line end behind it is dropped. -/
theorem exists_stripComments_append (noSlash : '/' ∉ s) (noSign : '#' ∉ s) (source : Text) :
    ∃ gap, IsGap gap ∧
      stripComments (s ++ '\n' :: source) = s ++ (gap ++ stripComments source) := by
  have own : keptLines (lines s) = lines s :=
    map_filter_eq_self (free_of_mem_lines noSlash noSign)
  have kept : keptLines (lines (s ++ '\n' :: source)) = lines s ++ keptLines (lines source) := by
    rw [lines, List.splitOn_append_cons_self, keptLines_append, ← lines, ← lines, own]
  have ne : lines s ≠ [] := List.splitOn_ne_nil '\n' s
  have stripped : stripComments (s ++ '\n' :: source) =
      s ++ withoutBlockComments false (onLines (keptLines (lines source))) := by
    rw [stripComments_eq, withoutLineComments, kept, unlines_append ne, unlines_lines,
      withoutBlockComments_piece noSlash]
  rw [stripped, stripComments_eq source, withoutLineComments]
  -- where no line is kept there is no line end either
  cases keptLines (lines source) with
  | nil => exact ⟨[], List.forall_mem_nil _, rfl⟩
  | cons line ls =>
    have newline : IsGap ['\n'] := by decide
    have noSlash : '/' ∉ ['\n'] := by decide
    refine ⟨['\n'], newline, ?_⟩
    rw [unlines_cons, ← withoutBlockComments_piece noSlash, onLines, List.flatMap_cons]
    rfl

end Source

namespace Draft

variable {known : List String} {d : Draft}

theorem readWord_precision_of_not_mem (vacant : d.precision = none) {p : Precision}
    (notKnown : p.keyword ∉ known) :
    readWord known d p.keyword.toList = { d with precision := some p } := by
  have notQualifier : Qualifier.ofKeyword? p.keyword = none := by cases p <;> decide
  have notType : ValueType.ofName? p.keyword = none := by cases p <;> decide +kernel
  have notFlag : p.keyword ≠ "centroid" ∧ p.keyword ≠ "invariant" := by cases p <;> decide
  have noBracket : Text.cut? p.keyword.toList ['['] = none := by cases p <;> decide
  rcases d with ⟨_ | _, _ | _⟩ <;> simp_all [readWord]

end Draft

namespace Grammar

/-- A declaration of a built-in type, without layout arguments and flags. -/
structure Simple where
  storage : Qualifier
  isStorage : storage ≠ .struct := by decide
  precision : Option Precision := none
  type : ValueType
  name : Identifier
  length : Option Digits := none
  isShort : ∀ n ∈ length, n.IsShort := by decide
  start : Gap := {}
  afterStorage : Space := {}
  afterPrecision : Space := {}
  afterType : Space := {}
  beforeSemicolon : Gap := {}

/-- No struct has the name of a precision or of a built-in type. -/
def SpareTypeNames (known : List String) : Prop :=
  ∀ name ∈ known, Precision.ofKeyword? name = none ∧ ValueType.ofName? name = none

instance : DecidablePred SpareTypeNames := fun known =>
  inferInstanceAs (Decidable
    (∀ name ∈ known, Precision.ofKeyword? name = none ∧ ValueType.ofName? name = none))

namespace Simple

def leading (d : Simple) : List (Option Word × Space) :=
  [(some d.storage.keyword.toList, d.afterStorage),
    (d.precision.map fun p => p.keyword.toList, d.afterPrecision),
    (some d.type.name.toList, d.afterType)]

def nameWord (d : Simple) : Word :=
  match d.length with
  | none => d.name.text
  | some n => d.name.text ++ '[' :: (n.text ++ [']'])

def spelled (d : Simple) : Text :=
  d.start.text ++ (spell d.leading ++ (d.nameWord ++ d.beforeSemicolon.text))

def declaration (d : Simple) : Declaration where
  qualifier := d.storage
  type := .value d.type
  name := d.name.name
  amount := amountOf d.length
  precision := d.precision

def draft (d : Simple) : Draft where
  qualifier := some d.storage
  type := some (.value d.type)
  name := some d.name.name
  length := d.length.map Digits.read
  precision := d.precision

variable (d : Simple)

theorem areNames_leading : AreNames d.leading := by
  apply areNames_cons_keyword (keyword_mem_keywords d.storage) (by simp)
  refine List.forall_mem_cons.2 ⟨?_, List.forall_mem_singleton.2 ?_⟩
  · intro word written
    obtain ⟨p, -, rfl⟩ := Option.map_eq_some_iff.1 written
    exact isNameLike_keyword (precision_mem_keywords p)
  · rintro word ⟨⟩
    exact ⟨name_ne_nil d.type, isNameLike_name d.type⟩

theorem nameWord_ne_nil : d.nameWord ≠ [] := by
  rw [nameWord]
  split <;> simp [d.name.ne_nil]

theorem isSolid_nameWord : d.nameWord.IsSolid := by
  rw [nameWord]
  split
  · exact d.name.isNameLike.isSolid
  · rename_i n _
    have brackets : IsSolid ['['] ∧ IsSolid [']'] := by decide
    exact d.name.isNameLike.isSolid.append (brackets.1.append (n.isSolid.append brackets.2))

theorem isPlain_nameWord : d.nameWord.IsPlain := by
  rw [nameWord]
  split
  · exact d.name.isNameLike.isPlain
  · rename_i n _
    have brackets : '[' ∉ structural ∧ IsPlain [']'] := by decide
    exact isPlain_append.2 ⟨d.name.isNameLike.isPlain,
      isPlain_cons.2 ⟨brackets.1, isPlain_append.2 ⟨n.isNameLike.isPlain, brackets.2⟩⟩⟩

theorem isPlain_spelled : d.spelled.IsPlain := by
  simp only [spelled, isPlain_append]
  exact ⟨d.start.isGap.isPlain, isPlain_spell d.areNames_leading, d.isPlain_nameWord,
    d.beforeSemicolon.isGap.isPlain⟩

theorem words_spelled :
    words d.spelled = d.storage.keyword.toList ::
      ((d.precision.map fun p => p.keyword.toList).toList ++
        [d.type.name.toList, d.nameWord]) := by
  rw [spelled, words_gap_append d.start.isGap, words_spell_append d.areNames_leading,
    words_append_gap d.beforeSemicolon.isGap, words_solid d.nameWord_ne_nil d.isSolid_nameWord]
  cases precision : d.precision <;> simp [leading, precision]

theorem declares_spelled :
    Statement.declaresInterface (words d.spelled) = true ∧
      Statement.declaresStruct (words d.spelled) = false := by
  have notModifier : Statement.isModifier d.storage.keyword.toList = false := by
    cases d.storage <;> decide
  rw [words_spelled]
  refine ⟨Statement.declaresInterface_of_leading?
    (Statement.leading?_of_not_isModifier notModifier _) d.isStorage, ?_⟩
  exact decide_eq_false fun head => keyword_ne_struct d.isStorage (Option.some.inj head)

variable {known : List String}

theorem readWord_nameWord {draft : Draft} (typed : draft.type.isSome) (unnamed : draft.name = none)
    (vacant : draft.length = none) :
    draft.readWord known d.nameWord =
      { draft with name := some d.name.name, length := d.length.map Digits.read } := by
  have noBracket : '[' ∉ d.name.text := d.name.isNameLike.not_mem (by decide)
  rw [nameWord]
  cases length : d.length with
  | none =>
    have free : Draft.IsFree known draft d.name.text := ⟨d.name.notKeyword, .inl typed⟩
    simp only [Draft.readWord_free free noBracket d.name.ne_nil, unnamed, Option.map_none]
    rw [← vacant]
    rfl
  | some n =>
    have noName : Layout.isName (d.name.text ++ '[' :: (n.text ++ [']'])) = false :=
      isName_eq_false_of_mem (c := '[') (by simp) (by decide)
    have free : Draft.IsFree known draft (d.name.text ++ '[' :: (n.text ++ [']'])) :=
      ⟨Draft.not_mem_keywords_of_not_isName noName, .inl typed⟩
    have noClosing : ']' ∉ n.text := n.isNameLike.not_mem (by decide)
    have named := List.isEmpty_eq_false_iff.2 d.name.ne_nil
    simp only [Draft.readWord_bracket free noBracket, Draft.readSubscript, vacant, unnamed, named,
      takeWhile_ne_append_cons noClosing, n.arrayLength_read]
    rfl

theorem readWords_spelled (spared : SpareTypeNames known) :
    Draft.readWords known (words d.spelled) {} = d.draft := by
  have notPrecision (p : Precision) : p.keyword ∉ known := by
    intro inside
    have taken := (spared _ inside).1
    rw [Precision.ofKeyword?_keyword] at taken
    cases taken
  have notType : d.type.name ∉ known := by
    intro inside
    have taken := (spared _ inside).2
    rw [ValueType.ofName?_name] at taken
    cases taken
  rw [words_spelled, Draft.readWords_cons, Draft.readWord_qualifier rfl]
  cases precision : d.precision with
  | none =>
    simp only [Option.map_none, Option.toList_none, List.nil_append, Draft.readWords_cons]
    rw [Draft.readWord_valueType rfl notType, d.readWord_nameWord rfl rfl rfl, draft, precision]
    rfl
  | some p =>
    simp only [Option.map_some, Option.toList_some, List.singleton_append, Draft.readWords_cons]
    rw [Draft.readWord_precision_of_not_mem rfl (notPrecision p),
      Draft.readWord_valueType rfl notType, d.readWord_nameWord rfl rfl rfl, draft, precision]
    rfl

theorem read_spelled (table : SpanTable) (spared : SpareTypeNames known) :
    (do (← Draft.read table known (words d.spelled)).settle "declaration") =
      .ok d.declaration := by
  obtain ⟨readBody, read⟩ := Draft.exists_readOver table known
  have drafted : Draft.read table known (words d.spelled) = .ok d.draft := by
    rw [read, readOver_of_plain (isPlain_of_mem_words d.isPlain_spelled),
      d.readWords_spelled spared]
  have amount : d.draft.amount? = some (amountOf d.length) := by
    rw [Draft.amount?, draft]
    cases length : d.length with
    | none => rfl
    | some n => simp [Digits.read, Digits.value?_of_isShort (d.isShort n length), amountOf]
  rw [drafted, Outcome.bind_ok]
  exact Draft.settle_of_complete _ _ rfl rfl rfl d.name.name_ne_empty amount (by simp [draft])
    (by simp [draft])

end Simple

def preface (ds : List Simple) : Text :=
  ds.flatMap fun d => d.spelled ++ [';']

theorem not_mem_preface (ds : List Simple) {c : Char} (structured : c ∈ structural)
    (ends : c ≠ ';') : c ∉ preface ds := by
  intro mem
  obtain ⟨d, -, mem⟩ := List.mem_flatMap.1 mem
  rcases List.mem_append.1 mem with mem | mem
  · exact d.isPlain_spelled.not_mem structured mem
  · exact ends (List.mem_singleton.1 mem)

theorem ofText_preface_append (ds : List Simple) (rest : Text) :
    Statement.ofText (preface ds ++ rest) =
      (ds.map fun d => words d.spelled) ++ Statement.ofText rest := by
  induction ds with
  | nil => rfl
  | cons d ds ih =>
    have ends : ';' ∉ d.spelled := d.isPlain_spelled.not_mem (by decide)
    have ne : words d.spelled ≠ [] := by simp [d.words_spelled]
    rw [preface, List.flatMap_cons, ← preface, List.append_assoc, List.append_assoc,
      List.singleton_append, Statement.ofText_append ends ne, ih, List.map_cons, List.cons_append]

end Grammar

namespace Surface

open Grammar

variable {source : Text}

def SparesTypeNames (source : Text) : Prop :=
  ∀ structs ∈ (readStructs (setAside source).2 (setAside source).1).toOption,
    SpareTypeNames (structs.map (·.name))

instance : DecidablePred SparesTypeNames := fun source =>
  inferInstanceAs (Decidable
    (∀ structs ∈ (readStructs (setAside source).2 (setAside source).1).toOption,
      SpareTypeNames (structs.map (·.name))))

theorem exists_setAside_preface (ds : List Simple) (source : Text) :
    ∃ gap, IsGap gap ∧
      setAside (preface ds ++ '\n' :: source) =
        (preface ds ++ (gap ++ (setAside source).1), (setAside source).2) := by
  have free {c : Char} (structured : c ∈ structural) (ends : c ≠ ';') :=
    not_mem_preface ds structured ends
  obtain ⟨gap, isGap, stripped⟩ :=
    Source.exists_stripComments_append (free (by decide) (by decide))
      (free (by decide) (by decide)) source
  have kept {o : Char} (structured : o ∈ structural) (ends : o ≠ ';') (solid : isBlank o = false)
      (c : Char) (code : Text) (table : SpanTable) :
      SpanTable.extract (.ofChars o c) (preface ds ++ (gap ++ code)) table =
        (preface ds ++ (gap ++ (SpanTable.extract (.ofChars o c) code table).1),
          (SpanTable.extract (.ofChars o c) code table).2) := by
    rw [SpanTable.extract_append (free structured ends),
      SpanTable.extract_append (Respaced.not_mem_gap solid isGap)]
  refine ⟨gap, isGap, ?_⟩
  rw [setAside, setAside, stripped, Delimiters.braces_eq, Delimiters.parentheses_eq,
    kept (by decide) (by decide) (by decide)]
  exact kept (by decide) (by decide) (by decide) _ _ _

theorem select_preface_append (ds : List Simple) {gap : Text} (isGap : gap.IsGap) (code : Text) :
    Statement.select Statement.declaresStruct (preface ds ++ (gap ++ code)) =
        Statement.select Statement.declaresStruct code ∧
      Statement.select Statement.declaresInterface (preface ds ++ (gap ++ code)) =
        (ds.map fun d => words d.spelled) ++
          Statement.select Statement.declaresInterface code := by
  have silent : (ds.map fun d => words d.spelled).filter Statement.declaresStruct = [] := by
    simp [List.filter_eq_nil_iff, Simple.declares_spelled]
  have all : (ds.map fun d => words d.spelled).filter Statement.declaresInterface =
      ds.map fun d => words d.spelled := by
    simp [List.filter_eq_self, Simple.declares_spelled]
  simp only [Statement.select, ofText_preface_append, Statement.ofText_gap_append isGap,
    List.filter_append, silent, all, List.nil_append, and_self]

/-- Declarations in front of a source are read first and leave the rest as it is, an error
included. -/
theorem read_preface_append (ds : List Simple) (spared : SparesTypeNames source) :
    read (preface ds ++ '\n' :: source) = (read source).map (ds.map Simple.declaration ++ ·) := by
  obtain ⟨gap, isGap, aside⟩ := exists_setAside_preface ds source
  obtain ⟨structStatements, interfaceStatements⟩ :=
    select_preface_append ds isGap (setAside source).1
  have structsRead : readStructs (setAside source).2 (preface ds ++ (gap ++ (setAside source).1)) =
      readStructs (setAside source).2 (setAside source).1 := by
    rw [readStructs, readStructs, structStatements]
  have interfaceRead {known : List String} (spared : SpareTypeNames known) :
      readInterface (setAside source).2 known (preface ds ++ (gap ++ (setAside source).1)) =
        (readInterface (setAside source).2 known (setAside source).1).map
          (ds.map Simple.declaration ++ ·) := by
    have front : (ds.map fun d => words d.spelled).mapM (fun statement => do
        (← Draft.read (setAside source).2 known statement).settle "declaration") =
          .ok (ds.map Simple.declaration) :=
      Outcome.mapM_map_eq_ok fun d _ => d.read_spelled (setAside source).2 spared
    rw [readInterface, readInterface, interfaceStatements]
    exact Outcome.mapM_append_of_eq_ok front
  simp only [read, aside, structsRead]
  -- structs are read first, so that an error in one of them comes before all declarations
  cases structs : readStructs (setAside source).2 (setAside source).1 with
  | error e => rfl
  | ok structs' =>
    have spared' : SpareTypeNames (structs'.map (·.name)) :=
      spared structs' (by rw [structs]; rfl)
    simp only [Outcome.bind_ok, interfaceRead spared']
    cases readInterface (setAside source).2 (structs'.map (·.name)) (setAside source).1 with
    | error e => rfl
    | ok interface => simp [Except.map, Outcome.bind_ok, pure, Except.pure]

/-- A source with brackets and comments that are not closed, and one that is refused. -/
theorem read_preface_append_unclosed :
    let a : Simple := {
      storage := .input, precision := some .high, type := .vector .float .three
      name := { text := "a".toList } }
    let f : Simple := {
      storage := .uniform, type := .scalar .float, name := { text := "f".toList }
      length := some { text := "007".toList }, start := { text := ['\n'] } }
    let unclosed := "#version 300 es\n); uniform a l; struct a \x7bfloat x;\x7d; /* (".toList
    let refused := "out vec3; /*".toList
    let x : Declaration := { qualifier := .struct, type := .value (.scalar .float), name := "x" }
    let struct : Declaration := {
      qualifier := .struct, type := .block, name := "a", members := some [x] }
    let l : Declaration := {
      qualifier := .uniform, type := .struct, name := "l", structName := some "a" }
    let form : Form := {
      qualifier := .text "out", type := .text "vec3", name := .null, amount := .null }
    let records : List Declaration := [
      { qualifier := .input, type := .value (.vector .float .three), name := "a"
        precision := some .high },
      { qualifier := .uniform, type := .value (.scalar .float), name := "f", amount := 7 }]
    preface [a, f] = "in highp vec3 a;\nuniform float f[007];".toList ∧
      SparesTypeNames unclosed ∧ SparesTypeNames refused ∧
      read (preface [a, f] ++ '\n' :: unclosed) = .ok (records ++ [l, struct]) ∧
      read (preface [a, f] ++ '\n' :: refused) = .error (.malformed "declaration" form) := by
  intro a f unclosed refused x struct l form records
  have text : preface [a, f] = "in highp vec3 a;\nuniform float f[007];".toList := by
    decide +kernel
  have meant : [a, f].map Simple.declaration = records := by decide +kernel
  have spared : SparesTypeNames unclosed := by decide +kernel
  have spared' : SparesTypeNames refused := by decide +kernel
  have alone : read unclosed = .ok [l, struct] := by decide +kernel
  have alone' : read refused = .error (.malformed "declaration" form) := by decide +kernel
  refine ⟨text, spared, spared', ?_, ?_⟩
  · rw [read_preface_append [a, f] spared, alone, meant]
    rfl
  · rw [read_preface_append [a, f] spared', alone']
    rfl

end Surface

end ShaderSurface
