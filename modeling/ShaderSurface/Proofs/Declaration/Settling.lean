import Mathlib.Data.Option.Basic
import ShaderSurface.Declaration.Reader

/-!
# Settling drafts

A form settles exactly when it has no problem. A form that a draft fills in gives back the parts of
the draft. So a draft settles if it has a qualifier, a type, a name and a readable length, names a
struct exactly if its type is one, and has members exactly if it is a block. Two drafts that are
filled in, except perhaps for a readable length, settle alike exactly if they agree on the amount
and on the other parts (`Draft.settle_eq_settle_iff`).
-/

namespace ShaderSurface

theorem Scalar.ofText?_injective : Function.Injective Scalar.ofText? := by
  intro s t same
  cases s <;> cases t <;> simp_all [ofText?]

namespace Json

@[simp] theorem isWritable_ofText? (s : Option String) : (ofText? s).isWritable = true := by
  cases s <;> rfl

@[simp] theorem isWritable_bool (b : Bool) : (bool b).isWritable = true :=
  rfl

end Json

theorem ArrayLength.getD_toScalar_injective :
    Function.Injective fun length : Option ArrayLength => (length.map toScalar).getD .null := by
  intro l m same
  rcases l with _ | _ | _ <;> rcases m with _ | _ | _ <;> simp_all [toScalar]

namespace Form

theorem declaration?_isSome_iff (f : Form) : f.declaration?.isSome ↔ f.problems = [] := by
  simp only [problems, List.append_eq_nil_iff, declaration?, problemIf]
  cases f.qualifier?
  · simp
  cases f.type?
  · simp
  cases f.name?
  · simp
  cases f.amount?
  · simp
  cases f.flags?
  · simp
  cases f.layout?
  · simp
  cases f.precision?
  · simp
  cases f.structNameFits <;> cases f.bodyFits <;> cases f.members? <;> simp [guard]

end Form

namespace Draft

variable (d : Draft)

def amount? : Option Int :=
  match d.length with
  | none => some 1
  | some (.count n) => some n
  | some .unreadable => none

theorem qualifier?_toForm : d.toForm.qualifier? = d.qualifier := by
  cases h : d.qualifier <;> simp [toForm, Form.qualifier?, h, Scalar.ofText?, Scalar.text?]

theorem type?_toForm : d.toForm.type? = d.type := by
  cases h : d.type <;> simp [toForm, Form.type?, h, Scalar.ofText?, Scalar.text?]

theorem name?_toForm : d.toForm.name? = d.name.filter (· ≠ "") := by
  cases h : d.name <;> simp [toForm, Form.name?, h, Scalar.ofText?, Scalar.text?]

theorem amount?_toForm : d.toForm.amount? = d.amount? := by
  rcases h : d.length with _ | _ | _ <;>
    simp [toForm, Form.amount?, amount?, h, ArrayLength.toScalar, Scalar.int?]

theorem flags?_toForm : d.toForm.flags? = some (d.isInvariant, d.isCentroid) := by
  simp [toForm, Form.flags?, Scalar.bool?]

theorem layout?_toForm : d.toForm.layout? = some d.layout := by
  cases h : d.layout <;> simp [toForm, Form.layout?, h, Scalar.ofText?, Scalar.text?]

theorem precision?_toForm : d.toForm.precision? = some d.precision := by
  cases h : d.precision <;> simp [toForm, Form.precision?, h, Scalar.ofText?, Scalar.text?]

theorem members?_toForm : d.toForm.members? = some d.members := by
  have same (members : List Declaration) :
      (members.map Member.declaration).mapM Member.declaration? = some members := by
    induction members with
    | nil => rfl
    | cons member members ih => simp [Member.declaration?, ih]
  cases h : d.members <;> simp [toForm, Form.members?, h, same]

theorem settle_of_complete (what : String) {q : Qualifier} {t : DeclaredType} {n : String} {k : Int}
    (qualifier : d.qualifier = some q) (type : d.type = some t) (name : d.name = some n)
    (ne : n ≠ "") (amount : d.amount? = some k) (struct : t = .struct ↔ d.structName.isSome)
    (body : t = .block ↔ d.members.isSome) :
    d.settle what =
      .ok {
        qualifier := q
        type := t
        name := n
        amount := k
        isInvariant := d.isInvariant
        isCentroid := d.isCentroid
        layout := d.layout
        precision := d.precision
        structName := d.structName
        members := d.members } := by
  have structFits : d.toForm.structNameFits = true := by
    have same : d.toForm.structName.isSome = d.structName.isSome := rfl
    rw [Form.structNameFits, type?_toForm, type, same, beq_iff_eq, Bool.eq_iff_iff, ← struct]
    simp
  have bodyFits : d.toForm.bodyFits = true := by
    have same : d.toForm.members.isSome = d.members.isSome := Option.isSome_map
    rw [Form.bodyFits, type?_toForm, type, same, beq_iff_eq, Bool.eq_iff_iff, ← body]
    simp
  have named : d.name.filter (· ≠ "") = some n := by
    simp [name, Option.filter, ne]
  rw [settle, Form.settle, Form.declaration?, qualifier?_toForm, type?_toForm, name?_toForm,
    amount?_toForm, flags?_toForm, layout?_toForm, precision?_toForm, members?_toForm, structFits,
    bodyFits, qualifier, type, named, amount]
  rfl

/-- The parts of a declaration are those of the draft, and the optional ones fit its type. -/
structure SettlesInto (d : Draft) (x : Declaration) : Prop where
  qualifier : d.qualifier = some x.qualifier
  type : d.type = some x.type
  name : d.name = some x.name
  name_ne_empty : x.name ≠ ""
  amount : d.amount? = some x.amount
  isInvariant : x.isInvariant = d.isInvariant
  isCentroid : x.isCentroid = d.isCentroid
  layout : x.layout = d.layout
  precision : x.precision = d.precision
  structName : x.structName = d.structName
  members : x.members = d.members
  struct : x.type = .struct ↔ x.structName.isSome
  body : x.type = .block ↔ x.members.isSome

/-- A draft settles only into a declaration with its parts. -/
theorem settlesInto_of_settle {d : Draft} {what : String} {x : Declaration}
    (h : d.settle what = .ok x) : d.SettlesInto x := by
  have settled : d.toForm.declaration? = some x := by
    rw [settle, Form.settle] at h
    split at h
    · rename_i y found
      rw [found, Except.ok.inj h]
    · cases h
  simp only [Form.declaration?, qualifier?_toForm, type?_toForm, name?_toForm, amount?_toForm,
    flags?_toForm, layout?_toForm, precision?_toForm, members?_toForm, Option.bind_eq_bind,
    Option.bind_eq_some_iff, Option.some.injEq] at settled
  obtain ⟨q, qualifier, t, type, n, name, k, amount, flags, rfl, layout, rfl, precision, rfl, _,
    structFits, _, bodyFits, members, rfl, settled⟩ := settled
  obtain ⟨named, filled⟩ := Option.filter_eq_some_iff.1 name
  have struct : t = .struct ↔ d.structName.isSome := by
    have fits : d.toForm.structNameFits = true := by simpa [guard] using structFits
    rw [Form.structNameFits, type?_toForm, type, beq_iff_eq, Bool.eq_iff_iff] at fits
    simpa [toForm] using fits
  have body : t = .block ↔ d.members.isSome := by
    have fits : d.toForm.bodyFits = true := by simpa [guard] using bodyFits
    rw [Form.bodyFits, type?_toForm, type, beq_iff_eq, Bool.eq_iff_iff] at fits
    simpa [toForm] using fits
  obtain rfl := Option.some.inj settled
  exact {
    qualifier, type, amount, struct, body
    name := named
    name_ne_empty := by simpa using filled
    isInvariant := rfl
    isCentroid := rfl
    layout := rfl
    precision := rfl
    structName := rfl
    members := rfl }
theorem toForm_injective : Function.Injective toForm := by
  intro d e same
  have qualifier : d.qualifier = e.qualifier := by
    rw [← d.qualifier?_toForm, same, qualifier?_toForm]
  have type : d.type = e.type := by
    rw [← d.type?_toForm, same, type?_toForm]
  have flags : some (d.isInvariant, d.isCentroid) = some (e.isInvariant, e.isCentroid) := by
    rw [← d.flags?_toForm, same, flags?_toForm]
  have layout : some d.layout = some e.layout := by
    rw [← d.layout?_toForm, same, layout?_toForm]
  have precision : some d.precision = some e.precision := by
    rw [← d.precision?_toForm, same, precision?_toForm]
  have members : some d.members = some e.members := by
    rw [← d.members?_toForm, same, members?_toForm]
  have name : d.name = e.name := Scalar.ofText?_injective (congrArg Form.name same)
  have length : d.length = e.length :=
    ArrayLength.getD_toScalar_injective (congrArg Form.amount same)
  have structName : d.structName = e.structName := congrArg Form.structName same
  simp only [Option.some.injEq, Prod.mk.injEq] at flags layout precision members
  cases d
  cases e
  simp only [mk.injEq]
  exact ⟨qualifier, type, name, length, flags.1, flags.2, layout, precision, structName, members⟩

/-- A draft without a body that lacks nothing, except perhaps a length that can be read. -/
structure IsFilled (d : Draft) : Prop where
  qualifier : d.qualifier.isSome
  type : d.type.isSome
  name : ∃ n, d.name = some n ∧ n ≠ ""
  struct : d.type = some .struct ↔ d.structName.isSome
  notBlock : d.type ≠ some .block
  noBody : d.members = none

theorem length_of_amount?_eq_none {d : Draft} (amount : d.amount? = none) :
    d.length = some .unreadable := by
  rcases length : d.length with _ | _ | _
  · simp [amount?, length] at amount
  · simp [amount?, length] at amount
  · rfl

theorem settle_of_unreadable {d : Draft} (what : String) (amount : d.amount? = none)
    (noBody : d.members = none) : d.settle what = .error (.malformed what d.toForm) := by
  have length := length_of_amount?_eq_none amount
  have refused : d.toForm.declaration? = none := by
    rw [← Option.not_isSome_iff_eq_none, Form.declaration?_isSome_iff]
    simp [Form.problems, Form.problemIf, amount?_toForm, amount]
  have shown : d.toForm.toJson = Declaration.record (.ofText? (d.qualifier.map Qualifier.keyword))
      (.ofText? (d.type.map DeclaredType.name)) (.ofText? d.name) (.scalar .notANumber)
      (.bool d.isInvariant) (.bool d.isCentroid) (.ofText? d.layout)
      (.ofText? (d.precision.map Precision.keyword)) (.ofText? d.structName) .null := by
    rw [Form.toJson, toForm, length, noBody]
    rfl
  have writable : d.toForm.toJson.isWritable = true := by
    rw [shown, Declaration.record]
    simp only [Json.isWritable, Json.allFieldsWritable, Json.isWritable_ofText?,
      Json.isWritable_bool]
    rfl
  rw [settle, Form.settle, refused]
  simp only [writable, if_true]

def ofDeclaration (declaration : Declaration) : Draft where
  qualifier := some declaration.qualifier
  type := some declaration.type
  name := some declaration.name
  isInvariant := declaration.isInvariant
  isCentroid := declaration.isCentroid
  layout := declaration.layout
  precision := declaration.precision
  structName := declaration.structName
  members := declaration.members

theorem eq_of_ofDeclaration_eq {x y : Declaration} (amount : x.amount = y.amount)
    (others : ofDeclaration x = ofDeclaration y) : x = y := by
  cases x
  cases y
  simp_all [ofDeclaration]

variable {d e : Draft} (what : String)

theorem exists_settle (filled : d.IsFilled) {k : Int} (amount : d.amount? = some k) :
    ∃ declaration, d.settle what = .ok declaration ∧ declaration.amount = k ∧
      { d with length := none } = ofDeclaration declaration := by
  obtain ⟨q, qualifier⟩ := Option.isSome_iff_exists.1 filled.qualifier
  obtain ⟨t, type⟩ := Option.isSome_iff_exists.1 filled.type
  obtain ⟨n, name, ne⟩ := filled.name
  have struct : t = .struct ↔ d.structName.isSome := by
    rw [← filled.struct, type, Option.some.injEq]
  have notBlock : t ≠ .block := fun same => filled.notBlock (type.trans (congrArg some same))
  have body : t = .block ↔ d.members.isSome := by simp [notBlock, filled.noBody]
  refine ⟨_, settle_of_complete d what qualifier type name ne amount struct body, rfl, ?_⟩
  rw [ofDeclaration, qualifier, type, name]

/-- Filled drafts settle alike exactly if they agree on the amount and on everything but the
length. -/
theorem settle_eq_settle_iff (hd : d.IsFilled) (he : e.IsFilled) :
    d.settle what = e.settle what ↔
      d.amount? = e.amount? ∧ { d with length := none } = { e with length := none } := by
  -- a draft whose length cannot be read fails with all that it has, and such lengths are all alike
  cases amount : d.amount? with
  | none =>
    rw [settle_of_unreadable what amount hd.noBody]
    cases amount' : e.amount? with
    | none =>
      have lengths : d.length = e.length := by
        rw [length_of_amount?_eq_none amount, length_of_amount?_eq_none amount']
      rw [settle_of_unreadable what amount' he.noBody, Except.error.injEq,
        ReadError.malformed.injEq, toForm_injective.eq_iff]
      constructor
      · rintro ⟨-, rfl⟩
        exact ⟨rfl, rfl⟩
      · rintro ⟨-, others⟩
        refine ⟨rfl, ?_⟩
        cases d
        cases e
        simp_all
    | some k =>
      obtain ⟨y, settles, -⟩ := exists_settle what he amount'
      simp [settles]
  | some k =>
    obtain ⟨x, settles, rfl, parts⟩ := exists_settle what hd amount
    rw [settles]
    cases amount' : e.amount? with
    | none =>
      rw [settle_of_unreadable what amount' he.noBody]
      simp
    | some k' =>
      obtain ⟨y, settles', rfl, parts'⟩ := exists_settle what he amount'
      rw [settles', parts, parts', Except.ok.injEq, Option.some.injEq]
      constructor
      · rintro rfl
        exact ⟨rfl, rfl⟩
      · rintro ⟨same, others⟩
        exact eq_of_ofDeclaration_eq same others

end Draft

end ShaderSurface
