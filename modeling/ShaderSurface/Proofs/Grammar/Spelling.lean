import ShaderSurface.Proofs.Grammar.Tokens
import ShaderSurface.Proofs.Span.Chunks

/-!
# The spelling of declarations

An item of a source is a plain declaration, a block, a struct or a default precision. It is spelled
with white space of its own between its tokens. Every item has the same outline: layout arguments in
parentheses, words, a body in braces, more words and a semicolon, where most parts may be missing;
so an item can also be spelled with other texts in its brackets (`Item.spelling`).
-/

namespace ShaderSurface.Grammar

open Text

/-- The white space in and before one declaration. -/
structure Spacing where
  start : Gap := {}
  beforeParenthesis : Gap := {}
  afterOpening : Gap := {}
  beforeClosing : Gap := {}
  afterParenthesis : Gap := {}
  afterInvariant : Space := {}
  afterCentroid : Space := {}
  afterStorage : Space := {}
  afterPrecision : Space := {}
  afterType : Space := {}
  beforeBracket : Gap := {}
  afterBracket : Gap := {}
  afterLength : Gap := {}
  beforeBrace : Gap := {}
  afterMembers : Gap := {}
  afterBrace : Space := {}
  beforeSemicolon : Gap := {}

structure Member where
  precision : Option Precision := none
  type : TypeName
  name : Identifier
  length : Option Digits := none

/-- An input, an output or a uniform without a body. -/
structure Variable extends Member where
  layout : Option Arguments := none
  isInvariant : Bool := false
  isCentroid : Bool := false
  storage : Qualifier
  isStorage : storage ≠ .struct := by decide

/-- An input, an output or a uniform with a body, and perhaps with an instance name. -/
structure Block where
  layout : Option Arguments := none
  storage : Qualifier
  isStorage : storage ≠ .struct := by decide
  name : Identifier
  members : List (Member × Spacing)
  members_ne_nil : members ≠ [] := by simp
  instance? : Option (Identifier × Option Digits) := none

structure Struct where
  name : Identifier
  members : List (Member × Spacing)
  members_ne_nil : members ≠ [] := by simp

inductive Item where
  | var (v : Variable)
  | block (b : Block)
  | struct (s : Struct)
  | precision (p : Precision)

def subscript (s : Spacing) : Option Digits → Text
  | none => []
  | some n =>
    s.beforeBracket.text ++
      '[' :: (s.afterBracket.text ++ n.text ++ s.afterLength.text ++ [']'])

namespace Member

def leading (s : Spacing) (m : Member) : List (Option Word × Space) :=
  [(m.precision.map fun p => p.keyword.toList, s.afterPrecision), (some m.type.word, s.afterType)]

def spelled (s : Spacing) (m : Member) : Text :=
  s.start.text ++ spell (m.leading s) ++ m.name.text ++ subscript s m.length ++
    s.beforeSemicolon.text

end Member

/-- The body of a struct or a block: members that end in semicolons, and white space. -/
def bodyText (members : List (Member × Spacing)) (last : Gap) : Text :=
  members.flatMap (fun member => member.1.spelled member.2 ++ [';']) ++ last.text

namespace Item

def layout? : Item → Option Arguments
  | var v => v.layout
  | block b => b.layout
  | _ => none

def members? : Item → Option (List (Member × Spacing))
  | block b => some b.members
  | struct s => some s.members
  | _ => none

def leading (s : Spacing) : Item → List (Option Word × Space)
  | var v =>
    (if v.isInvariant then some "invariant".toList else none, s.afterInvariant) ::
      (if v.isCentroid then some "centroid".toList else none, s.afterCentroid) ::
      (some v.storage.keyword.toList, s.afterStorage) :: v.leading s
  | block b => [(some b.storage.keyword.toList, s.afterStorage)]
  | struct _ => [(some "struct".toList, s.afterStorage)]
  | precision p =>
    [(some "precision".toList, s.afterStorage), (some p.keyword.toList, s.afterPrecision)]

def last (s : Spacing) : Item → Text
  | var v => v.name.text ++ subscript s v.length
  | block b => b.name.text ++ s.beforeBrace.text
  | struct d => d.name.text ++ s.beforeBrace.text
  | precision _ => "float".toList

def trailing (s : Spacing) : Item → Text
  | block b =>
    match b.instance? with
    | none => []
    | some (name, length) => s.afterBrace.text ++ name.text ++ subscript s length
  | _ => []

def opening (s : Spacing) (item : Item) : Text :=
  s.start.text ++
    if item.layout?.isSome then "layout".toList ++ s.beforeParenthesis.text else []

def middle (s : Spacing) (item : Item) : Text :=
  (if item.layout?.isSome then s.afterParenthesis.text else []) ++ spell (item.leading s) ++
    item.last s

def arguments? (s : Spacing) (item : Item) : Option Text :=
  item.layout?.map fun arguments => s.afterOpening.text ++ arguments.text ++ s.beforeClosing.text

def body? (s : Spacing) (item : Item) : Option Text :=
  item.members?.map fun members => bodyText members s.afterMembers

/-- The item up to its semicolon, with other texts in its brackets. -/
def spelling (s : Spacing) (item : Item) (arguments body : Option Text) : Text :=
  item.opening s ++ bracketed '(' ')' arguments ++ item.middle s ++ bracketed '{' '}' body ++
    item.trailing s ++ s.beforeSemicolon.text

def text (s : Spacing) (item : Item) : Text :=
  item.spelling s (item.arguments? s) (item.body? s) ++ [';']

end Item

def sourceText (items : List (Item × Spacing)) (last : Gap) : Text :=
  items.flatMap (fun item => item.1.text item.2) ++ last.text

theorem isNameLike_keyword {keyword : String} (h : keyword ∈ keywords) :
    keyword.toList ≠ [] ∧ IsNameLike keyword.toList := by
  have ne : ∀ keyword ∈ keywords, keyword.toList ≠ [] := by decide
  exact ⟨ne keyword h, isNameLike_of_mem_keywords keyword h⟩

theorem Member.areNames_leading (s : Spacing) (m : Member) : AreNames (m.leading s) := by
  refine List.forall_mem_cons.2 ⟨?_, List.forall_mem_cons.2 ⟨?_, List.forall_mem_nil _⟩⟩
  · intro word mem
    obtain ⟨p, -, rfl⟩ := Option.map_eq_some_iff.1 mem
    exact isNameLike_keyword (precision_mem_keywords p)
  · intro word mem
    obtain rfl : m.type.word = word := Option.some.inj mem
    exact ⟨m.type.word_ne_nil, m.type.isNameLike_word⟩

theorem areNames_cons_keyword {keyword : String} (h : keyword ∈ keywords) {word? : Option Word}
    (written : ∀ word ∈ word?, word = keyword.toList) (space : Space)
    {tokens : List (Option Word × Space)} (others : AreNames tokens) :
    AreNames ((word?, space) :: tokens) := by
  refine List.forall_mem_cons.2 ⟨?_, others⟩
  intro word mem
  rw [written word mem]
  exact isNameLike_keyword h

theorem mem_ite_some {p : Prop} [Decidable p] {x y : Word} (h : y ∈ if p then some x else none) :
    y = x := by
  split at h
  · exact (Option.some.inj h).symm
  · cases h

theorem Item.areNames_leading (s : Spacing) (item : Item) : AreNames (item.leading s) := by
  cases item with
  | var v =>
    apply areNames_cons_keyword (by decide : "invariant" ∈ keywords) fun _ => mem_ite_some
    apply areNames_cons_keyword (by decide : "centroid" ∈ keywords) fun _ => mem_ite_some
    apply areNames_cons_keyword (keyword_mem_keywords v.storage) (by simp)
    exact v.areNames_leading s
  | block b =>
    apply areNames_cons_keyword (keyword_mem_keywords b.storage) (by simp)
    exact List.forall_mem_nil _
  | struct d =>
    apply areNames_cons_keyword (by decide : "struct" ∈ keywords) (by simp)
    exact List.forall_mem_nil _
  | precision p =>
    apply areNames_cons_keyword (by decide : "precision" ∈ keywords) (by simp)
    apply areNames_cons_keyword (precision_mem_keywords p) (by simp)
    exact List.forall_mem_nil _

theorem isPlain_subscript (s : Spacing) (length : Option Digits) :
    (subscript s length).IsPlain := by
  cases length with
  | none => exact isPlain_nil
  | some n =>
    simp only [subscript, isPlain_append, isPlain_cons, isPlain_nil]
    have bracket : '[' ∉ structural ∧ ']' ∉ structural := by decide
    exact ⟨s.beforeBracket.isGap.isPlain, bracket.1,
      ⟨⟨s.afterBracket.isGap.isPlain, n.isNameLike.isPlain⟩, s.afterLength.isGap.isPlain⟩,
      bracket.2, trivial⟩

theorem Member.isPlain_spelled (s : Spacing) (m : Member) : (m.spelled s).IsPlain := by
  simp only [spelled, isPlain_append]
  exact ⟨⟨⟨⟨s.start.isGap.isPlain, isPlain_spell (m.areNames_leading s)⟩,
    m.name.isNameLike.isPlain⟩, isPlain_subscript s m.length⟩, s.beforeSemicolon.isGap.isPlain⟩

namespace Item

variable (s : Spacing) (item : Item)

theorem isPlain_last : (item.last s).IsPlain := by
  cases item with
  | var v => exact isPlain_append.2 ⟨v.name.isNameLike.isPlain, isPlain_subscript s v.length⟩
  | block b => exact isPlain_append.2 ⟨b.name.isNameLike.isPlain, s.beforeBrace.isGap.isPlain⟩
  | struct d => exact isPlain_append.2 ⟨d.name.isNameLike.isPlain, s.beforeBrace.isGap.isPlain⟩
  | precision p => exact (by decide : IsPlain "float".toList)

theorem isPlain_opening : (item.opening s).IsPlain := by
  refine isPlain_append.2 ⟨s.start.isGap.isPlain, ?_⟩
  split
  · have keyword : IsPlain "layout".toList := by decide
    exact isPlain_append.2 ⟨keyword, s.beforeParenthesis.isGap.isPlain⟩
  · exact isPlain_nil

theorem isPlain_middle : (item.middle s).IsPlain := by
  refine isPlain_append.2 ⟨isPlain_append.2 ⟨?_, isPlain_spell (item.areNames_leading s)⟩,
    item.isPlain_last s⟩
  split
  · exact s.afterParenthesis.isGap.isPlain
  · exact isPlain_nil

theorem isPlain_trailing : (item.trailing s).IsPlain := by
  cases item with
  | block b =>
    simp only [trailing]
    split
    · exact isPlain_nil
    · rename_i name length _
      simp only [isPlain_append]
      exact ⟨⟨s.afterBrace.isGap.isPlain, name.isNameLike.isPlain⟩, isPlain_subscript s length⟩
  | var v => exact isPlain_nil
  | struct d => exact isPlain_nil
  | precision p => exact isPlain_nil

/-- A structural character that is no bracket is not in an item unless it is in a bracketed text. -/
theorem not_mem_spelling {x : Char} (structured : x ∈ structural)
    (apart : x ∉ ['(', ')', '{', '}']) {arguments body : Option Text}
    (harguments : ∀ text ∈ arguments, x ∉ text) (hbody : ∀ text ∈ body, x ∉ text) :
    x ∉ item.spelling s arguments body := by
  simp only [List.mem_cons, List.not_mem_nil, or_false, not_or] at apart
  simp only [spelling, List.mem_append, not_or]
  exact ⟨⟨⟨⟨⟨(item.isPlain_opening s).not_mem structured,
    not_mem_bracketed apart.1 apart.2.1 harguments⟩, (item.isPlain_middle s).not_mem structured⟩,
    not_mem_bracketed apart.2.2.1 apart.2.2.2 hbody⟩, (item.isPlain_trailing s).not_mem structured⟩,
    s.beforeSemicolon.isGap.isPlain.not_mem structured⟩

theorem not_mem_arguments {x : Char} (free : x ∈ ['(', ')', '{', '}', '/', '#']) :
    ∀ text ∈ item.arguments? s, x ∉ text := by
  intro text mem
  obtain ⟨arguments, -, rfl⟩ := Option.map_eq_some_iff.1 mem
  have structured : x ∈ structural := by
    have sub : ∀ y ∈ ['(', ')', '{', '}', '/', '#'], y ∈ structural := by decide
    exact sub x free
  simp only [List.mem_append, not_or]
  exact ⟨⟨s.afterOpening.isGap.isPlain.not_mem structured, arguments.isFree x free⟩,
    s.beforeClosing.isGap.isPlain.not_mem structured⟩

theorem not_mem_body {x : Char} (structured : x ∈ structural) (semicolon : x ≠ ';') :
    ∀ text ∈ item.body? s, x ∉ text := by
  intro text mem inside
  obtain ⟨members, -, rfl⟩ := Option.map_eq_some_iff.1 mem
  rcases List.mem_append.1 inside with inside | inside
  · obtain ⟨⟨m, spacing⟩, -, inside⟩ := List.mem_flatMap.1 inside
    rcases List.mem_append.1 inside with inside | inside
    · exact (m.isPlain_spelled spacing).not_mem structured inside
    · exact semicolon (List.mem_singleton.1 inside)
  · exact s.afterMembers.isGap.isPlain.not_mem structured inside

end Item

end ShaderSurface.Grammar
