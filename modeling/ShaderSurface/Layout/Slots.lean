import ShaderSurface.Layout.Arguments
import ShaderSurface.Layout.Error

/-!
# Slots

Attributes take locations, textures units and blocks bindings; in each case a declaration takes a
run of consecutive slots. A declaration whose layout gives a slot keeps it. Every other declaration,
in order, takes the lowest run that is free of all slots given by layouts and of the runs before it.
-/

namespace ShaderSurface

/-- Consecutive slots. -/
structure SlotRun where
  start : Nat
  width : Nat
  deriving DecidableEq, Repr

namespace SlotRun

def stop (r : SlotRun) : Nat := r.start + r.width

def meets (r s : SlotRun) : Bool :=
  max r.start s.start < min r.stop s.stop

/-- The run meets none of the runs that are taken. -/
def isFree (taken : List SlotRun) (r : SlotRun) : Bool :=
  taken.all (!r.meets ·)

/-- The lowest start of a free run. It is the first slot or follows a run that is taken. -/
def lowestFree (taken : List SlotRun) (width : Nat) : Nat :=
  let candidates := 0 :: taken.map stop
  ((candidates.filter fun start => isFree taken ⟨start, width⟩).min?).getD 0

end SlotRun

/-- What takes slots, by the name of the layout argument that gives one and by width. -/
structure SlotKind where
  key : String
  width : Declaration → Nat

namespace SlotKind

def attributeLocation : SlotKind where
  key := "location"
  width d := d.type.locations * d.elements

def textureUnit : SlotKind where
  key := "binding"
  width := Declaration.elements

def blockBinding : SlotKind where
  key := "binding"
  width := Declaration.elements

def given (kind : SlotKind) (d : Declaration) : Except AnalysisError (Option Nat) :=
  match Layout.arguments? (d.layout.getD "").toList with
  | some arguments => .ok ((arguments.get? kind.key).bind LayoutValue.number?)
  | none => .error (.layout (.unreadable (d.layout.getD "")))

/-- The slots of declarations, some of them given, when runs are taken already. -/
def place (kind : SlotKind) : List SlotRun → List (Declaration × Option Nat) → List Nat
  | _, [] => []
  | taken, (_, some slot) :: rest => slot :: place kind taken rest
  | taken, (d, none) :: rest =>
    let slot := SlotRun.lowestFree taken (kind.width d)
    slot :: place kind (⟨slot, kind.width d⟩ :: taken) rest

def givenRuns (kind : SlotKind) (declarations : List (Declaration × Option Nat)) : List SlotRun :=
  declarations.filterMap fun (d, slot) => slot.map (⟨·, kind.width d⟩)

def assign (kind : SlotKind) (declarations : List Declaration) :
    Except AnalysisError (Keyed String Nat) := do
  let given ← declarations.mapM kind.given
  let paired := declarations.zip given
  let slots := kind.place (kind.givenRuns paired) paired
  return Keyed.ofPairs ((declarations.map (·.name)).zip slots)

end SlotKind

end ShaderSurface
