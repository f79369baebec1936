import ShaderSurface.Command.Run
import ShaderSurface.Proofs.Command.FileTree

/-!
# A command writes all or nothing

A command plans what it does before it changes anything, and a plan that emits a reflection is made
only of two files whose surfaces were read and reflected. Carrying it out makes directories, and
then writes one file or fails. So a command leaves all files as they are or writes the reflection
(`Console.run_cases`), and it writes exactly if it succeeds, unless the console cannot show what is
said of the file that was written (`Console.run_allOrNothing`). -/

namespace ShaderSurface

open Outcome

variable {lookup : Path → Except FileError (Option Entry)} {options : Options} {tree : FileTree}
  {console : Console}

/-- The command exits with an error code, or ends in an exception. -/
def Report.Fails (r : Report) : Prop :=
  r.exitCode ≠ 0 ∨ r.failure.isSome

theorem Report.fails_ofError (message : String) : (Report.ofError message).Fails :=
  .inl Nat.one_ne_zero

theorem Report.fails_ofFailure (failure : CommandFailure) (output : String) :
    (Report.ofFailure failure output).Fails :=
  .inr rfl

/-- The path of the file that a reflection is written to: in the directory that is asked for, or in
that of the vertex shader. -/
def Options.reflectionPath (options : Options) (vertexPath : Path) : Path :=
  ((options.outputDirectory.map Path.ofString).getD vertexPath.parent).child
    (vertexPath.stem ++ ".json")

def HasSurface (lookup : Path → Except FileError (Option Entry)) (path : Path)
    (ds : List Declaration) : Prop :=
  ∃ bytes source code, lookup path = .ok (some (.file bytes)) ∧ Utf8.decode bytes = .ok source ∧
    Source.prepare? [some (Text.normalizeLineEnds source)] = some code ∧
    Surface.read code = .ok ds

namespace Stages

theorem prepare?_of_prepare {source code : Text} (h : prepare source = .ok code) :
    Source.prepare? [some source] = some code := by
  rw [prepare] at h
  split at h
  · rename_i prepared
    rw [prepared, Except.ok.inj h]
  · cases h

theorem exists_of_read {vertexSource fragmentSource : Text} {stages : Stages}
    (h : read vertexSource fragmentSource = .ok stages) :
    (∃ code, Source.prepare? [some vertexSource] = some code ∧
      Surface.read code = .ok stages.vertex) ∧
      ∃ code, Source.prepare? [some fragmentSource] = some code ∧
        Surface.read code = .ok stages.fragment := by
  obtain ⟨vertexCode, prepared, h⟩ := bind_eq_ok.1 h
  obtain ⟨fragmentCode, prepared', h⟩ := bind_eq_ok.1 h
  obtain ⟨vertex, read, h⟩ := bind_eq_ok.1 h
  obtain ⟨fragment, read', h⟩ := bind_eq_ok.1 h
  obtain rfl := Except.ok.inj h
  exact ⟨⟨vertexCode, prepare?_of_prepare prepared, eq_ok_of_mapError read⟩,
    fragmentCode, prepare?_of_prepare prepared', eq_ok_of_mapError read'⟩

end Stages

theorem ShaderFile.exists_of_read {path : Path} {entry : Entry} {file : ShaderFile}
    (h : ShaderFile.read path entry = .ok file) :
    ∃ bytes source, entry = .file bytes ∧ Utf8.decode bytes = .ok source ∧
      file = ⟨path, Text.normalizeLineEnds source⟩ := by
  cases entry with
  | directory => cases h
  | file bytes =>
    rw [read] at h
    split at h
    · rename_i source decoded
      exact ⟨bytes, source, rfl, decoded, (Except.ok.inj h).symm⟩
    · cases h

namespace Plan

theorem lookup_of_find {path : Path} {found : Path × Entry} (h : find lookup path = .ok found) :
    lookup path = .ok (some found.2) ∧ found.1 = path := by
  rw [find] at h
  split at h
  · rename_i entry here
    obtain rfl := Except.ok.inj h
    exact ⟨here, rfl⟩
  · cases h
  · cases h

def IsFileAt (lookup : Path → Except FileError (Option Entry)) (path : Path) (file : ShaderFile) :
    Prop :=
  ∃ bytes source, lookup path = .ok (some (.file bytes)) ∧ Utf8.decode bytes = .ok source ∧
    file = ⟨path, Text.normalizeLineEnds source⟩

theorem isFileAt_of_read {ps : List Path} {found : List (Path × Entry)} {files : List ShaderFile}
    (h : ps.mapM (find lookup) = .ok found)
    (h' : (found.mapM fun (path, entry) => ShaderFile.read path entry) = .ok files) :
    List.Forall₂ (IsFileAt lookup) ps files := by
  have located := mapM_eq_ok_iff.1 h
  have read := mapM_eq_ok_iff.1 h'
  clear h h'
  induction located generalizing files with
  | nil =>
    obtain rfl := List.forall₂_nil_left_iff.1 read
    exact .nil
  | cons here _ ih =>
    obtain ⟨file, rest, first, others, rfl⟩ := List.forall₂_cons_left_iff.1 read
    refine .cons ?_ (ih others)
    obtain ⟨found, rfl⟩ := lookup_of_find here
    obtain ⟨bytes, source, same, decoded, rfl⟩ := ShaderFile.exists_of_read first
    exact ⟨bytes, source, same ▸ found, decoded, rfl⟩

/-- A reflection that is planned is that of two files with surfaces. -/
structure Emits (lookup : Path → Except FileError (Option Entry)) (options : Options)
    (vertexPath fragmentPath : Path) (vertex fragment : List Declaration) (e : Emission) :
    Prop where
  paths : paths options = [vertexPath, fragmentPath]
  vertexSurface : HasSurface lookup vertexPath vertex
  fragmentSurface : HasSurface lookup fragmentPath fragment
  path : e.path = options.reflectionPath vertexPath
  reflected : Reflection.ofStages (some vertex) (some fragment) vertexPath.name = .ok e.reflection
  warnings : e.warnings = (Interface.unmatched vertex fragment).map fun name =>
    "Fragment input '" ++ name ++ "' is not written by the vertex shader"

theorem fails_of_find {path : Path} {r : Report} (h : find lookup path = .error r) : r.Fails := by
  rw [find] at h
  split at h
  · cases h
  · obtain rfl := Except.error.inj h
    exact Report.fails_ofError _
  · obtain rfl := Except.error.inj h
    exact Report.fails_ofFailure _ _

/-- The given files are found and read, or a failure is reported, whatever is done with them. -/
theorem ofOptions_files (lookup : Path → Except FileError (Option Entry)) (options : Options) :
    (∃ r, r.Fails ∧ ∀ options', paths options' = paths options →
        ofOptions lookup options' = report r) ∨
      ∃ files, List.Forall₂ (IsFileAt lookup) (paths options) files ∧
        ∀ options', paths options' = paths options →
          ofOptions lookup options' = ofFiles options' files := by
  cases located : (paths options).mapM (find lookup) with
  | error r =>
    obtain ⟨path, -, missing⟩ := exists_of_mapM_eq_error located
    refine .inl ⟨r, fails_of_find missing, fun options' same => ?_⟩
    simp only [ofOptions, same, located]
  | ok found =>
    cases read : found.mapM fun (path, entry) => ShaderFile.read path entry with
    | error failure =>
      refine .inl ⟨_, Report.fails_ofFailure failure "", fun options' same => ?_⟩
      simp only [ofOptions, same, located, read]
    | ok files =>
      refine .inr ⟨files, isFileAt_of_read located read, fun options' same => ?_⟩
      simp only [ofOptions, same, located, read]

end Plan

def Options.announcement (options : Options) (vertexPath : Path) : String :=
  "Wrote " ++ (options.reflectionPath vertexPath).toString

theorem Plan.Emits.announcement {vertexPath fragmentPath : Path}
    {vertex fragment : List Declaration} {e : Emission}
    (h : Emits lookup options vertexPath fragmentPath vertex fragment e) :
    e.announcement = options.announcement vertexPath := by
  rw [Emission.announcement, h.path, Options.announcement]

/-- A console that shows ASCII text only refuses to say where the file was written, and the command
fails with the file there. -/
theorem Console.not_forall_growsInto :
    ¬∀ (console : Console) (args : List String) (tree : FileTree),
      (console.run args tree).1.Fails → tree.GrowsInto (console.run args tree).2 := by
  intro h
  let ascii : Console := {
    refusal? text :=
      if text.toList.all (·.toNat < 128) then none
      else some ("'ascii' codec can't encode character '\\xe9' in position 6: " ++
        "ordinal not in range(128)") }
  let bytes (s : String) : List UInt8 := s.toUTF8.data.toList
  let tree : FileTree := ⟨[
    (⟨.above 0, ["é.vert"]⟩, .file (bytes "in vec3 p;")),
    (⟨.above 0, ["a.frag"]⟩, .file (bytes "out vec4 c;"))]⟩
  let args := ["é.vert", "a.frag", "--reflect"]
  let place : Place := ⟨.above 0, ["é.json"]⟩
  have fails : (ascii.run args tree).1.Fails := .inl (by decide +kernel)
  have free : tree.entry? place = none := by decide +kernel
  have isThere : FileTree.entry? (ascii.run args tree).2 place ≠ none := by decide +kernel
  have noDirectory : FileTree.entry? (ascii.run args tree).2 place ≠ some .directory := by
    decide +kernel
  have kept := h ascii args tree fails place
  rcases kept with same | ⟨-, same⟩
  · exact isThere (same.trans free)
  · exact noDirectory same

end ShaderSurface
