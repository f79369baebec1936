import ShaderSurface.Proofs.Command.Run
import ShaderSurface.Proofs.Declaration.Refusal
import ShaderSurface.Proofs.Keyed

/-!
# Listing files and dumping them

Files are listed one after another, each under its name, and dumped as one value that has their
records by name. Declarations that can be listed can be dumped too. The dump has the records of each
file that is listed exactly if files of the same name have the same records
(`runCommand_dump_iff`).
-/

namespace ShaderSurface

open Outcome

namespace Declaration

open Numeral

variable {inherited : Option Qualifier} {indent text : String}

theorem isWritable_of_headline {d : Declaration} (h : d.headline inherited = .ok text) :
    isWritable d.amount = true := by
  obtain ⟨name, named, -⟩ := bind_eq_ok.1 h
  rw [listedName] at named
  split at named
  · split at named
    · rename_i length shown
      by_contra unwritable
      rw [text?, if_neg unwritable] at shown
      cases shown
    · cases named
  · rename_i single
    have one : d.amount = 1 := by simpa [isArray] using single
    rw [one]
    exact Draft.isWritable_one

mutual

theorem isWritable_of_listing {inherited : Option Qualifier} {indent text : String} :
    (d : Declaration) → d.listing indent inherited = .ok text → d.toJson.isWritable = true
  | ⟨qualifier, type, name, amount, isInvariant, isCentroid, layout, precision, structName,
      members⟩, h => by
    rw [listing] at h
    obtain ⟨line, headed, h⟩ := bind_eq_ok.1 h
    obtain ⟨body, followed, -⟩ := bind_eq_ok.1 h
    rw [isWritable_toJson_eq, Bool.and_eq_true]
    exact ⟨isWritable_of_headline headed, isWritable_of_bodyListing members followed⟩

theorem isWritable_of_bodyListing {inherited : Qualifier} {indent text : String} :
    (body : Option (List Declaration)) → bodyListing indent inherited body = .ok text →
      (bodyToJson body).isWritable = true
  | none, _ => rfl
  | some members, h => by
    rw [bodyListing] at h
    obtain ⟨lines, listed, -⟩ := bind_eq_ok.1 h
    exact allWritable_of_memberListing members listed

theorem allWritable_of_memberListing {inherited : Qualifier} {indent text : String} :
    (members : List Declaration) → memberListing indent inherited members = .ok text →
      Json.allWritable (listToJson members) = true
  | [], _ => rfl
  | member :: members, h => by
    rw [memberListing] at h
    obtain ⟨first, listed, h⟩ := bind_eq_ok.1 h
    obtain ⟨rest, others, -⟩ := bind_eq_ok.1 h
    rw [listToJson, Json.allWritable, Bool.and_eq_true]
    exact ⟨isWritable_of_listing member listed, allWritable_of_memberListing members others⟩

end

end Declaration

variable {lookup : Path → Except FileError (Option Entry)} {options : Options} {tree : FileTree}
  {args dumpArgs : List String}

structure AsksForListing (args : List String) (options : Options) : Prop where
  request : Request.ofArguments args = .work options
  vertex : options.vertex.isSome
  noReflection : options.reflect = false
  noDump : options.dump = false

namespace Request

theorem request?_ne_work (item : ArgumentItem) (options : Options) :
    item.request? ≠ some (.work options) := by
  fun_cases ArgumentItem.request? item <;> simp

/-- A switch in front is not among the words, so it changes nothing but what it asks for. -/
theorem ofItems_dump_cons {items : List ArgumentItem} (h : ofItems items = .work options) :
    ofItems (.switch .dump none :: items) = .work { options with dump := true } := by
  have skipped : (ArgumentItem.switch .dump none :: items).dropWhile (!·.isPlain) =
      items.dropWhile (!·.isPlain) := rfl
  have taken : (ArgumentItem.switch .dump none :: items).takeWhile (!·.isPlain) =
      .switch .dump none :: items.takeWhile (!·.isPlain) := rfl
  unfold ofItems at h ⊢
  rw [skipped, taken]
  generalize ArgumentItem.takeWord (items.dropWhile (!·.isPlain)) = vertex at h ⊢
  obtain ⟨vertex, rest⟩ := vertex
  simp only [List.cons_append] at h ⊢
  generalize ArgumentItem.takeWord rest = fragment at h ⊢
  obtain ⟨fragment, rest⟩ := fragment
  simp only at h ⊢
  generalize items.takeWhile (!·.isPlain) ++ rest = others at h ⊢
  split at h
  · rename_i request found
    obtain ⟨item, -, asks⟩ := List.exists_of_findSome?_eq_some found
    exact absurd (h ▸ asks) (request?_ne_work item options)
  rename_i noRequest
  split at h
  · rename_i recognized
    obtain rfl := Request.work.inj h
    have noRequest' : (.switch .dump none :: others).findSome? ArgumentItem.request? = none :=
      noRequest
    have recognized' :
        (.switch .dump none :: others).filterMap ArgumentItem.unrecognized? = [] := recognized
    rw [noRequest', recognized']
    simp [ArgumentItem.directory?]
  · cases h

theorem ofArguments_dump_cons (h : ofArguments args = .work options) :
    ofArguments ("--dump" :: args) = .work { options with dump := true } := by
  have kind : ArgumentKind.ofArgument "--dump".toList = .ok (.switch .dump false none) := by decide
  have front : ("--dump" : String) ≠ "--" := by decide
  unfold ofArguments at h ⊢
  rw [ArgumentKind.ofArguments, if_neg front, kind, bind_ok]
  cases kinds : ArgumentKind.ofArguments args with
  | error message =>
    rw [kinds] at h
    cases h
  | ok kinds' =>
    rw [kinds] at h
    have items : ArgumentItem.ofKinds (("--dump", .switch .dump false none) :: kinds') =
        .switch .dump none :: ArgumentItem.ofKinds kinds' := by
      rw [ArgumentItem.ofKinds]
      rfl
    have added := ofItems_dump_cons h
    rw [← items] at added
    exact added

end Request

namespace Plan

def IsSurfaceAt (lookup : Path → Except FileError (Option Entry)) (path : Path)
    (surface : Path × List Declaration) : Prop :=
  surface.1 = path ∧ ∃ bytes source, lookup path = .ok (some (.file bytes)) ∧
    Utf8.decode bytes = .ok source ∧ Surface.read (Text.normalizeLineEnds source) = .ok surface.2

theorem IsSurfaceAt.unique {path : Path} {surface other : Path × List Declaration}
    (h : IsSurfaceAt lookup path surface) (h' : IsSurfaceAt lookup path other) :
    surface = other := by
  obtain ⟨same, bytes, source, found, decoded, read⟩ := h
  obtain ⟨same', bytes', source', found', decoded', read'⟩ := h'
  cases Except.ok.inj (found.symm.trans found')
  cases Except.ok.inj (decoded.symm.trans decoded')
  exact Prod.ext (same.trans same'.symm) (Except.ok.inj (read.symm.trans read'))

/-- The section of a file in a listing: its name, and a line for each of its declarations. -/
def IsSection (surface : Path × List Declaration) (text : String) : Prop :=
  ∃ lines, surface.2.mapM (·.listing "  " none) = .ok lines ∧
    text = surface.1.name ++ ":\n" ++ String.join (lines.map fun line => "  " ++ line ++ "\n")

def records (surfaces : Surfaces) : Keyed String Json :=
  Keyed.ofPairs (surfaces.map fun (path, declarations) =>
    (path.name, .array (declarations.map Declaration.toJson)))

def HasAllRecords (surfaces : Surfaces) : Prop :=
  ∀ surface ∈ surfaces,
    (records surfaces).get? surface.1.name = some (.array (surface.2.map Declaration.toJson))

def AgreeByName (surfaces : Surfaces) : Prop :=
  ∀ surface ∈ surfaces, ∀ other ∈ surfaces, surface.1.name = other.1.name →
    surface.2.map Declaration.toJson = other.2.map Declaration.toJson

theorem hasAllRecords_iff {surfaces : Surfaces} :
    HasAllRecords surfaces ↔ AgreeByName surfaces := by
  have pairs := Keyed.get?_ofPairs_eq_iff (surfaces.map fun (path, declarations) =>
    (path.name, Json.array (declarations.map Declaration.toJson)))
  simp only [List.forall_mem_map, Json.array.injEq] at pairs
  exact pairs

theorem exists_lines_of_listDeclarations {output : String} {ds : List Declaration} {text : String}
    (h : listDeclarations output ds = (text, none)) :
    ∃ lines, ds.mapM (·.listing "  " none) = .ok lines ∧
      text = output ++ String.join (lines.map fun line => "  " ++ line ++ "\n") := by
  induction ds generalizing output with
  | nil =>
    obtain ⟨rfl, -⟩ := Prod.mk.inj h
    exact ⟨[], rfl, by simp⟩
  | cons d ds ih =>
    rw [listDeclarations] at h
    split at h
    · rename_i line listed
      obtain ⟨lines, others, rfl⟩ := ih h
      refine ⟨line :: lines, ?_, by simp [String.append_assoc]⟩
      rw [List.mapM_cons, listed, bind_ok, others, bind_ok]
      rfl
    · cases (Prod.mk.inj h).2

/-- Files that are listed have a section each, in order. -/
theorem exists_sections_of_list {output : String} {surfaces : Surfaces}
    (succeeds : ¬(list output surfaces).Fails) :
    ∃ sections, List.Forall₂ IsSection surfaces sections ∧
      list output surfaces = { output := output ++ String.join sections } := by
  induction surfaces generalizing output with
  | nil => exact ⟨[], .nil, by simp [list]⟩
  | cons surface surfaces ih =>
    obtain ⟨path, ds⟩ := surface
    rw [list] at succeeds
    split at succeeds
    · rename_i text listed
      obtain ⟨lines, first, rfl⟩ := exists_lines_of_listDeclarations listed
      obtain ⟨sections, others, same⟩ := ih succeeds
      refine ⟨_ :: sections, .cons ⟨lines, first, rfl⟩ others, ?_⟩
      rw [list, listed]
      simp only
      rw [same, String.join_cons]
      simp only [String.append_assoc]
    · exact absurd (Report.fails_ofFailure _ _) succeeds

theorem dump_of_sections {surfaces : Surfaces} {sections : List String}
    (listed : List.Forall₂ IsSection surfaces sections) :
    dump surfaces =
      { output := (Json.object (records surfaces)).render Json.indented ++ "\n" } := by
  have writable : (Json.object (records surfaces)).isWritable = true := by
    rw [Json.isWritable, Json.allFieldsWritable_iff]
    intro field mem
    obtain ⟨surface, given, rfl⟩ := List.mem_map.1 (Keyed.mem_of_mem_ofPairs mem)
    obtain ⟨text, -, lines, written, -⟩ := exists_of_mem_right listed.flip given
    rw [Json.isWritable, Json.allWritable_iff, List.forall_mem_map]
    intro d mem
    obtain ⟨line, written⟩ := exists_mapM_eq_ok_iff.1 ⟨lines, written⟩ d mem
    exact Declaration.isWritable_of_listing d written
  have shown : (Json.object (records surfaces)).render? Json.indented =
      some ((Json.object (records surfaces)).render Json.indented) := by
    rw [Json.render?, if_pos writable]
  rw [records] at shown
  simp only [dump, shown]
  rfl

theorem ofFiles_without_reflection (noReflection : options.reflect = false)
    (files : List ShaderFile) :
    (∃ message, ∀ dumps, ofFiles { options with dump := dumps } files =
        report (.ofError message)) ∨
      ∃ surfaces, Plan.surfaces files = .ok surfaces ∧
        ∀ dumps, ofFiles { options with dump := dumps } files =
          report (if dumps then dump surfaces else list "" surfaces) := by
  simp only [ofFiles, noReflection, Bool.false_eq_true, if_false]
  cases Plan.surfaces files with
  | error cause => exact .inl ⟨cause.message, fun _ => rfl⟩
  | ok surfaces => exact .inr ⟨surfaces, rfl, fun _ => rfl⟩

theorem isSurfaceAt_of_surfaces {ps : List Path} {files : List ShaderFile} {surfaces : Surfaces}
    (files_at : List.Forall₂ (IsFileAt lookup) ps files)
    (h : Plan.surfaces files = .ok surfaces) :
    List.Forall₂ (IsSurfaceAt lookup) ps surfaces := by
  have read := mapM_eq_ok_iff.1 h
  clear h
  induction files_at generalizing surfaces with
  | nil =>
    obtain rfl := List.forall₂_nil_left_iff.1 read
    exact .nil
  | cons here _ ih =>
    obtain ⟨surface, rest, first, others, rfl⟩ := List.forall₂_cons_left_iff.1 read
    refine .cons ?_ (ih others)
    obtain ⟨bytes, source, found, decoded, rfl⟩ := here
    obtain ⟨ds, parsed, same⟩ := bind_eq_ok.1 first
    obtain rfl := Except.ok.inj same
    exact ⟨rfl, bytes, source, found, decoded, parsed⟩

/-- The given files have surfaces, or a failure is reported, whether they are listed or dumped. -/
theorem ofOptions_without_reflection (lookup : Path → Except FileError (Option Entry))
    (noReflection : options.reflect = false) :
    (∃ r, r.Fails ∧ ∀ dumps, ofOptions lookup { options with dump := dumps } = report r) ∨
      ∃ surfaces, List.Forall₂ (IsSurfaceAt lookup) (paths options) surfaces ∧
        ∀ dumps, ofOptions lookup { options with dump := dumps } =
          report (if dumps then dump surfaces else list "" surfaces) := by
  rcases ofOptions_files lookup options with ⟨r, fails, planned⟩ | ⟨files, files_at, planned⟩
  · exact .inl ⟨r, fails, fun dumps => planned { options with dump := dumps } rfl⟩
  rcases ofFiles_without_reflection noReflection files with ⟨message, same⟩ | ⟨surfaces, read, same⟩
  · exact .inl ⟨_, Report.fails_ofError message, fun dumps =>
      (planned { options with dump := dumps } rfl).trans (same dumps)⟩
  · exact .inr ⟨surfaces, isSurfaceAt_of_surfaces files_at read, fun dumps =>
      (planned { options with dump := dumps } rfl).trans (same dumps)⟩

end Plan

/-- The surfaces of the given files are listed in sections, in order, and they are dumped as their
records by name. -/
structure ListsAndDumps (options : Options) (tree : FileTree) (surfaces : Plan.Surfaces)
    (sections : List String) (listed dumped : Report × FileTree) : Prop where
  given : List.Forall₂ (Plan.IsSurfaceAt tree.lookup) (Plan.paths options) surfaces
  each : List.Forall₂ Plan.IsSection surfaces sections
  listed : listed = ({ output := String.join sections }, tree)
  dumped : dumped =
    ({ output := (Json.object (Plan.records surfaces)).render Json.indented ++ "\n" }, tree)

theorem runCommand_of_work (request : Request.ofArguments args = .work options)
    (vertex : options.vertex.isSome) {r : Report}
    (planned : Plan.ofOptions tree.lookup options = .report r) :
    runCommand args tree = (r, tree) := by
  have given : ¬options.vertex.isNone := by simpa using Option.isSome_iff_ne_none.1 vertex
  simp only [runCommand, Console.run, Plan.ofArguments, request, if_neg given, planned]

/-- Where files are listed without a failure, they are dumped without one, and the dump has the
records of each of them exactly if files of the same name have the same records. -/
theorem runCommand_dump_iff (asks : AsksForListing args options)
    (asksForDump : Request.ofArguments dumpArgs = .work { options with dump := true })
    (succeeds : ¬(runCommand args tree).1.Fails) :
    ∃ surfaces sections,
      ListsAndDumps options tree surfaces sections (runCommand args tree)
          (runCommand dumpArgs tree) ∧
        (Plan.HasAllRecords surfaces ↔ Plan.AgreeByName surfaces) := by
  have noDump : { options with dump := false } = options := by rw [← asks.noDump]
  rcases Plan.ofOptions_without_reflection tree.lookup asks.noReflection with ⟨r, fails, planned⟩ |
    ⟨surfaces, given, planned⟩
  · have run := runCommand_of_work asks.request asks.vertex (noDump ▸ planned false)
    rw [run] at succeeds
    exact absurd fails succeeds
  · have listing := runCommand_of_work asks.request asks.vertex (noDump ▸ planned false)
    have dumping := runCommand_of_work asksForDump asks.vertex (planned true)
    rw [listing] at succeeds
    obtain ⟨sections, each, listed⟩ := Plan.exists_sections_of_list succeeds
    refine ⟨surfaces, sections, ⟨given, each, ?_, ?_⟩, Plan.hasAllRecords_iff⟩
    · rw [listing, if_neg Bool.false_ne_true, listed, String.empty_append]
    · rw [dumping, if_pos rfl, Plan.dump_of_sections each]

/-- Two files of different names are listed, and dumped with all their records. -/
theorem runCommand_dump_iff_apart :
    let bytes (s : String) : List UInt8 := s.toUTF8.data.toList
    let tree : FileTree := ⟨[
      (⟨.above 0, ["a.vert"]⟩, .file (bytes "in vec3 p;")),
      (⟨.above 0, ["sub", "a.frag"]⟩, .file (bytes "out vec4 c;"))]⟩
    let options : Options := { vertex := some "a.vert", fragment := some "sub/a.frag" }
    let args := ["-v", "a.vert", "sub/a.frag"]
    let dumpArgs := ["-v", "a.vert", "sub/a.frag", "--dump"]
    AsksForListing args options ∧
      Request.ofArguments dumpArgs = .work { options with dump := true } ∧
      ¬(runCommand args tree).1.Fails ∧
      (runCommand args tree).1.output = "a.vert:\n  in vec3 p\na.frag:\n  out vec4 c\n" ∧
      ∃ surfaces sections,
        ListsAndDumps options tree surfaces sections (runCommand args tree)
            (runCommand dumpArgs tree) ∧
          Plan.HasAllRecords surfaces := by
  intro bytes tree options args dumpArgs
  have asks : AsksForListing args options := ⟨by decide +kernel, rfl, rfl, rfl⟩
  have asksForDump : Request.ofArguments dumpArgs = .work { options with dump := true } := by
    decide +kernel
  have succeeds : ¬(runCommand args tree).1.Fails := by
    unfold Report.Fails
    decide +kernel
  obtain ⟨surfaces, sections, both, iff⟩ := runCommand_dump_iff asks asksForDump succeeds
  have paths : Plan.paths options = [.ofString "a.vert", .ofString "sub/a.frag"] := by
    decide +kernel
  have agree : Plan.AgreeByName surfaces := by
    have given := both.given
    rw [paths] at given
    obtain ⟨vertex, _, ⟨atVertex, -⟩, others, rfl⟩ := List.forall₂_cons_left_iff.1 given
    obtain ⟨fragment, _, ⟨atFragment, -⟩, none, rfl⟩ := List.forall₂_cons_left_iff.1 others
    obtain rfl := List.forall₂_nil_left_iff.1 none
    have apart : vertex.1.name ≠ fragment.1.name := by
      rw [atVertex, atFragment]
      decide +kernel
    simp [Plan.AgreeByName, apart, apart.symm]
  exact ⟨asks, asksForDump, succeeds, by decide +kernel, surfaces, sections, both, iff.2 agree⟩

/-- Of two files of the same name in different directories, the dump has the records of one only. -/
theorem not_forall_hasAllRecords :
    ¬∀ (args dumpArgs : List String) (options : Options) (tree : FileTree),
      AsksForListing args options →
      Request.ofArguments dumpArgs = .work { options with dump := true } →
      ¬(runCommand args tree).1.Fails →
      ∃ surfaces sections,
        ListsAndDumps options tree surfaces sections (runCommand args tree)
            (runCommand dumpArgs tree) ∧
          Plan.HasAllRecords surfaces := by
  intro h
  let bytes (s : String) : List UInt8 := s.toUTF8.data.toList
  let tree : FileTree := ⟨[
    (⟨.above 0, ["a", "s.glsl"]⟩, .file (bytes "in int p;")),
    (⟨.above 0, ["b", "s.glsl"]⟩, .file (bytes "in int q;"))]⟩
  let options : Options := { vertex := some "a/s.glsl", fragment := some "b/s.glsl" }
  let args := ["a/s.glsl", "b/s.glsl"]
  let input (name : String) : Declaration := {
    qualifier := .input
    type := .value (.scalar .int)
    name }
  have asks : AsksForListing args options := ⟨by decide +kernel, rfl, rfl, rfl⟩
  have succeeds : ¬(runCommand args tree).1.Fails := by
    unfold Report.Fails
    decide +kernel
  have asksForDump := Request.ofArguments_dump_cons asks.request
  obtain ⟨surfaces, sections, both, all⟩ :=
    h args ("--dump" :: args) options tree asks asksForDump succeeds
  have first : Plan.IsSurfaceAt tree.lookup (.ofString "a/s.glsl")
      (.ofString "a/s.glsl", [input "p"]) :=
    ⟨rfl, bytes "in int p;", "in int p;".toList, by decide +kernel, by decide +kernel,
      by decide +kernel⟩
  have second : Plan.IsSurfaceAt tree.lookup (.ofString "b/s.glsl")
      (.ofString "b/s.glsl", [input "q"]) :=
    ⟨rfl, bytes "in int q;", "in int q;".toList, by decide +kernel, by decide +kernel,
      by decide +kernel⟩
  have given := both.given
  have paths : Plan.paths options = [.ofString "a/s.glsl", .ofString "b/s.glsl"] := by
    decide +kernel
  rw [paths] at given
  obtain ⟨_, _, here, others, rfl⟩ := List.forall₂_cons_left_iff.1 given
  obtain ⟨_, _, here', none, rfl⟩ := List.forall₂_cons_left_iff.1 others
  obtain rfl := here.unique first
  obtain rfl := here'.unique second
  have same := Plan.hasAllRecords_iff.1 all _ List.mem_cons_self _
    (List.mem_cons_of_mem _ List.mem_cons_self) (by decide +kernel)
  simp [input, Declaration.toJson, Declaration.record, Json.text] at same

end ShaderSurface
