import ShaderSurface.Command.Arguments
import ShaderSurface.Command.FileTree
import ShaderSurface.Declaration.Listing
import ShaderSurface.Program.Reflection
import ShaderSurface.Program.Stages
import ShaderSurface.Text.Utf8

/-!
# What a command does

A command first finds all its files, then reads all of them, and only then looks at what they say.
It ends with a report, and changes files in one case only: a reflection that was made is written.
-/

namespace ShaderSurface

/-- A failure that a command does not handle. -/
inductive CommandFailure where
  | undecodable (cause : Utf8.DecodeError)
  | unreadable (cause : FileError)
  | unlistable (cause : ListingError)
  | oversizedInteger
  deriving DecidableEq, Repr

def CommandFailure.message : CommandFailure → String
  | undecodable cause => cause.message
  | unreadable cause => cause.message
  | unlistable cause => cause.message
  | oversizedInteger => Numeral.oversizedMessage

structure Report where
  exitCode : Nat := 0
  output : String := ""
  errors : String := ""
  failure : Option CommandFailure := none
  deriving DecidableEq, Repr, Inhabited

namespace Report

def ofError (message : String) : Report where
  exitCode := 1
  errors := "Error: " ++ message ++ "\n"

def ofFailure (failure : CommandFailure) (output : String) : Report where
  output
  failure := some failure

end Report

/-- A reflection to be written in a directory, and what is said once it is. -/
structure Emission where
  directory : Path
  name : String
  reflection : Reflection
  warnings : List String
  deriving DecidableEq, Repr

/-- What a command does: report, or write a reflection. -/
inductive Plan where
  | report (r : Report)
  | emit (e : Emission)
  deriving DecidableEq, Repr

structure ShaderFile where
  path : Path
  source : Text
  deriving DecidableEq, Repr

namespace ShaderFile

def read (path : Path) : Entry → Except CommandFailure ShaderFile
  | .directory => .error (.unreadable ⟨.isADirectory, path⟩)
  | .file bytes =>
    match Utf8.decode bytes with
    | .ok source => .ok { path, source := Text.normalizeLineEnds source }
    | .error cause => .error (.undecodable cause)

end ShaderFile

namespace Plan

abbrev Surfaces := List (Path × List Declaration)

/-- Print one file's declarations after what was printed before; the result tells whether all of
them could be listed. -/
def listDeclarations : (output : String) → List Declaration → String × Option ListingError
  | output, [] => (output, none)
  | output, d :: ds =>
    match d.listing "  " none with
    | .ok line => listDeclarations (output ++ "  " ++ line ++ "\n") ds
    | .error cause => (output, some cause)

def list : (output : String) → Surfaces → Report
  | output, [] => { output }
  | output, (path, declarations) :: rest =>
    match listDeclarations (output ++ path.name ++ ":\n") declarations with
    | (output, none) => list output rest
    | (output, some cause) => .ofFailure (.unlistable cause) output

def dump (surfaces : Surfaces) : Report :=
  let records := Keyed.ofPairs (surfaces.map fun (path, declarations) =>
    (path.name, Json.array (declarations.map Declaration.toJson)))
  match (Json.object records).render? Json.indented with
  | some text => { output := text ++ "\n" }
  | none => .ofFailure .oversizedInteger ""

def reflect (options : Options) (vertex fragment : ShaderFile) : Plan :=
  match Stages.read vertex.source fragment.source with
  | .error cause => report (.ofError cause.message)
  | .ok stages =>
    match Reflection.ofStages (some stages.vertex) (some stages.fragment) vertex.path.name with
    | .error cause => report (.ofError cause.message)
    | .ok reflection =>
      emit {
        directory := (options.outputDirectory.map Path.ofString).getD vertex.path.parent
        name := vertex.path.stem ++ ".json"
        reflection
        warnings := stages.warnings }

def surfaces (files : List ShaderFile) : Except ReadError Surfaces :=
  files.mapM fun file => do return (file.path, ← Surface.read file.source)

def ofFiles (options : Options) (files : List ShaderFile) : Plan :=
  if options.reflect then
    match files with
    | [vertex, fragment] => reflect options vertex fragment
    | _ => report (.ofError "--reflect needs a vertex and a fragment shader")
  else
    match surfaces files with
    | .error cause => report (.ofError cause.message)
    | .ok surfaces => report (if options.dump then dump surfaces else list "" surfaces)

/-- The paths of the shaders. An empty path names none. -/
def paths (options : Options) : List Path :=
  ((options.vertex.toList ++ options.fragment.toList).filter (· ≠ "")).map Path.ofString

def find (lookup : Path → Except FileError (Option Entry)) (path : Path) :
    Except Report (Path × Entry) :=
  match lookup path with
  | .ok (some entry) => .ok (path, entry)
  | .ok none => .error (.ofError ("file not found: " ++ path.toString))
  | .error cause => .error (.ofFailure (.unreadable cause) "")

def ofOptions (lookup : Path → Except FileError (Option Entry)) (options : Options) : Plan :=
  match (paths options).mapM (find lookup) with
  | .error r => report r
  | .ok found =>
    match found.mapM fun (path, entry) => ShaderFile.read path entry with
    | .error failure => report (.ofFailure failure "")
    | .ok files => ofFiles options files

def ofArguments (lookup : Path → Except FileError (Option Entry)) (args : List String) : Plan :=
  match Request.ofArguments args with
  | .help => report { output := Switch.helpText }
  | .version => report { output := Switch.versionText }
  | .misuse message =>
    report {
      exitCode := 2
      errors := Switch.usage ++ Switch.program ++ ": error: " ++ message ++ "\n" }
  | .work options =>
    if options.vertex.isNone then report { output := Switch.helpText }
    else ofOptions lookup options

end Plan

end ShaderSurface
