import ShaderSurface.Command.Path
import ShaderSurface.Keyed
import ShaderSurface.Text.Quoted

/-!
# Files and directories

A file tree holds the files and directories below the current directory, and whatever is made
elsewhere. Following a path needs a directory at every step but the last, and no step may be too
long for the directory that it is looked up in.
-/

namespace ShaderSurface

/-- Where a walk starts: at the root, or some levels above the current directory. -/
inductive Origin where
  | root
  | above (levels : Nat)
  deriving DecidableEq, Repr

/-- A place in a file tree: the names from an origin on. -/
structure Place where
  origin : Origin
  names : List String
  deriving DecidableEq, Repr

namespace Place

def current : Place := ⟨.above 0, []⟩

def start (p : Path) : Place := if p.root = "" then current else ⟨.root, []⟩

/-- The place one step further. A step up from the root stays there. -/
def step (place : Place) (name : String) : Place :=
  if name = ".." then
    match place.names, place.origin with
    | [], .above levels => ⟨.above (levels + 1), []⟩
    | [], .root => place
    | names, origin => ⟨origin, names.dropLast⟩
  else ⟨place.origin, place.names ++ [name]⟩

end Place

/-- What stands at a place. -/
inductive Entry where
  | directory
  | file (bytes : List UInt8)
  deriving DecidableEq, Repr

/-- Why a file or directory cannot be used. -/
inductive FileFault where
  | missing
  | exists
  | notADirectory
  | isADirectory
  | nameTooLong
  | nullInPath
  deriving DecidableEq, Repr

/-- The fault means that nothing stands at the path. -/
def FileFault.isAbsence : FileFault → Bool
  | missing | notADirectory | nullInPath => true
  | _ => false

structure FileError where
  fault : FileFault
  path : Path
  deriving DecidableEq, Repr

/-- The message of a file error. It tells the path, unless the path has a null character. -/
def FileError.message (e : FileError) : String :=
  let numbered (reason : String) : String :=
    "[Errno " ++ reason ++ ": " ++ String.ofList (Text.quoted e.path.toString.toList)
  match e.fault with
  | .missing => numbered "2] No such file or directory"
  | .exists => numbered "17] File exists"
  | .notADirectory => numbered "20] Not a directory"
  | .isADirectory => numbered "21] Is a directory"
  | .nameTooLong => numbered "36] File name too long"
  | .nullInPath => "embedded null byte"

/-- Files and directories by place. The directories above an entry need no entry of their own. -/
structure FileTree where
  entries : Keyed Place Entry := []
  deriving DecidableEq, Repr, Inhabited

namespace FileTree

def entry? (tree : FileTree) (place : Place) : Option Entry :=
  match tree.entries.get? place with
  | some entry => some entry
  | none =>
    if place.names.isEmpty || tree.entries.any fun (other, _) =>
        other.origin = place.origin && place.names.isPrefixOf other.names then
      some .directory
    else none

def walk (tree : FileTree) : Place → List String → Except FileFault Place
  | place, [] => .ok place
  | place, name :: rest =>
    match tree.entry? place with
    | some .directory =>
      if Path.stepLimit < name.utf8ByteSize then .error .nameTooLong
      else walk tree (place.step name) rest
    | some (.file _) => .error .notADirectory
    | none => .error .missing

/-- Follow a path. What is wrong with the path as a whole comes before what is wrong with a step. -/
def follow (tree : FileTree) (p : Path) : Except FileFault Place :=
  if p.hasNull then .error .nullInPath
  else if p.isTooLong then .error .nameTooLong
  else tree.walk (.start p) p.steps

def lookup (tree : FileTree) (p : Path) : Except FileError (Option Entry) :=
  match tree.follow p with
  | .ok place => .ok (tree.entry? place)
  | .error fault => if fault.isAbsence then .ok none else .error ⟨fault, p⟩

def hasDirectory (tree : FileTree) (p : Path) : Bool :=
  tree.lookup p matches .ok (some .directory)

def makeDirectory (tree : FileTree) (p : Path) : Except FileFault FileTree := do
  let place ← tree.follow p
  match tree.entry? place with
  | some _ => throw .exists
  | none => return ⟨Keyed.put place .directory tree.entries⟩

def ensureDirectory (tree : FileTree) (p : Path) : FileTree × Option FileError :=
  match tree.makeDirectory p with
  | .ok tree => (tree, none)
  | .error fault => (tree, if tree.hasDirectory p then none else some ⟨fault, p⟩)

/-- Make the directory of the given steps, the last one first, and those above it, unless they are
there. Those above it stay if it cannot be made. -/
def ensureSteps (root : String) : List String → FileTree → FileTree × Option FileError
  | [], tree => tree.ensureDirectory ⟨root, []⟩
  | step :: above, tree =>
    let p : Path := ⟨root, (step :: above).reverse⟩
    match tree.makeDirectory p with
    | .error .missing =>
      match ensureSteps root above tree with
      | (tree, none) => tree.ensureDirectory p
      | (tree, some cause) => (tree, some cause)
    | _ => tree.ensureDirectory p

def ensureDirectories (tree : FileTree) (p : Path) : FileTree × Option FileError :=
  ensureSteps p.root p.steps.reverse tree

/-- Write a file in a directory that is there. -/
def writeFile (tree : FileTree) (p : Path) (bytes : List UInt8) : Except FileError FileTree := do
  let place ← (tree.follow p).mapError fun fault => ⟨fault, p⟩
  match tree.entry? place with
  | some .directory => throw ⟨.isADirectory, p⟩
  | _ => return ⟨Keyed.put place (.file bytes) tree.entries⟩

example : (lookup {} ⟨"", ["missing", ".."]⟩).toOption = some none := by decide +kernel
example : (lookup {} ⟨"", [String.ofList (List.replicate 256 'n')]⟩).toOption = none := by
  decide +kernel

end FileTree

end ShaderSurface
