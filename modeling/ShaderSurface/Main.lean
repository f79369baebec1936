import ShaderSurface.Command.Run

/-!
# The command

The files that the arguments name are looked up, the command is planned, and the plan is carried out
on the file system, in the way in which it is carried out on a file tree.
-/

namespace ShaderSurface

namespace FileSystem

def faultOf : IO.Error → FileFault
  | .alreadyExists .. => .exists
  | .noFileOrDirectory .. | .noSuchThing .. => .missing
  | .inappropriateType _ 21 _ => .isADirectory
  | .invalidArgument .. => .nameTooLong
  | _ => .notADirectory

def lookup (path : Path) : IO (Except FileError (Option Entry)) := do
  try
    let bytes ← IO.FS.readBinFile path.toString
    return .ok (some (.file bytes.data.toList))
  catch cause =>
    match faultOf cause with
    | .isADirectory => return .ok (some .directory)
    | fault => return if fault.isAbsence then .ok none else .error ⟨fault, path⟩

def hasDirectory (path : Path) : IO Bool := do
  match ← lookup path with
  | .ok (some .directory) => return true
  | _ => return false

/-- Use a path; an error of the file system is one of the path. -/
def usePath (path : Path) (action : IO Unit) : ExceptT FileError IO Unit :=
  ExceptT.mk do
    try
      action
      return .ok ()
    catch cause => return .error ⟨faultOf cause, path⟩

def ensureDirectory (path : Path) : ExceptT FileError IO Unit := do
  try usePath path (IO.FS.createDir path.toString)
  catch cause =>
    unless ← hasDirectory path do throw cause

def ensureSteps (root : String) : List String → ExceptT FileError IO Unit
  | [] => ensureDirectory ⟨root, []⟩
  | step :: above => do
    let path : Path := ⟨root, (step :: above).reverse⟩
    try ensureDirectory path
    catch cause =>
      if cause.fault = .missing then
        ensureSteps root above
        ensureDirectory path
      else throw cause

end FileSystem

open FileSystem

/-- Print a report; the result is the exit code. -/
def printReport (r : Report) : IO UInt32 := do
  IO.print r.output
  IO.eprint r.errors
  match r.failure with
  | none => return r.exitCode.toUInt32
  | some failure =>
    IO.eprintln failure.message
    return 1

/-- Print a line; the result is the message of the error if that fails. -/
def refusalOf (line : String) : IO (Option String) := do
  try
    IO.println line
    (← IO.getStdout).flush
    return none
  catch cause => return some cause.toString

def performEmission (e : Emission) : IO UInt32 := do
  match ← (ensureSteps e.directory.root e.directory.steps.reverse).run with
  | .error cause => printReport (.ofError cause.message)
  | .ok () =>
    match e.reflection.text with
    | .error cause => printReport (.ofError cause.message)
    | .ok text =>
      match ← (usePath e.path (IO.FS.writeFile e.path.toString text)).run with
      | .error cause => printReport (.ofError cause.message)
      | .ok () =>
        let refusal ← refusalOf e.announcement
        printReport { e.report ⟨fun _ => refusal⟩ with output := "" }

end ShaderSurface

open ShaderSurface in
def main (args : List String) : IO UInt32 := do
  let paths := match Request.ofArguments args with
    | .work options => Plan.paths options
    | _ => []
  let found ← paths.mapM fun path => return (path, ← FileSystem.lookup path)
  match Plan.ofArguments (fun path => (found.lookup path).getD (.ok none)) args with
  | .report r => printReport r
  | .emit e => performEmission e
