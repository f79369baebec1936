import ShaderSurface.Command.Plan

/-!
# Running a command on a file tree

Running a command carries out its plan. The directory of a reflection is made first; a reflection
that has no text, or that cannot be written, leaves all files as they were. What was written is
announced only after that, so a console that cannot show the announcement turns the run into a
failure when the file is already there.
-/

namespace ShaderSurface

/-- Standard output, as far as files depend on it: the message with which it refuses to announce a
file that is there already. What else is printed is that of a run that writes no file, or goes to
standard error, which shows every text. -/
structure Console where
  refusal? : String → Option String

def Console.unicode : Console where
  refusal? _ := none

namespace Emission

def path (e : Emission) : Path := e.directory.child e.name

def announcement (e : Emission) : String := "Wrote " ++ e.path.toString

/-- The report of an emission that was written. If the announcement is refused, that is the error,
and there are no warnings. -/
def report (console : Console) (e : Emission) : Report :=
  match console.refusal? e.announcement with
  | some message => .ofError message
  | none => {
      output := e.announcement ++ "\n"
      errors := String.join (e.warnings.map fun warning => "  Warning: " ++ warning ++ "\n") }

def perform (console : Console) (e : Emission) (tree : FileTree) : Report × FileTree :=
  match tree.ensureDirectories e.directory with
  | (prepared, some cause) => (.ofError cause.message, prepared)
  | (prepared, none) =>
    match e.reflection.text with
    | .error cause => (.ofError cause.message, prepared)
    | .ok text =>
      match prepared.writeFile e.path text.toUTF8.data.toList with
      | .error cause => (.ofError cause.message, prepared)
      | .ok written => (e.report console, written)

end Emission

def Console.run (console : Console) (args : List String) (tree : FileTree) : Report × FileTree :=
  match Plan.ofArguments tree.lookup args with
  | .report r => (r, tree)
  | .emit e => e.perform console tree

/-- Run the command where every text can be shown. -/
def runCommand (args : List String) (tree : FileTree) : Report × FileTree :=
  Console.unicode.run args tree

end ShaderSurface
