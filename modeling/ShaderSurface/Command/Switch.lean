import ShaderSurface.Text.Basic

/-!
# Switches of the command line

A switch is spelled with one dash and a letter, or with two dashes and a word. One of the switches
takes a value.
-/

namespace ShaderSurface

/-- A switch of the command line. -/
inductive Switch where
  | help
  | dump
  | reflect
  | outputDirectory
  | verbose
  | version
  deriving DecidableEq, Repr

namespace Switch

/-- The switches, in the order in which they are offered. -/
def all : List Switch := [help, dump, reflect, outputDirectory, verbose, version]

def spellings : Switch → List String
  | help => ["-h", "--help"]
  | dump => ["--dump"]
  | reflect => ["--reflect"]
  | outputDirectory => ["-o", "--output-dir"]
  | verbose => ["-v", "--verbose"]
  | version => ["--version"]

def takesValue : Switch → Bool
  | outputDirectory => true
  | _ => false

def title (s : Switch) : String := "/".intercalate s.spellings

def spelled : List (Text × Switch) :=
  all.flatMap fun s => s.spellings.map fun spelling => (spelling.toList, s)

def ofSpelling? (spelling : Text) : Option Switch :=
  (spelled.find? (·.1 = spelling)).map (·.2)

def program : String := "glslvars"

def usage : String :=
  "usage: " ++ program ++ " [-h] [--dump] [--reflect] [-o OUTPUT_DIR] [-v] [--version]\n" ++
    "                [vertex] [fragment]\n"

def helpText : String :=
  usage ++ "\n" ++
    "List the uniforms, inputs, outputs, blocks and structs of GLSL shaders\n" ++
    "\n" ++
    "positional arguments:\n" ++
    "  vertex                Vertex shader (or any single shader) file\n" ++
    "  fragment              Fragment shader file\n" ++
    "\n" ++
    "options:\n" ++
    "  -h, --help            show this help message and exit\n" ++
    "  --dump                Print the parsed declarations as JSON and exit\n" ++
    "  --reflect             Write <vertex stem>.json reflection for the\n" ++
    "                        vertex+fragment program\n" ++
    "  -o OUTPUT_DIR, --output-dir OUTPUT_DIR\n" ++
    "                        Output directory (default: same as the vertex file)\n" ++
    "  -v, --verbose         Log parser progress to stderr\n" ++
    "  --version             show program's version number and exit\n"

def versionText : String := program ++ " 0.1.0\n"

end Switch

end ShaderSurface
