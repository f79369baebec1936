import ShaderSurface.Command.Switch
import ShaderSurface.Text.Digit
import ShaderSurface.Text.Quoted

/-!
# Reading the command line

Each argument is first classified on its own: it is a word, the separator after which all arguments
are words, or a switch. A long switch may be cut short as long as it can be told from the others,
and letters of several short switches may follow one dash. The first words that stand together name
the two shaders; words after them, and switches that are not known, are not recognized.
-/

namespace ShaderSurface

/-- What an argument is. Text may be attached to a switch, after an equals sign or after the letter.
-/
inductive ArgumentKind where
  | word
  | separator
  | switch (s : Switch) (isShort : Bool) (attached : Option Text)
  | unknown
  deriving DecidableEq, Repr

/-- What the arguments say, one thing after another. -/
inductive ArgumentItem where
  | word (s : String)
  | separator
  | switch (s : Switch) (value : Option String)
  | unknown (s : String)
  | misuse (message : String)
  deriving DecidableEq, Repr

/-- What to work on and how. -/
structure Options where
  vertex : Option String := none
  fragment : Option String := none
  dump : Bool := false
  reflect : Bool := false
  outputDirectory : Option String := none
  deriving DecidableEq, Repr

/-- What the command line asks for. -/
inductive Request where
  | help
  | version
  | misuse (message : String)
  | work (options : Options)
  deriving DecidableEq, Repr

namespace ArgumentKind

/-- The text looks like a negative number, which a line end may follow. -/
def isNegativeNumber (arg : Text) : Bool :=
  let isDigits (s : Text) := !s.isEmpty && s.all fun c => (Text.decimalValue? c).isSome
  match arg with
  | '-' :: rest =>
    let body := if rest.getLast? = some '\n' then rest.dropLast else rest
    match body.splitOn '.' with
    | [whole] => isDigits whole
    | [whole, fraction] => (whole.isEmpty || isDigits whole) && isDigits fraction
    | _ => false
  | _ => false

def splitEquals (arg : Text) : Text × Option Text :=
  match arg.cut? ['='] with
  | some (name, value) => (name, some value)
  | none => (arg, none)

/-- The switches that an argument with a dash may stand for without spelling one out. -/
def candidates (arg : Text) : List (Text × ArgumentKind) :=
  let (name, value) := splitEquals arg
  if ['-', '-'].isPrefixOf arg then
    (Switch.spelled.filter fun (spelling, _) => name.isPrefixOf spelling).map fun (spelling, s) =>
      (spelling, switch s false value)
  else
    (Switch.spelled.filter fun (spelling, _) => spelling = arg.take 2).map fun (spelling, s) =>
      (spelling, switch s true (some (arg.drop 2)))

def isShort (spelling : Text) : Bool :=
  spelling.take 2 ≠ ['-', '-']

def ofDashed (arg : Text) : Except String ArgumentKind :=
  let (name, value) := splitEquals arg
  match Switch.ofSpelling? arg, Switch.ofSpelling? name, value with
  | some s, _, _ => .ok (switch s (isShort arg) none)
  | none, some s, some value => .ok (switch s (isShort name) (some value))
  | none, _, _ =>
    match candidates arg with
    | [] => .ok (if isNegativeNumber arg || arg.contains ' ' then word else unknown)
    | [(_, kind)] => .ok kind
    | several =>
      .error ("ambiguous option: " ++ String.ofList arg ++ " could match " ++
        ", ".intercalate (several.map fun (spelling, _) => String.ofList spelling))

def ofArgument (arg : Text) : Except String ArgumentKind :=
  match arg with
  | '-' :: _ :: _ => ofDashed arg
  | _ => .ok word

def ofArguments : List String → Except String (List (String × ArgumentKind))
  | [] => .ok []
  | arg :: rest =>
    if arg = "--" then .ok ((arg, separator) :: rest.map (·, word))
    else do
      let kind ← ofArgument arg.toList
      return (arg, kind) :: (← ofArguments rest)

end ArgumentKind

namespace ArgumentItem

def valueIgnored (s : Switch) (value : Text) : String :=
  "argument " ++ s.title ++ ": ignored explicit argument " ++ String.ofList (Text.quoted value)

def valueExpected (s : Switch) : String :=
  "argument " ++ s.title ++ ": expected one argument"

/-- The value that attached text gives. Text that is spelled like the separator gives none. -/
def attachedValue (attached : Text) : Option String :=
  if attached = ['-', '-'] then none else some (String.ofList attached)

/-- The items of a switch with attached text, and the last switch if it has no text attached. Text
attached to a short switch without a value holds the letters of more short switches; it does not
matter whether an equals sign came before it. -/
def ofAttached (isShort : Bool) :
    Switch → (attached : Text) → Except String (List ArgumentItem × Option Switch)
  | s, [] =>
    if s.takesValue then .ok ([switch s (attachedValue [])], none)
    else .error (valueIgnored s [])
  | s, c :: rest =>
    if s.takesValue then .ok ([switch s (attachedValue (c :: rest))], none)
    else
      match isShort, Switch.ofSpelling? ['-', c], rest with
      | true, some next, [] => .ok ([switch s none], some next)
      | true, some next, rest =>
        (ofAttached isShort next rest).map fun (items, last) => (switch s none :: items, last)
      | _, _, _ => .error (valueIgnored s (c :: rest))

example : ofAttached true .verbose ['h'] = .ok ([switch .verbose none], some .help) := rfl
example : ofAttached true .verbose ['o', '=', 'q'] =
    .ok ([switch .verbose none, switch .outputDirectory (some "=q")], none) := rfl
example : ofAttached true .verbose ['h', 'x'] = .error (valueIgnored .help ['x']) := rfl

def ofSwitch (s : Switch) (isShort : Bool) :
    (attached : Option Text) → Except String (List ArgumentItem × Option Switch)
  | none => .ok ([], some s)
  | some attached => ofAttached isShort s attached

/-- The items of classified arguments. A switch that takes a value and has none attached takes the
next argument, which must be a word. -/
def ofKinds : List (String × ArgumentKind) → List ArgumentItem
  | [] => []
  | (arg, .word) :: rest => word arg :: ofKinds rest
  | (_, .separator) :: rest => separator :: ofKinds rest
  | (arg, .unknown) :: rest => unknown arg :: ofKinds rest
  | (_, .switch s isShort attached) :: rest =>
    match ofSwitch s isShort attached with
    | .error message => misuse message :: ofKinds rest
    | .ok (items, none) => items ++ ofKinds rest
    | .ok (items, some last) =>
      if last.takesValue then
        match rest with
        | (value, .word) :: rest => items ++ switch last (some value) :: ofKinds rest
        | rest => misuse (valueExpected last) :: ofKinds rest
      else items ++ switch last none :: ofKinds rest

def isSeparator : ArgumentItem → Bool
  | separator => true
  | _ => false

def isPlain : ArgumentItem → Bool
  | word _ | separator => true
  | _ => false

def directory? : ArgumentItem → Option (Option String)
  | switch .outputDirectory value => some value
  | _ => none

def unrecognized? : ArgumentItem → Option String
  | word s | unknown s => some s
  | separator => some "--"
  | _ => none

def request? : ArgumentItem → Option Request
  | switch .help _ => some .help
  | switch .version _ => some .version
  | misuse message => some (.misuse message)
  | _ => none

/-- The first word at the start of the items, with the separators around it, and the items after it.
One separator, or a word that is spelled like one, does not count. -/
def takeWord (items : List ArgumentItem) : Option String × List ArgumentItem :=
  let separators := (items.takeWhile isSeparator).filterMap unrecognized?
  let value (group : List String) := (group.erase "--").head?
  match items.dropWhile isSeparator with
  | word s :: rest =>
    (value (separators ++ [s] ++ (rest.takeWhile isSeparator).filterMap unrecognized?),
      rest.dropWhile isSeparator)
  | rest => (value separators, rest)

end ArgumentItem

namespace Request

def ofItems (items : List ArgumentItem) : Request :=
  let (vertex, rest) := ArgumentItem.takeWord (items.dropWhile (!·.isPlain))
  let (fragment, rest) := ArgumentItem.takeWord rest
  let others := items.takeWhile (!·.isPlain) ++ rest
  match others.findSome? ArgumentItem.request? with
  | some request => request
  | none =>
    match others.filterMap ArgumentItem.unrecognized? with
    | [] =>
      work {
        vertex, fragment
        dump := others.contains (.switch .dump none)
        reflect := others.contains (.switch .reflect none)
        outputDirectory := (others.filterMap ArgumentItem.directory?).getLast?.join }
    | unrecognized => misuse ("unrecognized arguments: " ++ " ".intercalate unrecognized)

def ofArguments (args : List String) : Request :=
  match ArgumentKind.ofArguments args with
  | .ok kinds => ofItems (ArgumentItem.ofKinds kinds)
  | .error message => misuse message

end Request

end ShaderSurface
