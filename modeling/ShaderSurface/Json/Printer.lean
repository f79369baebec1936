import ShaderSurface.Json
import ShaderSurface.Text.Quoted

/-!
# JSON text in ASCII

A value is printed on one line, with a space after each comma and colon, or on several lines, one
item to a line. Characters outside printable ASCII are written as UTF-16 code units, so the text
holds printable ASCII characters and, in the long form, line ends.
-/

namespace ShaderSurface.Json

/-- How arrays and objects are broken over lines: the text inside their brackets and the text
between two items, by depth. -/
structure Style where
  edge : Nat → String
  comma : Nat → String

def oneLine : Style where
  edge _ := ""
  comma _ := ", "

def newLine (depth : Nat) : String :=
  "\n" ++ String.ofList (List.replicate (2 * depth) ' ')

def indented : Style where
  edge := newLine
  comma depth := "," ++ newLine depth

def escapeUnit (unit : Nat) : Text :=
  '\\' :: 'u' :: Text.hex 4 unit

def escape (c : Char) : Text :=
  if c = '"' ∨ c = '\\' then ['\\', c]
  else if c = '\n' then ['\\', 'n']
  else if c = '\r' then ['\\', 'r']
  else if c = '\t' then ['\\', 't']
  else if c.toNat = 0x08 then ['\\', 'b']
  else if c.toNat = 0x0C then ['\\', 'f']
  else if ' ' ≤ c ∧ c ≤ '~' then [c]
  else if c.toNat < 0x10000 then escapeUnit c.toNat
  else
    escapeUnit (0xD800 + (c.toNat - 0x10000) / 0x400) ++
      escapeUnit (0xDC00 + (c.toNat - 0x10000) % 0x400)

def literal (s : String) : String :=
  String.ofList ('"' :: (s.toList.flatMap escape ++ ['"']))

def scalarText : Scalar → String
  | .null => "null"
  | .bool true => "true"
  | .bool false => "false"
  | .int n => toString n
  | .decimal digits => digits
  | .infinite false => "Infinity"
  | .infinite true => "-Infinity"
  | .notANumber => "NaN"
  | .text s => literal s

/-- Printed items between brackets. Empty brackets are not broken. -/
def bracketed (style : Style) (depth : Nat) (opening closing : String)
    (items : List String) : String :=
  if items.isEmpty then opening ++ closing
  else
    opening ++ style.edge (depth + 1) ++ (style.comma (depth + 1)).intercalate items ++
      style.edge depth ++ closing

mutual

def print (style : Style) (depth : Nat) : Json → String
  | scalar value => scalarText value
  | array items => bracketed style depth "[" "]" (printItems style (depth + 1) items)
  | object fields =>
    bracketed style depth "\x7b" "\x7d" (printFields style (depth + 1) fields)

def printItems (style : Style) (depth : Nat) : List Json → List String
  | [] => []
  | item :: items => print style depth item :: printItems style depth items

def printFields (style : Style) (depth : Nat) : List (String × Json) → List String
  | [] => []
  | (key, value) :: fields =>
    (literal key ++ ": " ++ print style depth value) :: printFields style depth fields

end

def render (style : Style) (value : Json) : String :=
  value.print style 0

/-- The text of a value in a style, unless one of its integers has no decimal numeral. -/
def render? (style : Style) (value : Json) : Option String :=
  if value.isWritable then some (value.render style) else none

example : (object [("a", array [int 1, null]), ("b", array [])]).render oneLine =
    "\x7b\"a\": [1, null], \"b\": []\x7d" := by decide +kernel

example : (array [text "é😀"]).render indented = "[\n  \"\\u00e9\\ud83d\\ude00\"\n]" := by
  decide +kernel

end ShaderSurface.Json
