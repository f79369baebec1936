import ShaderSurface.Text.Printable

/-!
# Quoted text

A quoted text shows a text on one line between quotes: single quotes, or double quotes where the
text holds a single quote and no double one. The quote in use and the backslash are written after a
backslash, and a character that does not show is written as its code.
-/

namespace ShaderSurface.Text

/-- The last `width` hexadecimal digits of a number, in lower case. -/
def hex : (width : Nat) → Nat → Text
  | 0, _ => []
  | width + 1, n => hex width (n / 16) ++ [Nat.digitChar (n % 16)]

def quoteFor (s : Text) : Char :=
  if '\'' ∈ s ∧ '"' ∉ s then '"' else '\''

/-- How a character is written between quotes. -/
def escapeIn (quote c : Char) : Text :=
  if c = quote ∨ c = '\\' then ['\\', c]
  else if c = '\n' then ['\\', 'n']
  else if c = '\r' then ['\\', 'r']
  else if c = '\t' then ['\\', 't']
  else if isPrintable c then [c]
  else if c.toNat < 0x100 then '\\' :: 'x' :: hex 2 c.toNat
  else if c.toNat < 0x10000 then '\\' :: 'u' :: hex 4 c.toNat
  else '\\' :: 'U' :: hex 8 c.toNat

def quoted (s : Text) : Text :=
  let quote := quoteFor s
  quote :: (s.flatMap (escapeIn quote) ++ [quote])

example : quoted "it's".toList = "\"it's\"".toList := by decide +kernel
example : quoted "it's \"x\"".toList = "'it\\'s \"x\"'".toList := by decide +kernel
example : quoted "a\tb\\".toList = "'a\\tb\\\\'".toList := by decide +kernel

end ShaderSurface.Text
