import ShaderSurface.Text.Quoted

/-!
# Decoding UTF-8

Bytes are decoded strictly: overlong forms, surrogates and code points out of range are refused. An
error tells which bytes are at fault, from the first byte of the character up to, and without, the
byte that does not continue it.
-/

namespace ShaderSurface

namespace Utf8

/-- What is wrong with the bytes of a character. -/
inductive Fault where
  | invalidStart
  | invalidContinuation
  | unexpectedEnd
  deriving DecidableEq, Repr

structure DecodeError where
  fault : Fault
  start : Nat
  bytes : List UInt8
  deriving DecidableEq, Repr

def DecodeError.message (e : DecodeError) : String :=
  let place :=
    match e.bytes with
    | [byte] =>
      "byte 0x" ++ String.ofList (Text.hex 2 byte.toNat) ++ " in position " ++ toString e.start
    | bytes =>
      "bytes in position " ++ toString e.start ++ "-" ++ toString (e.start + bytes.length - 1)
  let reason :=
    match e.fault with
    | .invalidStart => "invalid start byte"
    | .invalidContinuation => "invalid continuation byte"
    | .unexpectedEnd => "unexpected end of data"
  "'utf-8' codec can't decode " ++ place ++ ": " ++ reason

/-- What a first byte says of the bytes after it: their number, the range of the next of them, and
the bits that the first byte gives. -/
structure Lead where
  continuations : Nat
  low : Nat
  high : Nat
  bits : Nat

def lead? (byte : UInt8) : Option Lead :=
  let b := byte.toNat
  if b < 0x80 then some ⟨0, 0, 0, b⟩
  else if b < 0xC2 then none
  else if b < 0xE0 then some ⟨1, 0x80, 0xBF, b - 0xC0⟩
  else if b < 0xF0 then
    some ⟨2, if b = 0xE0 then 0xA0 else 0x80, if b = 0xED then 0x9F else 0xBF, b - 0xE0⟩
  else if b < 0xF5 then
    some ⟨3, if b = 0xF0 then 0x90 else 0x80, if b = 0xF4 then 0x8F else 0xBF, b - 0xF0⟩
  else none

/-- Where decoding stands inside a character: its first bytes, in order, and what must follow. -/
structure Unfinished where
  start : Nat
  bytes : List UInt8
  lead : Lead

/-- Decode bytes from a position on, perhaps inside a character. -/
def decodeFrom : (position : Nat) → Option Unfinished → List UInt8 → Except DecodeError Text
  | _, none, [] => .ok []
  | _, some character, [] => .error ⟨.unexpectedEnd, character.start, character.bytes⟩
  | position, none, byte :: rest =>
    match lead? byte with
    | none => .error ⟨.invalidStart, position, [byte]⟩
    | some ⟨0, _, _, bits⟩ => (decodeFrom (position + 1) none rest).map (Char.ofNat bits :: ·)
    | some lead => decodeFrom (position + 1) (some ⟨position, [byte], lead⟩) rest
  | position, some ⟨start, bytes, ⟨continuations, low, high, bits⟩⟩, byte :: rest =>
    if low ≤ byte.toNat ∧ byte.toNat ≤ high then
      let bits := bits * 0x40 + (byte.toNat - 0x80)
      if continuations ≤ 1 then
        (decodeFrom (position + 1) none rest).map (Char.ofNat bits :: ·)
      else
        decodeFrom (position + 1)
          (some ⟨start, bytes ++ [byte], ⟨continuations - 1, 0x80, 0xBF, bits⟩⟩) rest
    else .error ⟨.invalidContinuation, start, bytes⟩

def decode (bytes : List UInt8) : Except DecodeError Text :=
  decodeFrom 0 none bytes

example : (decode [0x61, 0xC3, 0xA9, 0xF0, 0x9F, 0x98, 0x80]).toOption = some "aé😀".toList := by
  decide +kernel
example : decode [0x61, 0xE2, 0x82] = .error ⟨.unexpectedEnd, 1, [0xE2, 0x82]⟩ := rfl
example : decode [0xED, 0xA0, 0x80] = .error ⟨.invalidContinuation, 0, [0xED]⟩ := rfl

end Utf8

namespace Text

def normalizeLineEnds : Text → Text
  | [] => []
  | '\r' :: '\n' :: rest => '\n' :: normalizeLineEnds rest
  | '\r' :: rest => '\n' :: normalizeLineEnds rest
  | c :: rest => c :: normalizeLineEnds rest

end Text

end ShaderSurface
