/-!
# Lossy decoding of bytes

Bytes are read as UTF-8 by a machine that takes one byte at a time.  Each longest piece
of an ill-formed sequence that could still have begun a character is replaced by one
replacement character, and so is every byte that cannot begin one.
-/

namespace NodeGraph

namespace Text

/-- A character that has been begun: how many bytes it still needs, the bounds of the
next one, and the bits read so far. -/
structure PendingChar where
  needed : Nat
  low : Nat
  high : Nat
  bits : Nat
  deriving DecidableEq, Repr

/-- What a byte means that does not continue a character. -/
inductive ByteStart where
  | ascii (byte : Nat)
  | lead (pending : PendingChar)
  | illFormed
  deriving DecidableEq, Repr

/-- Read a byte at the start of a character.  The bounds of the second byte exclude
overlong forms, surrogates and codes above the last plane. -/
def startByte (byte : Nat) : ByteStart :=
  if byte < 0x80 then .ascii byte
  else if 0xC2 ≤ byte ∧ byte ≤ 0xDF then .lead ⟨1, 0x80, 0xBF, byte - 0xC0⟩
  else if byte = 0xE0 then .lead ⟨2, 0xA0, 0xBF, 0⟩
  else if byte = 0xED then .lead ⟨2, 0x80, 0x9F, 0xD⟩
  else if 0xE1 ≤ byte ∧ byte ≤ 0xEF then .lead ⟨2, 0x80, 0xBF, byte - 0xE0⟩
  else if byte = 0xF0 then .lead ⟨3, 0x90, 0xBF, 0⟩
  else if 0xF1 ≤ byte ∧ byte ≤ 0xF3 then .lead ⟨3, 0x80, 0xBF, byte - 0xF0⟩
  else if byte = 0xF4 then .lead ⟨3, 0x80, 0x8F, 4⟩
  else .illFormed

/-- The character that stands for ill-formed bytes. -/
def replacement : Char := '\uFFFD'

def decodeFrom (pending : Option PendingChar) : List UInt8 → List Char
  | [] => match pending with
      | none => []
      | some _ => [replacement]
  | byte :: rest =>
      let begin (before : List Char) : List Char :=
        match startByte byte.toNat with
        | .ascii code => before ++ Char.ofNat code :: decodeFrom none rest
        | .lead next => before ++ decodeFrom (some next) rest
        | .illFormed => before ++ replacement :: decodeFrom none rest
      match pending with
      | none => begin []
      | some found =>
          if found.low ≤ byte.toNat ∧ byte.toNat ≤ found.high then
            let bits := found.bits * 64 + (byte.toNat - 0x80)
            if found.needed ≤ 1 then Char.ofNat bits :: decodeFrom none rest
            else decodeFrom (some ⟨found.needed - 1, 0x80, 0xBF, bits⟩) rest
          else begin [replacement]

/-- The text of some bytes, with replacement characters for what is not UTF-8. -/
def decodeLossy (bytes : List UInt8) : String := String.ofList (decodeFrom none bytes)

def utf8Bytes (text : String) : List UInt8 := text.toUTF8.toList

end Text

end NodeGraph
