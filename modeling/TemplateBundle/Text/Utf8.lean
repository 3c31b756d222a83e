/-!
Contract: bytes read as UTF-8 text.

Owns: strict reading, and reading in which each longest beginning of a character that
breaks off becomes one replacement character.
-/

namespace TemplateBundle.Text

/-- The text of a sequence of bytes, if they are well-formed UTF-8. -/
def decodeUtf8? (bytes : ByteArray) : Option String := String.fromUTF8? bytes

/-- A character that has begun: how many bytes it still needs, the bounds of the next
one, and the bits read so far. -/
structure PendingCharacter where
  owed : Nat
  least : Nat
  greatest : Nat
  bits : Nat

/-- What the first byte of a character announces. -/
def PendingCharacter.ofFirst? (byte : Nat) : Option PendingCharacter :=
  if 0xC2 ≤ byte ∧ byte ≤ 0xDF then some ⟨1, 0x80, 0xBF, byte - 0xC0⟩
  else if byte = 0xE0 then some ⟨2, 0xA0, 0xBF, 0⟩
  else if byte = 0xED then some ⟨2, 0x80, 0x9F, 0xD⟩
  else if 0xE1 ≤ byte ∧ byte ≤ 0xEF then some ⟨2, 0x80, 0xBF, byte - 0xE0⟩
  else if byte = 0xF0 then some ⟨3, 0x90, 0xBF, 0⟩
  else if 0xF1 ≤ byte ∧ byte ≤ 0xF3 then some ⟨3, 0x80, 0xBF, byte - 0xF0⟩
  else if byte = 0xF4 then some ⟨3, 0x80, 0x8F, 4⟩
  else none

/-- The character that stands for bytes that are none. -/
def replacementCharacter : Char := '\ufffd'

/-- A byte at the start of a character: the characters it completes, and what it begins. -/
def decodeFirst (byte : Nat) : List Char × Option PendingCharacter :=
  if byte < 0x80 then ([Char.ofNat byte], none)
  else
    match PendingCharacter.ofFirst? byte with
    | some pending => ([], some pending)
    | none => ([replacementCharacter], none)

/-- The characters of a byte sequence, with replacements for what is no character. -/
def decodeReplacing : Option PendingCharacter → List UInt8 → List Char
  | none, [] => []
  | some _, [] => [replacementCharacter]
  | none, byte :: rest =>
      let (characters, pending) := decodeFirst byte.toNat
      characters ++ decodeReplacing pending rest
  | some pending, byte :: rest =>
      if pending.least ≤ byte.toNat ∧ byte.toNat ≤ pending.greatest then
        let bits := pending.bits * 64 + byte.toNat % 64
        if pending.owed = 1 then Char.ofNat bits :: decodeReplacing none rest
        else decodeReplacing (some ⟨pending.owed - 1, 0x80, 0xBF, bits⟩) rest
      else
        let (characters, next) := decodeFirst byte.toNat
        replacementCharacter :: characters ++ decodeReplacing next rest

/-- The text of any byte sequence. -/
def decodeUtf8Replacing (bytes : ByteArray) : String :=
  String.ofList (decodeReplacing none bytes.toList)

end TemplateBundle.Text
