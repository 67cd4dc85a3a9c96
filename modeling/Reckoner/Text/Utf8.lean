import Reckoner.Text.Hex

/-!
# UTF-8

A file is read as UTF-8. The first byte of a character tells how many bytes follow and in which range
the next one lies; a sequence that cannot be continued is refused together with its place.
-/
namespace Reckoner.Utf8

/-- What is wrong with a sequence of bytes. -/
inductive Defect where
  /-- No character starts with the byte. -/
  | start
  /-- The byte after these cannot follow them. -/
  | continuation
  /-- The bytes end within a character. -/
  | truncated
  deriving DecidableEq, Repr

/-- What is wrong, in words. -/
def Defect.text : Defect → String
  | .start => "invalid start byte"
  | .continuation => "invalid continuation byte"
  | .truncated => "unexpected end of data"

/-- Bytes that are no character. -/
structure Fault where
  /-- What is wrong with them. -/
  defect : Defect
  /-- The place of the first of them. -/
  position : Nat
  /-- The first of them. -/
  first : UInt8
  /-- How many there are. -/
  count : Nat
  deriving DecidableEq, Repr

/-- How bytes that are no character are reported. -/
def Fault.message (f : Fault) : String :=
  let place :=
    if f.count = 1 then
      "byte 0x" ++ String.ofList (Text.hexDigits 2 f.first.toNat) ++ " in position " ++
        toString f.position
    else
      "bytes in position " ++ toString f.position ++ "-" ++ toString (f.position + f.count - 1)
  "'utf-8' codec can't decode " ++ place ++ ": " ++ f.defect.text

/-- What the first byte of a character says about the bytes after it. -/
structure Lead where
  /-- How many bytes follow. -/
  tails : Nat
  /-- The least byte that may come next. -/
  low : Nat
  /-- The greatest byte that may come next. -/
  high : Nat
  /-- The bits of the code point so far. -/
  bits : Nat

/-- The meaning of a first byte. -/
def lead? (b : Nat) : Option Lead :=
  if b < 0x80 then some ⟨0, 0x80, 0xBF, b⟩
  else if b < 0xC2 then none
  else if b < 0xE0 then some ⟨1, 0x80, 0xBF, b % 0x20⟩
  else if b = 0xE0 then some ⟨2, 0xA0, 0xBF, b % 0x10⟩
  else if b = 0xED then some ⟨2, 0x80, 0x9F, b % 0x10⟩
  else if b < 0xF0 then some ⟨2, 0x80, 0xBF, b % 0x10⟩
  else if b = 0xF0 then some ⟨3, 0x90, 0xBF, b % 0x08⟩
  else if b < 0xF4 then some ⟨3, 0x80, 0xBF, b % 0x08⟩
  else if b = 0xF4 then some ⟨3, 0x80, 0x8F, b % 0x08⟩
  else none

/-- Decodes bytes from a place on; `owed` is what the character at hand still lacks, and `seen` its
first byte and the number of its bytes so far. -/
def decodeFrom (position : Nat) (owed : Lead) (seen : UInt8 × Nat) (found : List Char) :
    List UInt8 → Except Fault (List Char)
  | [] =>
    if owed.tails = 0 then .ok found.reverse
    else .error ⟨.truncated, position - seen.2, seen.1, seen.2⟩
  | b :: bytes =>
    if owed.tails = 0 then
      match lead? b.toNat with
      | none => .error ⟨.start, position, b, 1⟩
      | some lead =>
        decodeFrom (position + 1) lead (b, 1)
          (if lead.tails = 0 then Char.ofNat lead.bits :: found else found) bytes
    else if owed.low ≤ b.toNat ∧ b.toNat ≤ owed.high then
      let bits := owed.bits * 0x40 + b.toNat % 0x40
      decodeFrom (position + 1) ⟨owed.tails - 1, 0x80, 0xBF, bits⟩ (seen.1, seen.2 + 1)
        (if owed.tails = 1 then Char.ofNat bits :: found else found) bytes
    else .error ⟨.continuation, position - seen.2, seen.1, seen.2⟩

/-- The characters that bytes spell. -/
def decode (bytes : List UInt8) : Except Fault (List Char) :=
  decodeFrom 0 ⟨0, 0x80, 0xBF, 0⟩ (0, 0) [] bytes

end Reckoner.Utf8
