import Reckoner.Proofs.Lexing
import Reckoner.Text.Hex

/-!
# Texts of one line

A text of printable characters is shown on one line, wherever lines are taken to end. Numerals, names
and the other symbols of expressions are written with such characters only.
-/
namespace Reckoner

open Text

/-- Printable characters of ASCII only, so that no line ends among them. -/
def Text.OneLine (cs : List Char) : Prop :=
  ∀ c ∈ cs, ' ' ≤ c ∧ c ≤ '~'

namespace Text.OneLine

variable {cs ds : List Char}

theorem append (h : OneLine cs) (h' : OneLine ds) : OneLine (cs ++ ds) :=
  List.forall_mem_append.mpr ⟨h, h'⟩

theorem cons {c : Char} (hc : ' ' ≤ c ∧ c ≤ '~') (h : OneLine cs) : OneLine (c :: cs) :=
  List.forall_mem_cons.mpr ⟨hc, h⟩

/-- Words are written on one line. -/
theorem of_isNamePart (h : ∀ c ∈ cs, Lexeme.isNamePart c = true) : OneLine cs := by
  intro c hc
  have hrange := Lexeme.toNat_of_isNamePart (h c hc)
  have hlow : ' '.toNat ≤ c.toNat := Nat.le_trans (by decide : ' '.toNat ≤ 48) (by omega)
  have hhigh : c.toNat ≤ '~'.toNat := Nat.le_trans (by omega) (by decide : 122 ≤ '~'.toNat)
  exact ⟨Char.le_def.mpr (UInt32.le_iff_toNat_le.mpr hlow),
    Char.le_def.mpr (UInt32.le_iff_toNat_le.mpr hhigh)⟩

theorem of_digits (h : ∀ c ∈ cs, c.isDigit = true) : OneLine cs :=
  of_isNamePart fun c hc => Lexeme.isNamePart_of_isDigit (h c hc)

theorem hexDigits (width n : Nat) : OneLine (Text.hexDigits width n) := by
  induction width generalizing n with
  | zero => exact nofun
  | succ width ih =>
    have hdigits : ∀ d < 16, ' ' ≤ Nat.digitChar d ∧ Nat.digitChar d ≤ '~' := by decide
    exact (ih _).append (.cons (hdigits _ (Nat.mod_lt n (by decide))) nofun)

/-- No line break is a printable character. -/
theorem not_mem_newline (h : OneLine cs) : '\n' ∉ cs :=
  fun hmem => absurd (h _ hmem).1 (by decide)

end Text.OneLine

theorem Numeral.oneLine_writeInt (n : Int) : OneLine (Numeral.writeInt n).toList := by
  have hdigits : OneLine (Numeral.digits n.natAbs) := .of_digits fun _ => isDigit_of_mem_digits
  rw [toList_writeInt]
  split
  · exact hdigits.cons (by decide)
  · exact hdigits

/-- A symbol is written on one line, whatever the text that it has been read from. -/
theorem Symbol.oneLine_text {s : Symbol} (proper : s.Proper) : OneLine s.text.toList := by
  cases s with
  | integer n => exact Numeral.oneLine_writeInt n
  | identifier name => exact .of_isNamePart (isNamePart_of_isName proper)
  | _ => simp [OneLine, text]

end Reckoner
