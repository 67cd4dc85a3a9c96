import Reckoner.Decimal.Literal
import Reckoner.Json
import Reckoner.Text.Hex

/-!
# The lexemes of a document

A document is cut into brackets, separators, texts, numbers and words. `next_shorter` says that each
cut leaves less text.
-/
namespace Reckoner.Json

open Text

/-- The smallest parts of a document. -/
inductive Lexeme where
  /-- The start of a list. -/
  | openArray
  /-- The end of a list. -/
  | closeArray
  /-- The start of an object. -/
  | openObject
  /-- The end of an object. -/
  | closeObject
  /-- The mark between two items. -/
  | comma
  /-- The mark between a name and its value. -/
  | colon
  /-- A text. -/
  | string (s : List Letter)
  /-- A number. -/
  | numeral (l : Decimal.Literal)
  /-- A word that stands for a value. -/
  | word (value : Json)

namespace Lexeme

/-- Adds the code unit of an escape to the letters so far, last one first; it completes the letter
before it if that is the first half of a pair. -/
def pushUnit (unit : Nat) : List Letter → List Letter
  | .lone high :: found =>
    if 0xD800 ≤ high ∧ high < 0xDC00 ∧ 0xDC00 ≤ unit ∧ unit < 0xE000 then
      .char (Char.ofNat (0x10000 + (high - 0xD800) * 0x400 + (unit - 0xDC00))) :: found
    else if 0xD800 ≤ unit ∧ unit < 0xE000 then .lone unit :: .lone high :: found
    else .char (Char.ofNat unit) :: .lone high :: found
  | found =>
    if 0xD800 ≤ unit ∧ unit < 0xE000 then .lone unit :: found else .char (Char.ofNat unit) :: found

/-- The code unit that four hexadecimal digits denote. -/
def unit? (a b c d : Char) : Option Nat := do
  return (((← hexValue? a) * 16 + (← hexValue? b)) * 16 + (← hexValue? c)) * 16 + (← hexValue? d)

/-- The character that a backslash in front of a character denotes. -/
def escaped? : Char → Option Char
  | '\x22' => some '\x22'
  | '\\' => some '\\'
  | '/' => some '/'
  | 'b' => some '\x08'
  | 'f' => some '\x0C'
  | 'n' => some '\n'
  | 'r' => some '\r'
  | 't' => some '\t'
  | _ => none

/-- Reads a text up to the quotation mark that ends it; `found` holds the letters so far, last one
first. -/
def readString (found : List Letter) : List Char → Option (List Letter × List Char)
  | [] => none
  | '\x22' :: cs => some (found.reverse, cs)
  | '\\' :: 'u' :: a :: b :: c :: d :: cs =>
    match unit? a b c d with
    | some unit => readString (pushUnit unit found) cs
    | none => none
  | '\\' :: c :: cs =>
    match escaped? c with
    | some e => readString (.char e :: found) cs
    | none => none
  | c :: cs => if c < ' ' then none else readString (.char c :: found) cs

/-- The words and the values that they stand for. -/
def words : List (List Char × Json) :=
  [("null".toList, .null), ("true".toList, .bool true), ("false".toList, .bool false),
   ("NaN".toList, .number (.float (0.0 / 0.0))),
   ("Infinity".toList, .number (.float (1.0 / 0.0))),
   ("-Infinity".toList, .number (.float (-1.0 / 0.0)))]

/-- A word or a number at the start of a text, and the rest. -/
def plain? (cs : List Char) : Option (Lexeme × List Char) :=
  match words.find? fun w => w.1.isPrefixOf cs with
  | some w => some (.word w.2, cs.drop w.1.length)
  | none => (Decimal.Literal.split cs).map fun r => (.numeral r.1, r.2)

/-- The lexeme at the start of a text, and the rest. -/
def split? : List Char → Option (Lexeme × List Char)
  | '[' :: cs => some (.openArray, cs)
  | ']' :: cs => some (.closeArray, cs)
  | '{' :: cs => some (.openObject, cs)
  | '}' :: cs => some (.closeObject, cs)
  | ',' :: cs => some (.comma, cs)
  | ':' :: cs => some (.colon, cs)
  | '\x22' :: cs => (readString [] cs).map fun r => (.string r.1, r.2)
  | cs => plain? cs

/-- Whether a character may stand between two lexemes. -/
def isSpace (c : Char) : Bool :=
  c == ' ' || c == '\t' || c == '\n' || c == '\r'

theorem length_dropWhile_le {p : Char → Bool} (cs : List Char) :
    (cs.dropWhile p).length ≤ cs.length :=
  (List.dropWhile_suffix p).length_le

theorem length_dropWhile_lt {p : Char → Bool} {cs : List Char} (h : cs.takeWhile p ≠ []) :
    (cs.dropWhile p).length < cs.length := by
  have parts := congrArg List.length (List.takeWhile_append_dropWhile (p := p) (l := cs))
  have := List.length_pos_iff.2 h
  simp only [List.length_append] at parts
  omega

theorem readString_shorter {found s : List Letter} {cs rest : List Char}
    (h : readString found cs = some (s, rest)) : rest.length < cs.length := by
  fun_induction readString found cs <;> simp_all <;> omega

theorem splitDigits_shorter {cs rest : List Char} {n : Nat}
    (h : Decimal.Literal.splitDigits cs = some (n, rest)) : rest.length ≤ cs.length := by
  unfold Decimal.Literal.splitDigits at h
  split at h
  · simp at h
  · simp only [Option.some.injEq, Prod.mk.injEq] at h
    rw [← h.2]
    exact length_dropWhile_le cs

theorem splitExponent_shorter {cs rest : List Char} {e : Int}
    (h : Decimal.Literal.splitExponent cs = some (e, rest)) : rest.length ≤ cs.length := by
  unfold Decimal.Literal.splitExponent at h
  split at h
  · simp at h
  · split at h
    · split at h <;>
      · simp only [Option.map_eq_some_iff, Prod.mk.injEq, Prod.exists] at h
        obtain ⟨n, r, digits, -, rfl⟩ := h
        have := splitDigits_shorter digits
        simp only [List.length_cons]
        omega
    · simp at h

theorem splitFraction_shorter {cs ds rest : List Char}
    (h : Decimal.Literal.splitFraction cs = some (ds, rest)) : rest.length ≤ cs.length := by
  unfold Decimal.Literal.splitFraction at h
  split at h
  · split at h
    · simp only [Option.some.injEq, Prod.mk.injEq] at h
      rw [← h.2]
      exact Nat.le_trans (length_dropWhile_le _) (by simp only [List.length_cons]; omega)
    · simp at h
  · simp at h

theorem splitWhole_shorter {cs whole rest : List Char}
    (h : Decimal.Literal.splitWhole cs = (whole, rest)) (nonempty : whole ≠ []) :
    rest.length < cs.length := by
  unfold Decimal.Literal.splitWhole at h
  split at h
  · simp only [Prod.mk.injEq] at h
    simp [← h.2]
  · simp only [Prod.mk.injEq] at h
    rw [← h.1] at nonempty
    rw [← h.2]
    exact length_dropWhile_lt nonempty

theorem splitUnsigned_shorter {negative : Bool} {cs rest : List Char} {l : Decimal.Literal}
    (h : Decimal.Literal.splitUnsigned negative cs = some (l, rest)) :
    rest.length < cs.length := by
  unfold Decimal.Literal.splitUnsigned at h
  split at h
  · simp at h
  · rename_i whole afterWhole nonempty whole_eq
    have shorter := splitWhole_shorter whole_eq nonempty
    simp only [Option.some.injEq, Prod.mk.injEq] at h
    rw [← h.2]
    cases fraction : Decimal.Literal.splitFraction afterWhole with
    | none =>
      simp only [Option.map_none, Option.getD_none]
      cases exponent : Decimal.Literal.splitExponent afterWhole with
      | none => simpa using shorter
      | some r => exact Nat.lt_of_le_of_lt (splitExponent_shorter exponent) shorter
    | some r =>
      have := splitFraction_shorter fraction
      simp only [Option.map_some, Option.getD_some]
      cases exponent : Decimal.Literal.splitExponent r.2 with
      | none => exact Nat.lt_of_le_of_lt this shorter
      | some q => exact Nat.lt_of_le_of_lt (Nat.le_trans (splitExponent_shorter exponent) this) shorter

theorem plain_shorter {cs rest : List Char} {l : Lexeme} (h : plain? cs = some (l, rest)) :
    rest.length < cs.length := by
  unfold plain? at h
  split at h
  · rename_i w found
    simp only [Option.some.injEq, Prod.mk.injEq] at h
    have long : ∀ w ∈ words, 0 < w.1.length := by decide
    have := long w (List.mem_of_find?_eq_some found)
    have starts : w.1.isPrefixOf cs = true := by simpa using List.find?_some found
    have leads := (List.isPrefixOf_iff_prefix.1 starts).length_le
    rw [← h.2, List.length_drop]
    omega
  · simp only [Option.map_eq_some_iff, Prod.mk.injEq, Prod.exists] at h
    obtain ⟨l, r, found, -, rfl⟩ := h
    unfold Decimal.Literal.split at found
    split at found
    · exact Nat.lt_succ_of_lt (splitUnsigned_shorter found)
    · exact splitUnsigned_shorter found

theorem split_shorter {cs rest : List Char} {l : Lexeme} (h : split? cs = some (l, rest)) :
    rest.length < cs.length := by
  unfold split? at h
  split at h
  case h_7 =>
    simp only [Option.map_eq_some_iff, Prod.mk.injEq, Prod.exists] at h
    obtain ⟨s, r, found, -, rfl⟩ := h
    exact Nat.lt_succ_of_lt (readString_shorter found)
  case h_8 => exact plain_shorter h
  all_goals
    simp only [Option.some.injEq, Prod.mk.injEq] at h
    simp [← h.2]

end Lexeme
end Reckoner.Json
