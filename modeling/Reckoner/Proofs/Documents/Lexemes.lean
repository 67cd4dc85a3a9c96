import Reckoner.Json.Lexeme
import Reckoner.Json.Writer
import Reckoner.Proofs.CanonicalNumerals
import Reckoner.Proofs.Lexing

/-!
# Lexemes are read back

The reader of documents finds every quoted text and every integer that has been written, whatever
follows it in a document. Texts are made of characters here: a writer may put two surrogates side by
side, and these are read as one character.
-/
namespace Reckoner.Json

open Text

/-! ## Code units -/

theorem hexValue?_digitChar {d : Nat} (h : d < 16) : hexValue? (Nat.digitChar d) = some d := by
  revert d
  decide

/-- The number of four hexadecimal digits is read back. -/
theorem unit?_hexDigits {unit : Nat} (bound : unit < 0x10000) :
    ∃ a b c d, hexDigits 4 unit = [a, b, c, d] ∧ Lexeme.unit? a b c d = some unit := by
  refine ⟨_, _, _, _, rfl, ?_⟩
  have hvalue : ∀ n, hexValue? (Nat.digitChar (n % 16)) = some (n % 16) := fun n =>
    hexValue?_digitChar (Nat.mod_lt n (by decide))
  simp only [Lexeme.unit?, hvalue, Option.bind_eq_bind, Option.bind_some, Option.pure_def,
    Option.some.injEq]
  omega

/-- The letters so far do not end in half a character. -/
def Whole (found : List Letter) : Prop :=
  ∀ unit, found.head? ≠ some (.lone unit)

theorem whole_nil : Whole [] := nofun

theorem whole_char (c : Char) (found : List Letter) : Whole (.char c :: found) := nofun

variable {found : List Letter} {cs rest : List Char}

theorem readString_unitEscape {unit : Nat} (bound : unit < 0x10000) (found : List Letter)
    (cs : List Char) : Lexeme.readString found (unitEscape unit ++ cs) =
      Lexeme.readString (Lexeme.pushUnit unit found) cs := by
  obtain ⟨a, b, c, d, hdigits, hunit⟩ := unit?_hexDigits bound
  rw [unitEscape, hdigits]
  simp [Lexeme.readString, hunit]

theorem pushUnit_whole (h : Whole found) (unit : Nat) : Lexeme.pushUnit unit found =
    if 0xD800 ≤ unit ∧ unit < 0xE000 then .lone unit :: found
    else .char (Char.ofNat unit) :: found := by
  rcases found with _ | ⟨c | unit', found⟩
  · rfl
  · rfl
  · exact absurd rfl (h unit')

/-- The surrogates of a character beyond the first plane lie in their two ranges, and the reader
computes the character from them. -/
theorem surrogates_spec {c : Char} (high : 0x10000 ≤ c.toNat) {first second : Nat}
    (h : surrogates c.toNat = (first, second)) :
    (0xD800 ≤ first ∧ first < 0xDC00) ∧ (0xDC00 ≤ second ∧ second < 0xE000) ∧
      0x10000 + (first - 0xD800) * 0x400 + (second - 0xDC00) = c.toNat := by
  have hmax : c.toNat < 0x110000 := by
    rcases c.valid with hlow | ⟨-, hhigh⟩
    · exact Nat.lt_trans hlow (by decide)
    · exact hhigh
  cases h
  omega

/-- Two surrogates make one character. -/
theorem pushUnit_surrogates (h : Whole found) {c : Char} (high : 0x10000 ≤ c.toNat)
    {first second : Nat} (hpair : surrogates c.toNat = (first, second)) :
    Lexeme.pushUnit second (Lexeme.pushUnit first found) = .char c :: found := by
  obtain ⟨hfirst, hsecond, hcode⟩ := surrogates_spec high hpair
  rw [pushUnit_whole h, if_pos ⟨hfirst.1, Nat.lt_trans hfirst.2 (by decide)⟩, Lexeme.pushUnit,
    if_pos ⟨hfirst.1, hfirst.2, hsecond.1, hsecond.2⟩, hcode, Char.ofNat_toNat]

/-! ## Texts -/

/-- However a character is escaped, it is read back. -/
theorem readString_escape (h : Whole found) (c : Char) (cs : List Char) :
    Lexeme.readString found (escape (.char c) ++ cs) =
      Lexeme.readString (.char c :: found) cs := by
  unfold escape
  dsimp only
  split_ifs with hmark hline hreturn htab hfeed hback hprintable hplane
  · rcases hmark with rfl | rfl <;> rfl
  · rw [hline]
    rfl
  · rw [hreturn]
    rfl
  · rw [htab]
    rfl
  · rw [hfeed]
    rfl
  · rw [hback]
    rfl
  · obtain ⟨hquote, hbackslash⟩ := not_or.mp hmark
    have hblank : ¬ c < ' ' := Char.not_lt.mpr hprintable.1
    rw [List.singleton_append, Lexeme.readString, if_neg hblank]
    · exact hquote
    · exact fun _ _ _ _ _ hu _ => hbackslash hu
    · exact fun _ _ hu _ => hbackslash hu
  · have hwhole : ¬ (0xD800 ≤ c.toNat ∧ c.toNat < 0xE000) := by
      rcases c.valid with hbefore | ⟨hbehind, -⟩
      · exact fun hc => absurd hbefore (Nat.not_lt.mpr hc.1)
      · exact fun hc => absurd hbehind (Nat.not_lt.mpr (Nat.le_of_lt_succ hc.2))
    rw [readString_unitEscape hplane, pushUnit_whole h, if_neg hwhole, Char.ofNat_toNat]
  · cases hpair : surrogates c.toNat with
    | mk first second =>
      obtain ⟨hfirst, hsecond, -⟩ := surrogates_spec (Nat.not_lt.mp hplane) hpair
      rw [List.append_assoc, readString_unitEscape (Nat.lt_trans hfirst.2 (by decide)),
        readString_unitEscape (Nat.lt_trans hsecond.2 (by decide)),
        pushUnit_surrogates h (Nat.not_lt.mp hplane) hpair]

/-- The characters of a quoted text are read one by one. -/
theorem readString_flatMap_escape (h : Whole found) (s : List Char) (rest : List Char) :
    Lexeme.readString found ((s.map Letter.char).flatMap escape ++ '\x22' :: rest) =
      some (found.reverse ++ s.map Letter.char, rest) := by
  induction s generalizing found with
  | nil => simp [Lexeme.readString]
  | cons c s ih =>
    rw [List.map_cons, List.flatMap_cons, List.append_assoc, readString_escape h,
      ih (whole_char c found)]
    simp

/-- A quoted text is read back. -/
theorem split?_quoted (s : String) (rest : List Char) :
    Lexeme.split? (quoted (letters s) ++ rest) = some (.string (letters s), rest) := by
  have hread := readString_flatMap_escape whole_nil s.toList rest
  simp only [quoted, List.cons_append, List.append_assoc, List.nil_append, Lexeme.split?]
  rw [letters, hread]
  rfl

/-! ## Integers -/

/-- What can follow a value: a comma, the end of a list or object, a line break, or nothing. -/
def Closes (rest : List Char) : Prop :=
  ∀ c ∈ rest.head?, c = ',' ∨ c = ']' ∨ c = '\x7d' ∨ c = '\n'

theorem Closes.not_isDigit (h : Closes rest) : ∀ c ∈ rest.head?, c.isDigit = false := by
  intro c hc
  rcases h c hc with rfl | rfl | rfl | rfl <;> rfl

theorem Closes.splitFraction (h : Closes rest) : Decimal.Literal.splitFraction rest = none := by
  rcases rest with _ | ⟨c, rest⟩
  · rfl
  · rcases h c rfl with rfl | rfl | rfl | rfl <;> rfl

theorem Closes.splitExponent (h : Closes rest) : Decimal.Literal.splitExponent rest = none := by
  rcases rest with _ | ⟨c, rest⟩
  · rfl
  · rcases h c rfl with rfl | rfl | rfl | rfl <;> rfl

theorem splitWhole_digits (n : Nat) (h : Closes rest) :
    Decimal.Literal.splitWhole (Numeral.digits n ++ rest) = (Numeral.digits n, rest) := by
  obtain ⟨c, cs, hcs, -⟩ := Numeral.digits_starts n
  by_cases zero : c = '0'
  · have hall : Numeral.digits n = ['0'] :=
      (Numeral.isNumeral_digits n).lead (by rw [hcs, zero]; rfl)
    rw [hall]
    rfl
  · have hdigits : ∀ d ∈ c :: cs, d.isDigit = true := by
      rw [← hcs]
      exact fun _ => Numeral.isDigit_of_mem_digits
    rw [hcs, List.cons_append, Decimal.Literal.splitWhole, ← List.cons_append,
      Lexeme.takeWhile_run hdigits h.not_isDigit, Lexeme.dropWhile_run hdigits h.not_isDigit]
    simpa using zero

/-- The literal of an integer: digits without a sign, a fraction or an exponent behind them. -/
theorem splitUnsigned_digits (negative : Bool) (n : Nat) (h : Closes rest) :
    Decimal.Literal.splitUnsigned negative (Numeral.digits n ++ rest) =
      some (⟨negative, Numeral.digits n, [], 0, true⟩, rest) := by
  obtain ⟨c, cs, hcs, -⟩ := Numeral.digits_starts n
  have hwhole := splitWhole_digits n h
  rw [Decimal.Literal.splitUnsigned]
  rw [hwhole, hcs]
  simp [h.splitFraction, h.splitExponent]

theorem split?_of_isDigit {c : Char} (digit : c.isDigit = true) (cs : List Char) :
    Lexeme.split? (c :: cs) = Lexeme.plain? (c :: cs) := by
  unfold Lexeme.split?
  split <;> first | rfl | (rename_i heq; cases heq; cases digit)

theorem split_of_isDigit {c : Char} (digit : c.isDigit = true) (cs : List Char) :
    Decimal.Literal.split (c :: cs) = Decimal.Literal.splitUnsigned false (c :: cs) := by
  unfold Decimal.Literal.split
  split
  · rename_i heq
    cases heq
    cases digit
  · rfl

/-- No word starts with a digit, and in none of them a digit follows a minus sign. -/
theorem find?_words_eq_none {c : Char} (digit : c.isDigit = true) {cs cs' : List Char}
    (h : cs = c :: cs' ∨ cs = '-' :: c :: cs') :
    (Lexeme.words.find? fun w => w.1.isPrefixOf cs) = none := by
  have hne : ∀ d : Char, d.isDigit = false → (d == c) = false := by
    intro d hd
    rw [beq_eq_false_iff_ne]
    rintro rfl
    rw [hd] at digit
    cases digit
  have hwords : ∀ w ∈ Lexeme.words, ∃ d d' ds, w.1 = d :: d' :: ds ∧ d.isDigit = false ∧
      d'.isDigit = false := by
    simp [Lexeme.words]
  rw [List.find?_eq_none]
  intro w hw
  obtain ⟨d, d', ds, hletters, hd, hd'⟩ := hwords w hw
  rcases h with rfl | rfl <;> simp [hletters, List.isPrefixOf, hne d hd, hne d' hd']

/-- The literal of an integer. -/
def integerLiteral (n : Int) : Decimal.Literal where
  negative := decide (n < 0)
  whole := Numeral.digits n.natAbs
  fraction := []
  exponent := 0
  isInteger := true

theorem toNumber_integerLiteral (n : Int) : (integerLiteral n).toNumber = .int n := by
  have hint : (integerLiteral n).toInt = n := by
    by_cases negative : n < 0
    · simp only [Decimal.Literal.toInt, integerLiteral, negative, decide_true, if_true,
        Numeral.read_digits]
      omega
    · simp only [Decimal.Literal.toInt, integerLiteral, negative, decide_false,
        Bool.false_eq_true, if_false, Numeral.read_digits]
      omega
  have hinteger : (integerLiteral n).isInteger = true := rfl
  rw [Decimal.Literal.toNumber, if_pos hinteger, hint]

/-- An integer is read back. -/
theorem split?_writeInt (n : Int) (h : Closes rest) :
    Lexeme.split? ((Numeral.writeInt n).toList ++ rest) =
      some (.numeral (integerLiteral n), rest) := by
  obtain ⟨c, cs, hcs, digit⟩ := Numeral.digits_starts n.natAbs
  have hsplit := splitUnsigned_digits (decide (n < 0)) n.natAbs h
  rw [hcs, List.cons_append] at hsplit
  rw [Numeral.toList_writeInt, integerLiteral, hcs]
  by_cases negative : n < 0
  · have hplain : Lexeme.split? ('-' :: c :: (cs ++ rest)) =
        Lexeme.plain? ('-' :: c :: (cs ++ rest)) := by
      simp [Lexeme.split?]
    rw [decide_eq_true negative] at hsplit ⊢
    rw [if_pos negative, List.cons_append, List.cons_append, hplain, Lexeme.plain?,
      find?_words_eq_none digit (.inr rfl), Decimal.Literal.split, hsplit]
    rfl
  · rw [decide_eq_false negative] at hsplit ⊢
    rw [if_neg negative, List.cons_append, split?_of_isDigit digit, Lexeme.plain?,
      find?_words_eq_none digit (.inl rfl), split_of_isDigit digit, hsplit]
    rfl

end Reckoner.Json
