import Mathlib
import Reckoner.Proofs.Spelling

/-!
# Texts one behind the other

What a cursor hands out does not depend on the place where its text begins (`Cursor.lex_shift`), and
of what comes behind a token it only matters whether it makes the token longer. So if no word runs
from one text into another, a cursor hands out the tokens of the first text and then those of the
second, and a fault of the first text keeps it from ever reaching the second (`Cursor.lex_append`). A
blank between two texts is enough for that.
-/
namespace Reckoner

/-! ## Characters that start no token -/

/-- Whether a character has no place in an expression: it is not blank, no digit, no letter, no
underscore, and none of the marks. -/
def isForeign (c : Char) : Bool :=
  !(Text.isBlank c || c.isDigit || c.isAlpha || c == '_' ||
    ['+', '-', '*', '/', '(', ')', ','].contains c)

theorem isForeign_iff {c : Char} : isForeign c = true ↔
    Text.isBlank c = false ∧ Lexeme.isNamePart c = false ∧ Symbol.ofMark? c = none := by
  have hmark : ['+', '-', '*', '/', '(', ')', ','].contains c = false ↔ Symbol.ofMark? c = none := by
    unfold Symbol.ofMark?
    split <;> simp_all
  rw [isForeign, Bool.not_eq_true', ← hmark]
  simp only [Lexeme.isNamePart, Lexeme.isNameStart, Bool.or_eq_false_iff]
  tauto

/-- No word goes on with a foreign character. -/
theorem isNamePart_of_isForeign {c : Char} (h : isForeign c = true) : Lexeme.isNamePart c = false :=
  (isForeign_iff.mp h).2.1

theorem Lexeme.symbol?_cut_eq_none_iff {c : Char} {cs : List Char} :
    symbol? (cut (c :: cs)).1 = none ↔ isNamePart c = false ∧ Symbol.ofMark? c = none := by
  by_cases digit : c.isDigit = true
  · rw [cut, if_pos digit, symbol?, if_pos digit]
    simp [isNamePart, digit]
  · by_cases start : isNameStart c = true
    · rw [cut, if_neg digit, if_pos start, symbol?, if_neg digit, if_pos start]
      simp [isNamePart, start]
    · have other : isNamePart c = false := by simp [isNamePart, digit, start]
      rw [cut_mark other, symbol?_mark other]
      simp [other]

namespace Cursor

variable {c after : Cursor} {token : Token} {stray : Stray}

/-- In front of a foreign character a cursor fails, and stays there. -/
theorem next_foreign {x : Char} {gap back : List Char} (foreign : isForeign x = true)
    (blank : ∀ d ∈ gap, Text.isBlank d = true) (offset : Nat) :
    next ⟨gap ++ x :: back, offset⟩ =
      (.error ⟨x, offset + gap.length⟩, ⟨x :: back, offset + gap.length⟩) := by
  obtain ⟨hblank, hpart, hmark⟩ := isForeign_iff.mp foreign
  have hends : ∀ d ∈ (x :: back).head?, Text.isBlank d = false := by simpa using hblank
  have hnone : Lexeme.symbol? (Lexeme.cut (x :: back)).1 = none :=
    Lexeme.symbol?_cut_eq_none_iff.mpr ⟨hpart, hmark⟩
  rw [next, skipBlanks_gap blank hends, scan]
  simp only [hnone]

/-- A cursor fails in front of foreign characters only. -/
theorem next_error (h : c.next = (.error stray, after)) :
    ∃ gap back, c.rest = gap ++ stray.character :: back ∧ (∀ d ∈ gap, Text.isBlank d = true) ∧
      isForeign stray.character = true ∧ stray.offset = c.offset + gap.length ∧
      after = ⟨stray.character :: back, stray.offset⟩ := by
  have hgap : ∀ d ∈ c.rest.takeWhile Text.isBlank, Text.isBlank d = true :=
    List.all_eq_true.mp List.all_takeWhile
  have hrest : c.rest = c.rest.takeWhile Text.isBlank ++ c.skipBlanks.rest :=
    List.takeWhile_append_dropWhile.symm
  unfold next scan at h
  split at h
  · cases h
  · rename_i x back hhere
    split at h
    · cases h
    · rename_i hnone
      cases h
      have hblank : Text.isBlank x = false :=
        Lexeme.head?_of_dropWhile hhere x rfl
      obtain ⟨hpart, hmark⟩ := Lexeme.symbol?_cut_eq_none_iff.mp hnone
      refine ⟨_, back, ?_, hgap, isForeign_iff.mpr ⟨hblank, hpart, hmark⟩, rfl, ?_⟩
      · rw [← hhere, ← hrest]
      · rw [← hhere]

/-! ## Concatenation -/

theorem lex_congr {c c' : Cursor} (h : c.next = c'.next) : c.lex = c'.lex := by
  cases hnext : c'.next with
  | mk drawn after =>
    rw [hnext] at h
    cases drawn with
    | error stray => rw [lex_stray h, lex_stray hnext]
    | ok token =>
      by_cases last : token.symbol = .finish
      · rw [lex_finish h last, lex_finish hnext last]
      · rw [lex_token h last, lex_token hnext last]

/-- Blanks in front of a text do nothing but move it. -/
theorem lex_behind_blanks {gap : List Char} (blank : ∀ d ∈ gap, Text.isBlank d = true)
    (cs : List Char) (offset : Nat) :
    lex ⟨gap ++ cs, offset⟩ = lex ⟨cs, offset + gap.length⟩ := by
  have hskip : skipBlanks ⟨gap ++ cs, offset⟩ = skipBlanks ⟨cs, offset + gap.length⟩ := by
    rw [skipBlanks, skipBlanks, List.dropWhile_append_of_pos blank,
      List.takeWhile_append_of_pos blank, List.length_append, Nat.add_assoc]
  exact lex_congr (congrArg scan hskip)

/-- What is handed out of two texts in turn: the second one comes behind the end of the first. -/
def inTurn : List Token × Except Stray Token → List Token × Except Stray Token →
    List Token × Except Stray Token
  | (ts, .ok _), (us, ending) => (ts ++ us, ending)
  | (ts, .error stray), _ => (ts, .error stray)

theorem inTurn_ok {first : List Token × Except Stray Token} (h : first.2 = .ok token)
    (second : List Token × Except Stray Token) :
    inTurn first second = (first.1 ++ second.1, second.2) := by
  obtain ⟨ts, ending⟩ := first
  cases h
  rfl

theorem inTurn_error {first : List Token × Except Stray Token} (h : first.2 = .error stray)
    (second : List Token × Except Stray Token) : inTurn first second = first := by
  obtain ⟨ts, ending⟩ := first
  cases h
  rfl

theorem inTurn_cons (t : Token) (first second : List Token × Except Stray Token) :
    inTurn (t :: first.1, first.2) second =
      (t :: (inTurn first second).1, (inTurn first second).2) := by
  obtain ⟨ts, ending⟩ := first
  cases ending <;> rfl

/-- **Two texts one behind the other** are read in turn, unless a word runs from the first text into
the second. -/
theorem lex_append {ds : List Char} (starts : ∀ d ∈ ds.head?, Lexeme.isNamePart d = false)
    (c : Cursor) :
    lex ⟨c.rest ++ ds, c.offset⟩ = inTurn c.lex (lex ⟨ds, c.offset + c.rest.length⟩) := by
  -- on the tokens of the first text
  fun_induction lex c with
  | case1 c stray after hnext =>
    obtain ⟨gap, back, hrest, hgap, foreign, hoffset, -⟩ := next_error hnext
    rw [hrest, List.append_assoc, List.cons_append,
      lex_stray (next_foreign foreign hgap c.offset), ← hoffset]
    rfl
  | case2 c token after hnext last =>
    rw [lex_behind_blanks (next_finish hnext last).1]
    rfl
  | case3 c token after hnext more ih =>
    obtain ⟨gap, lexeme, hrest, hgap, hcut, hsymbol, hoffset, hafter⟩ := next_token hnext more
    have hlexeme := Lexeme.cut_further hcut hsymbol starts
    have hdrawn := next_lexeme hgap hlexeme hsymbol c.offset
    rw [← hoffset, ← hafter] at hdrawn
    have hlength := c.length_next
    rw [hnext] at hlength
    rw [inTurn_cons, ← hlength, ← ih, hrest, List.append_assoc, List.append_assoc,
      lex_token hdrawn more]

end Cursor

/-! ## Places further on -/

/-- A token further on. -/
def Token.shift (k : Nat) (t : Token) : Token :=
  ⟨t.symbol, t.offset + k⟩

/-- A stray character further on. -/
def Stray.shift (k : Nat) (s : Stray) : Stray :=
  ⟨s.character, s.offset + k⟩

namespace Cursor

/-- A cursor over the same characters further on. -/
def shift (k : Nat) (c : Cursor) : Cursor :=
  ⟨c.rest, c.offset + k⟩

theorem skipBlanks_shift (k : Nat) (c : Cursor) : (c.shift k).skipBlanks = c.skipBlanks.shift k := by
  simp only [skipBlanks, shift, Nat.add_right_comm]

theorem scan_shift (k : Nat) (c : Cursor) : (c.shift k).scan =
    (match c.scan.1 with
      | .ok token => .ok (token.shift k)
      | .error stray => .error (stray.shift k), c.scan.2.shift k) := by
  obtain ⟨rest, offset⟩ := c
  cases rest with
  | nil => rfl
  | cons d ds =>
    simp only [scan, shift]
    cases Lexeme.symbol? (Lexeme.cut (d :: ds)).1 with
    | none => rfl
    | some symbol => simp only [Token.shift, Nat.add_right_comm]

variable {k : Nat} {c after : Cursor}

theorem next_shift_ok {token : Token} (h : c.next = (.ok token, after)) :
    (c.shift k).next = (.ok (token.shift k), after.shift k) := by
  rw [next] at h
  rw [next, skipBlanks_shift, scan_shift, h]

theorem next_shift_error {stray : Stray} (h : c.next = (.error stray, after)) :
    (c.shift k).next = (.error (stray.shift k), after.shift k) := by
  rw [next] at h
  rw [next, skipBlanks_shift, scan_shift, h]

/-- **Places do not matter**: further on, a text gives the same tokens, and the same fault, further
on. -/
theorem lex_shift (k : Nat) (c : Cursor) : (c.shift k).lex =
    (c.lex.1.map (Token.shift k), (c.lex.2.map (Token.shift k)).mapError (Stray.shift k)) := by
  fun_induction lex c with
  | case1 c stray after hnext =>
    rw [lex_stray (next_shift_error hnext)]
    rfl
  | case2 c token after hnext last =>
    rw [lex_finish (next_shift_ok hnext) last]
    rfl
  | case3 c token after hnext more ih =>
    rw [lex_token (next_shift_ok hnext) more, ih]
    rfl

/-- Two texts with blanks between them are read in turn. -/
theorem lex_spaced {gap : List Char} (nonempty : gap ≠ [])
    (blank : ∀ d ∈ gap, Text.isBlank d = true) (c : Cursor) (ds : List Char) :
    lex ⟨c.rest ++ (gap ++ ds), c.offset⟩ =
      inTurn c.lex (lex ⟨ds, c.offset + c.rest.length + gap.length⟩) := by
  rw [lex_append (Lexeme.starts_of_blanks nonempty blank), lex_behind_blanks blank]

end Cursor

/-- **Blanks keep two texts apart.** With blanks between them, the tokens of two texts stand one
behind the other, and those of the second text, or its stray character, are further on by what stands
in front of it. A stray character of the first text is reported whatever comes behind it. -/
theorem tokenize_spaced {s w u : String} (nonempty : w ≠ "")
    (blank : ∀ c ∈ w.toList, Text.isBlank c = true) :
    (∀ ts, tokenize s = .ok ts → ∃ body, ts = body ++ [⟨.finish, s.length⟩] ∧
      (∀ us, tokenize u = .ok us →
        tokenize (s ++ w ++ u) = .ok (body ++ us.map (Token.shift (s.length + w.length)))) ∧
      ∀ stray, tokenize u = .error stray →
        tokenize (s ++ w ++ u) = .error (stray.shift (s.length + w.length))) ∧
    ∀ stray, tokenize s = .error stray → tokenize (s ++ w ++ u) = .error stray := by
  have hlex : (Cursor.start (s ++ w ++ u)).lex = Cursor.inTurn (Cursor.start s).lex
      ((Cursor.start u).shift (s.length + w.length)).lex := by
    have hgap : w.toList ≠ [] := fun h => nonempty (String.toList_eq_nil_iff.mp h)
    have h := Cursor.lex_spaced hgap blank (Cursor.start s) u.toList
    simp only [Cursor.start, Nat.zero_add, String.length_toList] at h
    rw [Cursor.start, String.toList_append, String.toList_append, List.append_assoc, h,
      Cursor.shift, Cursor.start, Cursor.start, Nat.zero_add]
  refine ⟨fun ts hts => ?_, fun stray hstray => ?_⟩
  · obtain ⟨last, hlast, rfl⟩ := tokenize_eq_ok.mp hts
    refine ⟨_, by rw [Cursor.start_last hlast], fun us hus => ?_, fun stray hstray => ?_⟩
    · obtain ⟨last', hlast', rfl⟩ := tokenize_eq_ok.mp hus
      rw [tokenize_eq, hlex, Cursor.inTurn_ok hlast, Cursor.lex_shift, hlast', List.map_append,
        ← List.append_assoc]
      rfl
    · rw [tokenize_eq_error, hlex, Cursor.inTurn_ok hlast, Cursor.lex_shift,
        tokenize_eq_error.mp hstray]
      rfl
  · have hfails := tokenize_eq_error.mp hstray
    rw [tokenize_eq_error, hlex, Cursor.inTurn_error hfails, hfails]

/-- A name and a numeral that only a blank keeps apart, and a stray character in the place of the
numeral. -/
theorem tokenize_spaced_words :
    tokenize "ab " = .ok [⟨.identifier "ab", 0⟩, ⟨.finish, 3⟩] ∧
      tokenize ("ab " ++ "\u3000" ++ "012") =
        .ok [⟨.identifier "ab", 0⟩, ⟨.integer 12, 4⟩, ⟨.finish, 7⟩] ∧
      tokenize ("ab " ++ "\u3000" ++ "0$2") = .error ⟨'$', 5⟩ ∧
      tokenize ("0$2" ++ "\u3000" ++ "ab ") = .error ⟨'$', 1⟩ := by
  have hname : tokenize "ab " = .ok [⟨.identifier "ab", 0⟩, ⟨.finish, 3⟩] := by
    with_unfolding_all rfl
  have hnumeral : tokenize "012" = .ok [⟨.integer 12, 0⟩, ⟨.finish, 3⟩] := by
    with_unfolding_all rfl
  have hstray : tokenize "0$2" = .error ⟨'$', 1⟩ := by
    with_unfolding_all rfl
  have nonempty : "\u3000" ≠ "" := by decide
  have blank : ∀ c ∈ "\u3000".toList, Text.isBlank c = true :=
    List.forall_mem_singleton.mpr (by decide)
  obtain ⟨body, hbody, hnumerals, -⟩ :=
    (tokenize_spaced (u := "012") nonempty blank).1 _ hname
  obtain ⟨-, -, -, hstrays⟩ := (tokenize_spaced (u := "0$2") nonempty blank).1 _ hname
  have hfront := congrArg List.dropLast hbody
  rw [List.dropLast_concat] at hfront
  subst hfront
  exact ⟨hname, hnumerals _ hnumeral, hstrays _ hstray,
    (tokenize_spaced (u := "ab ") nonempty blank).2 _ hstray⟩

end Reckoner
