import Mathlib
import Reckoner.Proofs.Numerals
import Reckoner.Proofs.TokenStream

/-!
# The symbols of a text and the texts of symbols

Symbols are laid out by writing one behind the other, with any blanks between them. Only two words,
be they numerals or names, need a blank between them; where no two words stand side by side the
blanks may as well be missing, and a cursor finds the same symbols in every layout
(`Cursor.lex_layOut`).
-/
namespace Reckoner

namespace Lexeme

theorem toNat_of_isNamePart {c : Char} (h : isNamePart c = true) :
    (48 ≤ c.toNat ∧ c.toNat ≤ 57) ∨ (65 ≤ c.toNat ∧ c.toNat ≤ 90) ∨ c.toNat = 95 ∨
      (97 ≤ c.toNat ∧ c.toNat ≤ 122) := by
  simp only [isNamePart, isNameStart, Char.isAlpha, Char.isUpper, Char.isLower, Char.isDigit,
    Bool.or_eq_true, Bool.and_eq_true, beq_iff_eq, decide_eq_true_eq, ge_iff_le,
    UInt32.le_iff_toNat_le] at h
  rcases h with ((upper | lower) | rfl) | digit
  · exact .inr (.inl upper)
  · exact .inr (.inr (.inr lower))
  · exact .inr (.inr (.inl rfl))
  · exact .inl digit

/-- No character of a name is blank. -/
theorem isBlank_of_isNamePart {c : Char} (h : isNamePart c = true) : Text.isBlank c = false := by
  have hc := toNat_of_isNamePart h
  simp only [Text.isBlank, Text.inRanges, Text.blankRanges, List.any_cons, List.any_nil,
    Bool.or_false, Bool.or_eq_false_iff, Bool.and_eq_false_iff, decide_eq_false_iff_not]
  omega

theorem isNamePart_of_isBlank {c : Char} (h : Text.isBlank c = true) : isNamePart c = false := by
  by_contra part
  rw [isBlank_of_isNamePart (by simpa using part)] at h
  cases h

/-- No word goes on behind blanks. -/
theorem starts_of_blanks {gap rest : List Char} (nonempty : gap ≠ [])
    (blank : ∀ c ∈ gap, Text.isBlank c = true) :
    ∀ c ∈ (gap ++ rest).head?, isNamePart c = false := by
  obtain ⟨b, bs, rfl⟩ := List.exists_cons_of_ne_nil nonempty
  intro c hc
  obtain rfl : b = c := by simpa using hc
  exact isNamePart_of_isBlank (blank b List.mem_cons_self)

theorem isNamePart_of_isDigit {c : Char} (h : c.isDigit = true) : isNamePart c = true := by
  simp [isNamePart, h]

theorem isDigit_of_isNameStart {c : Char} (h : isNameStart c = true) : c.isDigit = false := by
  have hc : c.isAlpha = true ∨ c = '_' := by simpa [isNameStart] using h
  by_contra digit
  have hdigit : 48 ≤ c.toNat ∧ c.toNat ≤ 57 := by
    simpa [Char.isDigit, UInt32.le_iff_toNat_le] using digit
  rcases hc with alpha | rfl
  · simp only [Char.isAlpha, Char.isUpper, Char.isLower, Bool.or_eq_true, Bool.and_eq_true,
      decide_eq_true_eq, ge_iff_le, UInt32.le_iff_toNat_le] at alpha
    have h65 : 65 ≤ c.toNat := by
      rcases alpha with upper | lower
      · exact upper.1
      · exact Nat.le_trans (by decide) lower.1
    omega
  · exact absurd hdigit (by decide)

section Run

variable {p : Char → Bool} {run rest : List Char}

/-- A run of characters ends in front of one that is of another class. -/
theorem takeWhile_run (h : ∀ c ∈ run, p c = true) (ends : ∀ c ∈ rest.head?, p c = false) :
    (run ++ rest).takeWhile p = run := by
  rw [List.takeWhile_append_of_pos h]
  cases rest with
  | nil => simp
  | cons c rest => simp [ends c rfl]

theorem dropWhile_run (h : ∀ c ∈ run, p c = true) (ends : ∀ c ∈ rest.head?, p c = false) :
    (run ++ rest).dropWhile p = rest := by
  rw [List.dropWhile_append_of_pos h]
  cases rest with
  | nil => rfl
  | cons c rest => simp [ends c rfl]

theorem all_of_takeWhile (h : (run ++ rest).takeWhile p = run) : ∀ c ∈ run, p c = true := by
  rw [← h]
  exact List.all_eq_true.mp List.all_takeWhile

theorem head?_of_dropWhile {cs : List Char} (h : cs.dropWhile p = rest) :
    ∀ c ∈ rest.head?, p c = false := by
  intro c hc
  have hhead := List.head?_dropWhile_not p cs
  rw [h, hc] at hhead
  simpa using hhead

/-- A run of digits is one lexeme. -/
theorem cut_digits (nonempty : run ≠ []) (digits : ∀ c ∈ run, c.isDigit = true)
    (ends : ∀ c ∈ rest.head?, c.isDigit = false) : cut (run ++ rest) = (run, rest) := by
  cases run with
  | nil => exact absurd rfl nonempty
  | cons c run =>
    obtain ⟨first, others⟩ := List.forall_mem_cons.mp digits
    rw [List.cons_append, cut, if_pos first, takeWhile_run others ends, dropWhile_run others ends]

/-- A name is one lexeme. -/
theorem cut_name {c : Char} (start : isNameStart c = true)
    (parts : ∀ c ∈ run, isNamePart c = true) (ends : ∀ c ∈ rest.head?, isNamePart c = false) :
    cut (c :: run ++ rest) = (c :: run, rest) := by
  rw [List.cons_append, cut, if_neg (by simp [isDigit_of_isNameStart start]), if_pos start,
    takeWhile_run parts ends, dropWhile_run parts ends]

/-- A character that belongs to no word is a lexeme of its own. -/
theorem cut_mark {c : Char} (mark : isNamePart c = false) : cut (c :: rest) = ([c], rest) := by
  obtain ⟨start, digit⟩ : isNameStart c = false ∧ c.isDigit = false := by
    simpa [isNamePart] using mark
  rw [cut, if_neg (by simp [digit]), if_neg (by simp [start])]

end Run

theorem cut_eq_of_fst {lexeme rest : List Char} (h : (cut (lexeme ++ rest)).1 = lexeme) :
    cut (lexeme ++ rest) = (lexeme, rest) := by
  have happend := cut_append (lexeme ++ rest)
  rw [h] at happend
  exact Prod.ext h (List.append_cancel_left happend)

/-- The lexeme of a symbol holds parts of words and marks only. -/
theorem cut_characters {cs : List Char} {s : Symbol} (h : symbol? (cut cs).1 = some s) :
    ∀ c ∈ (cut cs).1, isNamePart c = true ∨ Symbol.ofMark? c ≠ none := by
  cases cs with
  | nil => cases h
  | cons c cs =>
    by_cases digit : c.isDigit = true
    · have others : ∀ d ∈ cs.takeWhile Char.isDigit, d.isDigit = true :=
        List.all_eq_true.mp List.all_takeWhile
      rw [cut, if_pos digit, List.forall_mem_cons]
      exact ⟨.inl (isNamePart_of_isDigit digit),
        fun d hd => .inl (isNamePart_of_isDigit (others d hd))⟩
    · by_cases start : isNameStart c = true
      · have others : ∀ d ∈ cs.takeWhile isNamePart, isNamePart d = true :=
          List.all_eq_true.mp List.all_takeWhile
        rw [cut, if_neg digit, if_pos start, List.forall_mem_cons]
        exact ⟨.inl (by simp [isNamePart, start]), fun d hd => .inl (others d hd)⟩
      · rw [cut, if_neg digit, if_neg start, symbol?, if_neg digit, if_neg start] at h
        rw [cut, if_neg digit, if_neg start, List.forall_mem_singleton, h]
        exact .inr nofun

/-- A mark is no part of a word, and not blank. -/
theorem not_isNamePart_of_ofMark? {c : Char} {s : Symbol} (h : Symbol.ofMark? c = some s) :
    isNamePart c = false ∧ Text.isBlank c = false := by
  unfold Symbol.ofMark? at h
  split at h
  case h_8 => cases h
  all_goals decide

/-- The value of a lexeme of digits is what it is read as, chunk by chunk. -/
theorem symbol?_digits {c : Char} (digit : c.isDigit = true) (cs : List Char) :
    symbol? (c :: cs) = some (.integer (Numeral.value (c :: cs))) := by
  rw [symbol?, if_pos digit, Numeral.read_eq_value]

theorem symbol?_name {c : Char} (start : isNameStart c = true) (cs : List Char) :
    symbol? (c :: cs) = some (.identifier (String.ofList (c :: cs))) := by
  rw [symbol?, if_neg (by simp [isDigit_of_isNameStart start]), if_pos start]

theorem symbol?_mark {c : Char} (other : isNamePart c = false) (cs : List Char) :
    symbol? (c :: cs) = Symbol.ofMark? c := by
  obtain ⟨start, digit⟩ : isNameStart c = false ∧ c.isDigit = false := by
    simpa [isNamePart] using other
  rw [symbol?, if_neg (by simp [digit]), if_neg (by simp [start])]

/-- A lexeme that stands for a symbol does not start with a blank. -/
theorem starts_of_symbol? {lexeme : List Char} {s : Symbol} (h : symbol? lexeme = some s) :
    ∃ c cs, lexeme = c :: cs ∧ Text.isBlank c = false := by
  cases lexeme with
  | nil => cases h
  | cons c cs =>
    refine ⟨c, cs, rfl, ?_⟩
    by_cases part : isNamePart c = true
    · exact isBlank_of_isNamePart part
    · rw [symbol?_mark (by simpa using part)] at h
      exact (not_isNamePart_of_ofMark? h).2

end Lexeme

namespace Symbol

/-- Whether a symbol is a numeral or a name. -/
def isWord : Symbol → Bool
  | .integer _ => true
  | .identifier _ => true
  | _ => false

/-- A symbol that can stand in a text: not the end, and a name only if it is one. -/
def Proper : Symbol → Prop
  | .identifier name => isName name = true
  | .finish => False
  | _ => True

/-- The two symbols are not both words. -/
def Apart (s t : Symbol) : Prop :=
  s.isWord = true → t.isWord = false

variable {s : Symbol} {rest : List Char}

theorem isName_iff {name : String} : isName name = true ↔ ∃ c cs, name.toList = c :: cs ∧
    Lexeme.isNameStart c = true ∧ ∀ c ∈ cs, Lexeme.isNamePart c = true := by
  unfold isName
  cases h : name.toList with
  | nil => simp
  | cons c cs => simp

theorem isNamePart_of_isName {name : String} (h : isName name = true) :
    ∀ c ∈ name.toList, Lexeme.isNamePart c = true := by
  obtain ⟨c, cs, hcs, start, parts⟩ := isName_iff.mp h
  rw [hcs]
  exact List.forall_mem_cons.mpr ⟨by simp [Lexeme.isNamePart, start], parts⟩

/-- A symbol that is no word is written as one character. -/
theorem text_of_not_isWord (proper : s.Proper) (h : s.isWord = false) :
    ∃ c, s.text.toList = [c] ∧ ofMark? c = some s ∧ Lexeme.isNamePart c = false ∧
      Text.isBlank c = false := by
  cases s with
  | integer => cases h
  | identifier => cases h
  | finish => exact proper.elim
  | plus => exact ⟨'+', by decide⟩
  | minus => exact ⟨'-', by decide⟩
  | times => exact ⟨'*', by decide⟩
  | divide => exact ⟨'/', by decide⟩
  | opening => exact ⟨'(', by decide⟩
  | closing => exact ⟨')', by decide⟩
  | comma => exact ⟨',', by decide⟩

/-- The text of a symbol is one lexeme, unless it is a word and a longer word starts with it. -/
theorem cut_text (proper : s.Proper)
    (ends : s.isWord = true → ∀ c ∈ rest.head?, Lexeme.isNamePart c = false) :
    Lexeme.cut (s.text.toList ++ rest) = (s.text.toList, rest) := by
  by_cases word : s.isWord = true
  · cases s with
    | integer n =>
      have hdigit : ∀ c ∈ rest.head?, c.isDigit = false := by
        intro c hc
        have part := ends rfl c hc
        simp only [Lexeme.isNamePart, Bool.or_eq_false_iff] at part
        exact part.2
      rw [text, Numeral.toList_writeInt_natCast]
      exact Lexeme.cut_digits (Numeral.digits_ne_nil n)
        (fun _ => Numeral.isDigit_of_mem_digits) hdigit
    | identifier name =>
      obtain ⟨c, cs, hcs, start, parts⟩ := isName_iff.mp proper
      rw [text, hcs]
      exact Lexeme.cut_name start parts (ends rfl)
    | _ => cases word
  · obtain ⟨c, hc, -, mark, -⟩ := text_of_not_isWord proper (by simpa using word)
    rw [hc]
    exact Lexeme.cut_mark mark

/-- The text of a symbol stands for that symbol. -/
theorem symbol?_text (proper : s.Proper) : Lexeme.symbol? s.text.toList = some s := by
  by_cases word : s.isWord = true
  · cases s with
    | integer n =>
      obtain ⟨c, cs, hcs, digit⟩ := Numeral.digits_starts n
      rw [text, Numeral.toList_writeInt_natCast, hcs, Lexeme.symbol?, if_pos digit, ← hcs,
        Numeral.read_digits]
    | identifier name =>
      obtain ⟨c, cs, hcs, start, -⟩ := isName_iff.mp proper
      rw [text, hcs, Lexeme.symbol?_name start, ← hcs, String.ofList_toList]
    | _ => cases word
  · obtain ⟨c, hc, mark, other, -⟩ := text_of_not_isWord proper (by simpa using word)
    rw [hc, Lexeme.symbol?_mark other, mark]

/-- A lexeme of a text stands for no symbol but proper ones. -/
theorem proper_of_symbol? {cs : List Char} (h : Lexeme.symbol? (Lexeme.cut cs).1 = some s) :
    s.Proper := by
  cases cs with
  | nil => cases h
  | cons c cs =>
    by_cases digit : c.isDigit = true
    · rw [Lexeme.cut, if_pos digit, Lexeme.symbol?, if_pos digit] at h
      cases h
      trivial
    · by_cases start : Lexeme.isNameStart c = true
      · rw [Lexeme.cut, if_neg digit, if_pos start, Lexeme.symbol?, if_neg digit, if_pos start] at h
        cases h
        refine isName_iff.mpr ⟨c, _, String.toList_ofList, start, ?_⟩
        intro c hc
        exact List.all_eq_true.mp List.all_takeWhile c hc
      · rw [Lexeme.cut, if_neg digit, if_neg start, Lexeme.symbol?, if_neg digit, if_neg start] at h
        unfold ofMark? at h
        split at h <;> cases h <;> trivial

/-- A mark keeps the words on its two sides apart. -/
theorem isChain_mark {ss ts : List Symbol} {mark : Symbol} (hmark : mark.isWord = false) :
    (ss ++ mark :: ts).IsChain Apart ↔ ss.IsChain Apart ∧ ts.IsChain Apart := by
  have hright : (mark :: ts).IsChain Apart ↔ ts.IsChain Apart := by
    cases ts with
    | nil => simp
    | cons t ts => simp [Apart, hmark]
  rw [List.isChain_append, hright]
  constructor
  · rintro ⟨hss, hts, -⟩
    exact ⟨hss, hts⟩
  · rintro ⟨hss, hts⟩
    refine ⟨hss, hts, ?_⟩
    rintro s - t ht -
    obtain rfl : mark = t := by simpa using ht
    exact hmark

theorem isChain_mark_cons {ss : List Symbol} {mark : Symbol} (hmark : mark.isWord = false) :
    (mark :: ss).IsChain Apart ↔ ss.IsChain Apart := by
  simpa using @isChain_mark [] ss mark hmark

/-- The text of symbols one behind the other, with `gap i` in front of the symbol number `i`. -/
def layOut : (Nat → List Char) → List Symbol → List Char
  | gap, [] => gap 0
  | gap, s :: ss => gap 0 ++ (s.text.toList ++ layOut (fun i => gap (i + 1)) ss)

/-- A layout does not start with a character that lengthens a word, unless its first symbol is a
word itself. -/
theorem layOut_starts {gap : Nat → List Char} {ss : List Symbol} (proper : ∀ s ∈ ss, s.Proper)
    (blank : ∀ i, ∀ c ∈ gap i, Text.isBlank c = true) (mark : ∀ s ∈ ss.head?, s.isWord = false) :
    ∀ c ∈ (layOut gap ss).head?, Lexeme.isNamePart c = false := by
  intro c hc
  cases hgap : gap 0 with
  | cons b bs =>
    have hb : b = c := by cases ss <;> simpa [layOut, hgap] using hc
    subst hb
    exact Lexeme.isNamePart_of_isBlank (blank 0 b (by simp [hgap]))
  | nil =>
    -- without a blank, the first symbol makes the start
    cases ss with
    | nil => simp [layOut, hgap] at hc
    | cons s ss =>
      obtain ⟨d, hd, -, other, -⟩ :=
        text_of_not_isWord (proper s (by simp)) (mark s rfl)
      have hdc : d = c := by simpa [layOut, hgap, hd] using hc
      rw [← hdc]
      exact other

end Symbol

namespace Cursor

/-- Blanks in front of another character are skipped. -/
theorem skipBlanks_gap {gap rest : List Char} (blank : ∀ c ∈ gap, Text.isBlank c = true)
    (ends : ∀ c ∈ rest.head?, Text.isBlank c = false) (offset : Nat) :
    skipBlanks ⟨gap ++ rest, offset⟩ = ⟨rest, offset + gap.length⟩ := by
  rw [skipBlanks, Lexeme.dropWhile_run blank ends, Lexeme.takeWhile_run blank ends]

/-- A lexeme that stands for a symbol is the next token, behind blanks. -/
theorem next_lexeme {s : Symbol} {gap lexeme rest : List Char}
    (blank : ∀ c ∈ gap, Text.isBlank c = true)
    (cut : Lexeme.cut (lexeme ++ rest) = (lexeme, rest))
    (stands : Lexeme.symbol? lexeme = some s) (offset : Nat) :
    next ⟨gap ++ (lexeme ++ rest), offset⟩ =
      (.ok ⟨s, offset + gap.length⟩, ⟨rest, offset + gap.length + lexeme.length⟩) := by
  obtain ⟨c, cs, rfl, first⟩ := Lexeme.starts_of_symbol? stands
  have hends : ∀ d ∈ (c :: cs ++ rest).head?, Text.isBlank d = false := by simpa using first
  rw [List.cons_append] at cut
  rw [next, skipBlanks_gap blank hends, scan, List.cons_append]
  simp only [cut, stands]

/-- The next token in front of a cursor is the symbol that is written there, behind blanks. -/
theorem next_text {s : Symbol} {gap rest : List Char} (proper : s.Proper)
    (blank : ∀ c ∈ gap, Text.isBlank c = true)
    (ends : s.isWord = true → ∀ c ∈ rest.head?, Lexeme.isNamePart c = false) (offset : Nat) :
    ∃ here after, next ⟨gap ++ (s.text.toList ++ rest), offset⟩ = (.ok ⟨s, here⟩, ⟨rest, after⟩) :=
  ⟨_, _, next_lexeme blank (Symbol.cut_text proper ends) (Symbol.symbol?_text proper) offset⟩

/-- Behind blanks alone the text ends. -/
theorem next_blank {gap : List Char} (blank : ∀ c ∈ gap, Text.isBlank c = true) (offset : Nat) :
    next ⟨gap, offset⟩ = (.ok ⟨.finish, offset + gap.length⟩, ⟨[], offset + gap.length⟩) := by
  have hends : ∀ c ∈ ([] : List Char).head?, Text.isBlank c = false := nofun
  have hskip := skipBlanks_gap blank hends offset
  rw [List.append_nil] at hskip
  rw [next, hskip, scan]

/-- **Every layout gives the symbols back**, if no two words stand side by side. -/
theorem lex_layOut {ss : List Symbol} (proper : ∀ s ∈ ss, s.Proper)
    (apart : ss.IsChain Symbol.Apart) {gap : Nat → List Char}
    (blank : ∀ i, ∀ c ∈ gap i, Text.isBlank c = true) (offset : Nat) :
    (∃ last, (lex ⟨Symbol.layOut gap ss, offset⟩).2 = .ok last) ∧
      (lex ⟨Symbol.layOut gap ss, offset⟩).1.map Token.symbol = ss := by
  induction ss generalizing gap offset with
  | nil =>
    rw [Symbol.layOut, lex_finish (next_blank (blank 0) offset) rfl]
    exact ⟨⟨_, rfl⟩, rfl⟩
  | cons s ss ih =>
    obtain ⟨first, others⟩ := List.forall_mem_cons.mp proper
    have blank' : ∀ i, ∀ c ∈ gap (i + 1), Text.isBlank c = true := fun i => blank (i + 1)
    -- behind a word stands a blank, or a mark, or nothing
    have ends : s.isWord = true →
        ∀ c ∈ (Symbol.layOut (fun i => gap (i + 1)) ss).head?, Lexeme.isNamePart c = false := by
      intro word
      refine Symbol.layOut_starts others blank' fun t ht => ?_
      exact apart.rel_head? ht word
    obtain ⟨here, after, hnext⟩ := next_text first (blank 0) ends offset
    -- a symbol that can be written is not the end, so the cursor goes on behind it
    have more : s ≠ .finish := by
      rintro rfl
      exact first
    obtain ⟨hlast, hsymbols⟩ := ih others apart.tail blank' after
    rw [Symbol.layOut, lex_token hnext more]
    exact ⟨hlast, by rw [List.map_cons, hsymbols]⟩

/-- A token stands behind blanks. It is the end, or else the symbol of a lexeme. -/
theorem next_ok {c after : Cursor} {token : Token} (h : c.next = (.ok token, after)) :
    ∃ blanks lexeme, c.rest = blanks ++ (lexeme ++ after.rest) ∧
      (∀ d ∈ blanks, Text.isBlank d = true) ∧
      token.offset = c.offset + blanks.length ∧ after.offset = token.offset + lexeme.length ∧
      (token.symbol = .finish ∧ lexeme ++ after.rest = [] ∨
        (Lexeme.cut (lexeme ++ after.rest)).1 = lexeme ∧
          Lexeme.symbol? lexeme = some token.symbol) := by
  have hblanks : ∀ d ∈ c.rest.takeWhile Text.isBlank, Text.isBlank d = true :=
    List.all_eq_true.mp List.all_takeWhile
  have hrest : c.rest = c.rest.takeWhile Text.isBlank ++ c.skipBlanks.rest :=
    List.takeWhile_append_dropWhile.symm
  unfold next scan at h
  split at h
  · rename_i hend
    cases h
    refine ⟨_, [], ?_, hblanks, rfl, rfl, .inl ⟨rfl, hend⟩⟩
    rw [List.nil_append, ← hrest]
  · rename_i first others hhere
    split at h
    · rename_i symbol hsymbol
      cases h
      have hcut := Lexeme.cut_append (first :: others)
      refine ⟨_, (Lexeme.cut (first :: others)).1, ?_, hblanks, rfl, rfl, .inr ⟨?_, hsymbol⟩⟩
      · rw [hcut, ← hhere, ← hrest]
      · rw [hcut]
    · cases h

variable {c after : Cursor} {token : Token}

/-- In front of a stray character the cursor skips blanks only. -/
theorem next_stray {stray : Stray} (h : c.next = (.error stray, after)) : after = c.skipBlanks := by
  unfold next scan at h
  split at h
  · cases h
  · split at h
    · cases h
    · cases h
      rfl

/-- What lies before a cursor and what lies behind it make up the whole text. -/
theorem length_next (c : Cursor) :
    c.next.2.offset + c.next.2.rest.length = c.offset + c.rest.length := by
  cases h : c.next with
  | mk outcome after =>
    cases outcome with
    | error stray =>
      have hrest := congrArg List.length (List.takeWhile_append_dropWhile (p := Text.isBlank)
        (l := c.rest))
      rw [List.length_append] at hrest
      rw [next_stray h]
      simp only [skipBlanks]
      omega
    | ok token =>
      obtain ⟨blanks, lexeme, hrest, -, htoken, hafter, -⟩ := next_ok h
      rw [hrest, List.length_append, List.length_append]
      show after.offset + after.rest.length = _
      omega

/-- In front of the end there are only blanks, and nothing is left behind it. -/
theorem next_finish (h : c.next = (.ok token, after)) (last : token.symbol = .finish) :
    (∀ d ∈ c.rest, Text.isBlank d = true) ∧ token.offset = c.offset + c.rest.length ∧
      after = ⟨[], token.offset⟩ := by
  obtain ⟨blanks, lexeme, hrest, hblanks, hoffset, hafter, ⟨-, hend⟩ | ⟨hcut, hsymbol⟩⟩ := next_ok h
  · obtain ⟨rfl, hnil⟩ := List.append_eq_nil_iff.mp hend
    rw [hend, List.append_nil] at hrest
    rw [hrest]
    exact ⟨hblanks, hoffset, congrArg₂ Cursor.mk hnil hafter⟩
  · rw [← hcut, last] at hsymbol
    exact (Symbol.proper_of_symbol? hsymbol).elim

/-- Every other token is the symbol of a lexeme, and blanks may stand in front of it. -/
theorem next_token (h : c.next = (.ok token, after)) (more : token.symbol ≠ .finish) :
    ∃ gap lexeme, c.rest = gap ++ (lexeme ++ after.rest) ∧ (∀ d ∈ gap, Text.isBlank d = true) ∧
      Lexeme.cut (lexeme ++ after.rest) = (lexeme, after.rest) ∧
      Lexeme.symbol? lexeme = some token.symbol ∧
      token.offset = c.offset + gap.length ∧ after.offset = token.offset + lexeme.length := by
  obtain ⟨gap, lexeme, hrest, hgap, hoffset, hafter, ⟨hend, -⟩ | ⟨hcut, hsymbol⟩⟩ := next_ok h
  · exact absurd hend more
  · exact ⟨gap, lexeme, hrest, hgap, Lexeme.cut_eq_of_fst hcut, hsymbol, hoffset, hafter⟩

/-- A cursor hands out the end or a proper symbol. -/
theorem next_proper (h : c.next = (.ok token, after)) :
    token.symbol = .finish ∨ token.symbol.Proper := by
  by_cases last : token.symbol = .finish
  · exact .inl last
  · obtain ⟨gap, lexeme, -, -, hcut, hsymbol, -⟩ := next_token h last
    have hfirst : Lexeme.symbol? (Lexeme.cut (lexeme ++ after.rest)).1 = some token.symbol := by
      rw [hcut, hsymbol]
    exact .inr (Symbol.proper_of_symbol? hfirst)

/-- In front of the end of a text a cursor hands out proper symbols only. -/
theorem lex_proper (c : Cursor) : ∀ t ∈ c.lex.1, t.symbol.Proper := by
  fun_induction lex c with
  | case1 => simp
  | case2 => simp
  | case3 c token after h more ih =>
    exact List.forall_mem_cons.mpr ⟨(next_proper h).resolve_left more, ih⟩

/-- The end of a text stands behind its last character. -/
theorem lex_last (c : Cursor) {last : Token} (h : c.lex.2 = .ok last) :
    last = ⟨.finish, c.offset + c.rest.length⟩ := by
  fun_induction lex c with
  | case1 => cases h
  | case2 c token after hnext hlast =>
    cases h
    rw [← (next_finish hnext hlast).2.1, ← hlast]
  | case3 c token after hnext more ih =>
    have hlength := c.length_next
    rw [hnext] at hlength
    rw [ih h, hlength]

theorem start_last {text : String} {last : Token} (h : (start text).lex.2 = .ok last) :
    last = ⟨.finish, text.length⟩ := by
  have hlast := lex_last _ h
  rwa [start, Nat.zero_add, String.length_toList] at hlast

/-- Where all of a text has been split into tokens, every character is blank, a part of a word, or a
mark. -/
theorem lex_characters (c : Cursor) {last : Token} (h : c.lex.2 = .ok last) : ∀ d ∈ c.rest,
    Text.isBlank d = true ∨ Lexeme.isNamePart d = true ∨ Symbol.ofMark? d ≠ none := by
  fun_induction lex c with
  | case1 => cases h
  | case2 c token after hnext hlast => exact fun d hd => .inl ((next_finish hnext hlast).1 d hd)
  | case3 c token after hnext more ih =>
    obtain ⟨gap, lexeme, hrest, hgap, hcut, hsymbol, -⟩ := next_token hnext more
    have hlexeme : ∀ d ∈ lexeme, Lexeme.isNamePart d = true ∨ Symbol.ofMark? d ≠ none := by
      have hfirst : (Lexeme.cut (lexeme ++ after.rest)).1 = lexeme := congrArg Prod.fst hcut
      rw [← hfirst] at hsymbol ⊢
      exact Lexeme.cut_characters hsymbol
    rw [hrest, List.forall_mem_append, List.forall_mem_append]
    exact ⟨fun d hd => .inl (hgap d hd), fun d hd => .inr (hlexeme d hd), ih h⟩

end Cursor
end Reckoner
