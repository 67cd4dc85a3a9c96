import Reckoner.Proofs.Lexing
import Reckoner.Proofs.Parsing

/-!
# Spelled symbols

`Spelled cs ss` says what a cursor finds in the text `cs`, without a cursor: the lexemes of the
symbols `ss`, one behind the other, with blanks around them (`Cursor.spelled`, `Cursor.lex_spelled`).
No offset occurs in it, so texts can be put one behind the other (`Spelled.append`), and a text can
be taken apart at one of its tokens (`Cursor.lex_split`).
-/
namespace Reckoner

namespace Lexeme

variable {lexeme rest rest' : List Char}

/-- What stands behind a lexeme can be exchanged, unless the new text goes on with the word. -/
theorem cut_congr (h : cut (lexeme ++ rest) = (lexeme, rest)) (nonempty : lexeme ≠ [])
    (starts : ∀ c ∈ rest'.head?, c ∈ rest.head? ∨ isNamePart c = false) :
    cut (lexeme ++ rest') = (lexeme, rest') := by
  obtain ⟨c, run, rfl⟩ := List.exists_cons_of_ne_nil nonempty
  rw [List.cons_append, cut] at h
  by_cases digit : c.isDigit = true
  · rw [if_pos digit] at h
    obtain ⟨hrun, hrest⟩ : (run ++ rest).takeWhile Char.isDigit = run ∧
        (run ++ rest).dropWhile Char.isDigit = rest := by simpa using h
    refine cut_digits nonempty (List.forall_mem_cons.mpr ⟨digit, all_of_takeWhile hrun⟩) ?_
    intro d hd
    rcases starts d hd with same | other
    · exact head?_of_dropWhile hrest d same
    · exact (Bool.or_eq_false_iff.mp other).2
  · rw [if_neg digit] at h
    by_cases start : isNameStart c = true
    · rw [if_pos start] at h
      obtain ⟨hrun, hrest⟩ : (run ++ rest).takeWhile isNamePart = run ∧
          (run ++ rest).dropWhile isNamePart = rest := by simpa using h
      refine cut_name start (all_of_takeWhile hrun) ?_
      intro d hd
      rcases starts d hd with same | other
      · exact head?_of_dropWhile hrest d same
      · exact other
    · rw [if_neg start] at h
      obtain rfl : run = [] := by simpa using h
      exact cut_mark (by simp [isNamePart, start, digit])

/-- A further text does not make a lexeme longer, unless it goes on with the word. -/
theorem cut_further {further : List Char} {s : Symbol}
    (h : cut (lexeme ++ rest) = (lexeme, rest)) (stands : symbol? lexeme = some s)
    (starts : ∀ c ∈ further.head?, isNamePart c = false) :
    cut (lexeme ++ (rest ++ further)) = (lexeme, rest ++ further) := by
  obtain ⟨c, cs, rfl, -⟩ := starts_of_symbol? stands
  refine cut_congr h (List.cons_ne_nil _ _) fun d hd => ?_
  cases rest with
  | nil => exact .inr (starts d hd)
  | cons r rest => exact .inl hd

end Lexeme

/-- The text holds the lexemes of the symbols, in their order, and blanks around them. -/
inductive Spelled : List Char → List Symbol → Prop
  | blanks {gap : List Char} (blank : ∀ c ∈ gap, Text.isBlank c = true) : Spelled gap []
  | symbol {gap lexeme rest : List Char} {s : Symbol} {ss : List Symbol}
      (blank : ∀ c ∈ gap, Text.isBlank c = true)
      (cut : Lexeme.cut (lexeme ++ rest) = (lexeme, rest))
      (stands : Lexeme.symbol? lexeme = some s) (others : Spelled rest ss) :
      Spelled (gap ++ (lexeme ++ rest)) (s :: ss)

namespace Spelled

variable {cs ds : List Char} {ss ts : List Symbol}

/-- A symbol is spelled by its own text. -/
theorem text {s : Symbol} (proper : s.Proper) : Spelled s.text.toList [s] := by
  have hcut : Lexeme.cut (s.text.toList ++ []) = (s.text.toList, []) := Symbol.cut_text proper nofun
  have h := @symbol [] s.text.toList [] s [] nofun hcut (Symbol.symbol?_text proper) (.blanks nofun)
  rwa [List.nil_append, List.append_nil] at h

/-- Further blanks in front of a text change nothing. -/
theorem behind_blanks {gap : List Char} (h : Spelled cs ss)
    (blank : ∀ c ∈ gap, Text.isBlank c = true) : Spelled (gap ++ cs) ss := by
  cases h with
  | blanks blank' => exact .blanks (List.forall_mem_append.mpr ⟨blank, blank'⟩)
  | symbol blank' cut stands others =>
    rw [← List.append_assoc]
    exact .symbol (List.forall_mem_append.mpr ⟨blank, blank'⟩) cut stands others

/-- Symbols of two texts are found one behind the other, unless a word runs from the first text into
the second. -/
theorem append (h : Spelled cs ss) (h' : Spelled ds ts)
    (starts : ∀ c ∈ ds.head?, Lexeme.isNamePart c = false) : Spelled (cs ++ ds) (ss ++ ts) := by
  induction h with
  | blanks blank => exact h'.behind_blanks blank
  | @symbol gap lexeme rest s ss blank cut stands _ ih =>
    rw [List.append_assoc, List.append_assoc]
    exact .symbol blank (Lexeme.cut_further cut stands starts) stands ih

/-- A mark can be put in front of any text. -/
theorem mark {c : Char} {s : Symbol} (hc : Symbol.ofMark? c = some s) (h : Spelled cs ss) :
    Spelled (c :: cs) (s :: ss) := by
  have part := (Lexeme.not_isNamePart_of_ofMark? hc).1
  have stands : Lexeme.symbol? [c] = some s := by
    rw [Lexeme.symbol?_mark part, hc]
  exact @symbol [] [c] cs s ss (by simp) (Lexeme.cut_mark part) stands h

/-- A mark keeps two texts apart. -/
theorem append_mark {c : Char} {s : Symbol} (h : Spelled cs ss) (hc : Symbol.ofMark? c = some s)
    (h' : Spelled ds ts) : Spelled (cs ++ c :: ds) (ss ++ s :: ts) := by
  refine h.append (h'.mark hc) fun d hd => ?_
  obtain rfl : c = d := by simpa using hd
  exact (Lexeme.not_isNamePart_of_ofMark? hc).1

end Spelled

namespace Cursor

variable {c : Cursor} {t last : Token} {us vs : List Token}

/-- The tokens that a cursor hands out, up to the end of the text, are spelled behind it. -/
theorem spelled (h : c.lex.2 = .ok last) : Spelled c.rest (c.lex.1.map Token.symbol) := by
  fun_induction lex c with
  | case1 => cases h
  | case2 c token after hnext hlast => exact .blanks (next_finish hnext hlast).1
  | case3 c token after hnext more ih =>
    obtain ⟨gap, lexeme, hrest, hgap, hcut, hsymbol, -⟩ := next_token hnext more
    rw [hrest]
    exact .symbol hgap hcut hsymbol (ih h)

/-- What is spelled in a text is found there, wherever the text begins. -/
theorem lex_spelled {cs : List Char} {ss : List Symbol} (h : Spelled cs ss) (offset : Nat) :
    (∃ last, (lex ⟨cs, offset⟩).2 = .ok last) ∧
      (lex ⟨cs, offset⟩).1.map Token.symbol = ss := by
  induction h generalizing offset with
  | blanks blank =>
    rw [lex_finish (next_blank blank offset) rfl]
    exact ⟨⟨_, rfl⟩, rfl⟩
  | @symbol gap lexeme rest s ss blank cut stands _ ih =>
    have proper : s.Proper := by
      have hs : Lexeme.symbol? (Lexeme.cut (lexeme ++ rest)).1 = some s := by rw [cut, stands]
      exact Symbol.proper_of_symbol? hs
    have more : s ≠ .finish := by
      rintro rfl
      exact proper
    obtain ⟨hlast, hsymbols⟩ := ih (offset + gap.length + lexeme.length)
    rw [lex_token (next_lexeme blank cut stands offset) more]
    exact ⟨hlast, by rw [List.map_cons, hsymbols]⟩

/-- The first of the tokens that a cursor hands out. -/
theorem next_of_lex {ts : List Token} (h : c.lex.1 = t :: ts) :
    ∃ after, c.next = (.ok t, after) ∧ t.symbol ≠ .finish ∧ after.lex = (ts, c.lex.2) := by
  cases hnext : c.next with
  | mk drawn after =>
    cases drawn with
    | error stray =>
      rw [lex_stray hnext] at h
      cases h
    | ok token =>
      by_cases last : token.symbol = .finish
      · rw [lex_finish hnext last] at h
        cases h
      · rw [lex_token hnext last] at h ⊢
        obtain ⟨rfl, rfl⟩ := List.cons.inj h
        exact ⟨after, rfl, last, rfl⟩

/-- **A text can be taken apart at each of its tokens**: the tokens before it are spelled in front of
its lexeme, and those after it behind. -/
theorem lex_split (h : c.lex.1 = us ++ t :: vs) (ends : c.lex.2 = .ok last) :
    ∃ front lexeme back, c.rest = front ++ (lexeme ++ back) ∧ t.offset = c.offset + front.length ∧
      Lexeme.cut (lexeme ++ back) = (lexeme, back) ∧ Lexeme.symbol? lexeme = some t.symbol ∧
      Spelled front (us.map Token.symbol) ∧ Spelled back (vs.map Token.symbol) := by
  induction us generalizing c with
  | nil =>
    obtain ⟨after, hnext, more, hafter⟩ := next_of_lex h
    obtain ⟨gap, lexeme, hrest, hgap, hcut, hsymbol, hoffset, -⟩ := next_token hnext more
    have hends : after.lex.2 = .ok last := by rw [hafter, ends]
    have hback := spelled hends
    rw [hafter] at hback
    exact ⟨gap, lexeme, after.rest, hrest, hoffset, hcut, hsymbol, .blanks hgap, hback⟩
  | cons first us ih =>
    obtain ⟨after, hnext, more, hafter⟩ := next_of_lex h
    obtain ⟨gap, word, hrest, hgap, hcut, hsymbol, hfirst, hplace⟩ := next_token hnext more
    obtain ⟨front, lexeme, back, hback, hoffset, hlexeme, hstands, hbefore, hbehind⟩ :=
      ih (congrArg Prod.fst hafter) ((congrArg Prod.snd hafter).trans ends)
    obtain ⟨d, ds, rfl, -⟩ := Lexeme.starts_of_symbol? hsymbol
    -- the word in front keeps its end, since what follows it begins as before, or is missing
    have hword : Lexeme.cut (d :: ds ++ front) = (d :: ds, front) := by
      refine Lexeme.cut_congr hcut (by simp) fun a ha => .inl ?_
      rw [hback, List.head?_append, Option.mem_def.mp ha]
      rfl
    refine ⟨gap ++ (d :: ds ++ front), lexeme, back, ?_, ?_, hlexeme, hstands,
      .symbol hgap hword hsymbol hbefore, hbehind⟩
    · rw [hrest, hback]
      simp only [List.append_assoc]
    · rw [hoffset, hplace, hfirst]
      simp only [List.length_append]
      omega

end Cursor

/-- A text is read as an expression if and only if symbols that derive the expression are spelled in
it. -/
theorem parse_eq_ok_iff_spelled {text : String} {e : Expr} :
    parse text = .ok e ↔
      ∃ ss, Spelled text.toList ss ∧ Grammar.Derives (.expression e) ss := by
  rw [parse_eq_ok]
  constructor
  · rintro ⟨⟨last, hlast⟩, h⟩
    exact ⟨_, Cursor.spelled hlast, h⟩
  · rintro ⟨ss, hspelled, h⟩
    obtain ⟨hlast, hsymbols⟩ := Cursor.lex_spelled hspelled 0
    refine ⟨hlast, ?_⟩
    rwa [← hsymbols] at h

end Reckoner
