import Reckoner.Proofs.Spelling

/-!
# Only the symbols matter

A parser hands on the places of tokens but never looks at them. So if two texts have the same symbols,
both are read as the same expression, or both are refused in the same way and at the same token
(`Progress.verdict_twin`). A text can therefore be rewritten with its tokens in their own texts and
any blanks between them, and it still has the same symbols and the same meaning.
-/
namespace Reckoner

/-! ## Twins -/

/-- Two outcomes of the same kind, with related results or related faults. -/
inductive Parallel {ε α : Type} (fault : ε → ε → Prop) (result : α → α → Prop) :
    Except ε α → Except ε α → Prop
  | ok {a a' : α} (h : result a a') : Parallel fault result (.ok a) (.ok a')
  | error {e e' : ε} (h : fault e e') : Parallel fault result (.error e) (.error e')

/-- Tokens with the same symbol at related places. -/
structure Token.Twin (place : ℕ → ℕ → Prop) (t t' : Token) : Prop where
  /-- The symbols are the same. -/
  symbol : t.symbol = t'.symbol
  /-- The places are related. -/
  offset : place t.offset t'.offset

/-- Reports that differ in nothing but the place, and name related places. -/
structure Misfit.Twin (place : ℕ → ℕ → Prop) (m m' : Misfit) : Prop where
  /-- The same is wrong. -/
  complaint : m.complaint = m'.complaint
  /-- The same was expected. -/
  expected : m.expected? = m'.expected?
  /-- The same was found. -/
  actual : m.actual = m'.actual
  /-- The places are related. -/
  offset : place m.offset m'.offset

/-- A parser waits for the same in both cases, and keeps related places of a name in mind. -/
inductive Awaited.Twin (place : ℕ → ℕ → Prop) : Awaited → Awaited → Prop
  | operand : Twin place .operand .operand
  | arguments : Twin place .arguments .arguments
  | opening (name : String) {offset offset' : ℕ} (h : place offset offset') :
      Twin place (.opening name offset) (.opening name offset')
  | operator (left : Expr) : Twin place (.operator left) (.operator left)

/-- A parser has read the same in both cases. -/
structure Progress.Twin (place : ℕ → ℕ → Prop) (p p' : Progress) : Prop where
  /-- The same constructs are open. -/
  frames : p.frames = p'.frames
  /-- What fits next is the same. -/
  awaited : Awaited.Twin place p.awaited p'.awaited

/-- The same misfit in both cases. -/
inductive SyntaxFault.Twin (place : ℕ → ℕ → Prop) : SyntaxFault → SyntaxFault → Prop
  | misfit {m m' : Misfit} (h : m.Twin place m') : Twin place (.misfit m) (.misfit m')

/-! ## Steps and runs of a parser -/

namespace Progress

variable {place : ℕ → ℕ → Prop} {p p' : Progress} {t t' last last' : Token} {ts ts' : List Token}

theorem operand_twin (frames : List Frame) (ht : t.Twin place t') :
    Parallel (Misfit.Twin place) (Twin place) (operand frames t) (operand frames t') := by
  obtain ⟨symbol, offset⟩ := t
  obtain ⟨_, offset'⟩ := t'
  obtain ⟨rfl, hoffset⟩ := ht
  cases symbol with
  | integer n => exact .ok ⟨rfl, .operator _⟩
  | identifier name => exact .ok ⟨rfl, .opening name hoffset⟩
  | plus | minus | opening => exact .ok ⟨rfl, .operand⟩
  | times | divide | closing | comma | finish => exact .error ⟨rfl, rfl, rfl, hoffset⟩

theorem close_twin (frames : List Frame) (e : Expr) (ht : t.Twin place t') :
    Parallel (Misfit.Twin place) (Twin place) (close frames e t) (close frames e t') := by
  obtain ⟨symbol, offset⟩ := t
  obtain ⟨_, offset'⟩ := t'
  obtain ⟨rfl, hoffset⟩ := ht
  cases frames with
  | nil => exact .error ⟨rfl, rfl, rfl, hoffset⟩
  | cons frame frames =>
    -- only a closing parenthesis or a comma can fit
    cases frame with
    | sign | operator => exact .error ⟨rfl, rfl, rfl, hoffset⟩
    | group =>
      cases symbol with
      | closing => exact .ok ⟨rfl, .operator e⟩
      | _ => exact .error ⟨rfl, rfl, rfl, hoffset⟩
    | call name arguments =>
      cases symbol with
      | closing => exact .ok ⟨rfl, .operator _⟩
      | comma => exact .ok ⟨rfl, .operand⟩
      | _ => exact .error ⟨rfl, rfl, rfl, hoffset⟩

/-- **The step**: twins stay twins, or fail as twins. -/
theorem advance_twin (hp : p.Twin place p') (ht : t.Twin place t') :
    Parallel (Misfit.Twin place) (Twin place) (p.advance t) (p'.advance t') := by
  obtain ⟨frames, awaited⟩ := p
  obtain ⟨_, awaited'⟩ := p'
  obtain ⟨rfl, hawaited⟩ := hp
  have hsymbol := ht.symbol
  cases hawaited with
  | operand => exact operand_twin frames ht
  | arguments =>
    simp only [advance, ← hsymbol]
    split
    · exact .ok ⟨rfl, .operator _⟩
    · exact operand_twin _ ht
  | opening name hoffset =>
    simp only [advance, ← hsymbol]
    split
    · exact .ok ⟨rfl, .arguments⟩
    · refine .error ⟨rfl, rfl, ?_, hoffset⟩
      exact congrArg Symbol.kind hsymbol
  | operator left =>
    simp only [advance, ← hsymbol]
    split
    · exact .ok ⟨rfl, .operand⟩
    · exact close_twin _ _ ht

theorem finish_twin (hp : p.Twin place p') (ht : last.Twin place last') :
    Parallel (Misfit.Twin place) Eq (p.finish last) (p'.finish last') := by
  obtain ⟨symbol, offset⟩ := last
  obtain ⟨_, offset'⟩ := last'
  obtain ⟨rfl, hoffset⟩ := ht
  obtain ⟨frames, awaited⟩ := p
  obtain ⟨_, awaited'⟩ := p'
  obtain ⟨rfl, hawaited⟩ := hp
  cases hawaited with
  | operand | arguments => exact .error ⟨rfl, rfl, rfl, hoffset⟩
  | opening name hname => exact .error ⟨rfl, rfl, rfl, hname⟩
  | operator left =>
    simp only [finish]
    split
    · exact .ok rfl
    · exact .error ⟨rfl, rfl, rfl, hoffset⟩

/-- **The run**: over tokens with the same symbols twins come to the same expression, or to the same
misfit. -/
theorem verdict_twin (hp : p.Twin place p') (hts : List.Forall₂ (Token.Twin place) ts ts')
    (hlast : last.Twin place last') :
    Parallel (SyntaxFault.Twin place) Eq (p.verdict (.ok last) ts) (p'.verdict (.ok last') ts') := by
  induction hts generalizing p p' with
  | nil =>
    have hfinish := finish_twin hp hlast
    rw [verdict, verdict]
    generalize p.finish last = outcome, p'.finish last' = outcome' at hfinish ⊢
    cases hfinish with
    | ok h => exact .ok h
    | error h => exact .error (.misfit h)
  | @cons t t' ts ts' ht _ ih =>
    have hadvance := advance_twin hp ht
    rw [verdict, verdict]
    generalize p.advance t = outcome, p'.advance t' = outcome' at hadvance ⊢
    cases hadvance with
    | ok h => exact ih h
    | error h => exact .error (.misfit h)

end Progress

/-! ## Tokens of the same number -/

/-- The places of the tokens of some number in two lists. -/
def SamePlace (ts ts' : List Token) (i j : ℕ) : Prop :=
  ∃ (k : ℕ) (t t' : Token), ts[k]? = some t ∧ ts'[k]? = some t' ∧ i = t.offset ∧ j = t'.offset

/-- Lists with the same symbols hold twins. -/
theorem forall₂_twin {ts ts' : List Token} (h : ts.map Token.symbol = ts'.map Token.symbol) :
    List.Forall₂ (Token.Twin (SamePlace ts ts')) ts ts' := by
  have hlength : ts.length = ts'.length := by
    simpa using congrArg List.length h
  refine List.forall₂_iff_get.mpr ⟨hlength, fun k hk hk' => ⟨?_, k, ts[k], ts'[k], ?_⟩⟩
  · have hsymbol := congrArg (·[k]?) h
    simpa [hk, hk'] using hsymbol
  · exact ⟨List.getElem?_eq_getElem hk, List.getElem?_eq_getElem hk', rfl, rfl⟩

/-- **Texts with the same symbols** are read as the same expression, or refused in the same way at
tokens of the same number. -/
theorem parse_parallel {text text' : String} {ts ts' : List Token} (h : tokenize text = .ok ts)
    (h' : tokenize text' = .ok ts') (same : ts.map Token.symbol = ts'.map Token.symbol) :
    Parallel (SyntaxFault.Twin (SamePlace ts ts')) Eq (parse text) (parse text') := by
  obtain ⟨last, hlast, rfl⟩ := tokenize_eq_ok.mp h
  obtain ⟨last', hlast', rfl⟩ := tokenize_eq_ok.mp h'
  have htwins := forall₂_twin same
  rw [← List.forall₂_reverse_iff, List.reverse_concat, List.reverse_concat, List.forall₂_cons,
    List.forall₂_reverse_iff] at htwins
  rw [parse_eq, parse_eq, hlast, hlast']
  exact Progress.verdict_twin ⟨rfl, .operand⟩ htwins.2 htwins.1

/-! ## Texts with blanks between all tokens -/

/-- Words one behind the other, with `gap i` behind the word number `i` unless it is the last one. -/
def spaced (gap : ℕ → List Char) : List (List Char) → List Char
  | [] => []
  | [word] => word
  | word :: other :: words =>
    word ++ (gap 0 ++ spaced (fun i => gap (i + 1)) (other :: words))

/-- Three words. -/
example : spaced (fun i => List.replicate (i + 1) ' ') [['1'], ['+'], ['2', '3']] =
    ['1', ' ', '+', ' ', ' ', '2', '3'] := rfl

/-- Symbols are spelled by their own texts with blanks between them. -/
theorem spelled_spaced {gap : ℕ → List Char} {ss : List Symbol} (proper : ∀ s ∈ ss, s.Proper)
    (blank : ∀ i, gap i ≠ [] ∧ ∀ c ∈ gap i, Text.isBlank c = true) :
    Spelled (spaced gap (ss.map fun s => s.text.toList)) ss := by
  induction ss generalizing gap with
  | nil => exact .blanks nofun
  | cons s ss ih =>
    obtain ⟨first, others⟩ := List.forall_mem_cons.mp proper
    cases ss with
    | nil => exact Spelled.text first
    | cons other ss =>
      have hrest := ih others fun i => blank (i + 1)
      obtain ⟨nonempty, hgap⟩ := blank 0
      -- the blanks keep the first symbol from getting longer
      exact (Spelled.text first).append (hrest.behind_blanks hgap)
        (Lexeme.starts_of_blanks nonempty hgap)

/-- **Blanks do not matter.** Let the tokens of a text be written in their own texts, with any blanks
between each two of them. The new text has the same symbols, and it is read as the same expression as
the old one, or both are refused for the same reason at the same token. -/
theorem parse_spaced {text : String} {tokens : List Token} (h : tokenize text = .ok tokens)
    {gap : ℕ → List Char} (blank : ∀ i, gap i ≠ [] ∧ ∀ c ∈ gap i, Text.isBlank c = true) :
    let words := tokens.dropLast.map fun t => t.symbol.text.toList
    let text' := String.ofList (spaced gap words)
    tokens = tokens.dropLast ++ [⟨.finish, text.length⟩] ∧
    ∃ tokens', tokenize text' = .ok tokens' ∧
      tokens.map Token.symbol = tokens'.map Token.symbol ∧
      ((∃ e, parse text = .ok e ∧ parse text' = .ok e) ∨
        ∃ m m', parse text = .error (.misfit m) ∧ parse text' = .error (.misfit m') ∧
          m.Twin (SamePlace tokens tokens') m') := by
  intro words text'
  obtain ⟨last, hlast, htokens⟩ := tokenize_eq_ok.mp h
  have hend := Cursor.start_last hlast
  have hbody : tokens.dropLast = (Cursor.start text).lex.1 := by
    rw [htokens, List.dropLast_concat]
  have hspelled : Spelled text'.toList (tokens.dropLast.map Token.symbol) := by
    have proper : ∀ s ∈ tokens.dropLast.map Token.symbol, s.Proper := by
      rw [hbody]
      simpa using Cursor.lex_proper (Cursor.start text)
    have hspaced := spelled_spaced proper blank
    rwa [List.map_map, ← String.toList_ofList (l := spaced _ _)] at hspaced
  obtain ⟨⟨last', hlast'⟩, hsymbols⟩ := Cursor.lex_spelled hspelled 0
  have htext' := tokenize_eq_ok.mpr ⟨last', hlast', rfl⟩
  have hsame : tokens.map Token.symbol =
      ((Cursor.start text').lex.1 ++ [last']).map Token.symbol := by
    rw [hbody] at hsymbols
    rw [htokens, List.map_append, List.map_append, List.map_singleton, List.map_singleton,
      Cursor.lex_ends _ hlast, Cursor.lex_ends _ hlast', ← hsymbols]
    rfl
  refine ⟨by rw [hbody, ← hend, htokens], _, htext', hsame, ?_⟩
  have hparallel := parse_parallel h htext' hsame
  generalize parse text = outcome, parse text' = outcome' at hparallel
  cases hparallel with
  | ok heq => exact .inl ⟨_, rfl, congrArg _ heq.symm⟩
  | error hfault =>
    cases hfault with
    | misfit htwin => exact .inr ⟨_, _, rfl, rfl, htwin⟩

/-- A numeral with needless zeros, and an operand that is missing behind it. -/
theorem parse_spaced_zeros :
    let tokens : List Token := [⟨.identifier "f", 0⟩, ⟨.opening, 1⟩, ⟨.integer 7, 2⟩, ⟨.plus, 6⟩,
      ⟨.closing, 7⟩, ⟨.finish, 8⟩]
    tokenize "f(007 +)" = .ok tokens ∧
      (∀ _ : ℕ, [' '] ≠ [] ∧ ∀ c ∈ [' '], Text.isBlank c = true) ∧
      ∃ tokens', tokenize "f ( 7 + )" = .ok tokens' ∧
        tokens.map Token.symbol = tokens'.map Token.symbol ∧
        parse "f(007 +)" = .error (.misfit (.operand .closing 7)) ∧
        parse "f ( 7 + )" = .error (.misfit (.operand .closing 8)) ∧
        SamePlace tokens tokens' 7 8 := by
  intro tokens
  have h : tokenize "f(007 +)" = .ok tokens := by
    with_unfolding_all rfl
  have blank : ∀ _ : ℕ, [' '] ≠ [] ∧ ∀ c ∈ [' '], Text.isBlank c = true :=
    fun _ => ⟨nofun, List.forall_mem_singleton.mpr (by decide)⟩
  have hrefused : parse "f(007 +)" = .error (.misfit (.operand .closing 7)) := by
    with_unfolding_all rfl
  have hrefused' : parse "f ( 7 + )" = .error (.misfit (.operand .closing 8)) := by
    with_unfolding_all rfl
  have hseven : (Symbol.integer 7).text.toList = ['7'] := Numeral.toList_writeInt_natCast 7
  have hwords : tokens.dropLast.map (fun t => t.symbol.text.toList) =
      [['f'], ['('], ['7'], ['+'], [')']] := by
    rw [← hseven]
    rfl
  have htext : String.ofList (spaced (fun _ => [' ']) [['f'], ['('], ['7'], ['+'], [')']]) =
      "f ( 7 + )" := rfl
  obtain ⟨-, tokens', htokens, hsame, hend⟩ := parse_spaced h blank
  rw [hwords, htext] at htokens hend
  refine ⟨h, blank, tokens', htokens, hsame, hrefused, hrefused', ?_⟩
  rcases hend with ⟨e, hread, -⟩ | ⟨m, m', hm, hm', htwin⟩
  · rw [hrefused] at hread
    cases hread
  · rw [hrefused] at hm
    rw [hrefused'] at hm'
    cases hm
    cases hm'
    exact htwin.offset

end Reckoner
