import Reckoner.Proofs.Grammar.Place
import Reckoner.Proofs.TokenStream

/-!
# Parsing

A text is read as an expression exactly when its tokens are derived from the grammar, and the
expression is the tree of the derivation, of which there is only one.
-/
namespace Reckoner

open Grammar

namespace Progress

variable {ending : Except Stray Token} {p q : Progress}

/-- Accepted tokens lead from one state to another and leave the rest to be judged there. -/
theorem verdict_append {ts us : List Token} (h : p.advanceAll ts = .ok q) :
    p.verdict ending (ts ++ us) = q.verdict ending us := by
  induction ts generalizing p with
  | nil =>
    cases h
    rfl
  | cons t ts ih =>
    obtain ⟨m, ht, hts⟩ := advanceAll_cons_ok.mp h
    rw [List.cons_append, verdict_cons ht, ih hts]

theorem verdict_all {ts : List Token} (h : p.advanceAll ts = .ok q) :
    p.verdict ending ts = q.verdict ending [] := by
  rw [← List.append_nil ts, verdict_append h]

theorem verdict_eq_ok {ts : List Token} {e : Expr} :
    p.verdict ending ts = .ok e ↔
      ∃ q last, p.advanceAll ts = .ok q ∧ ending = .ok last ∧ q.finish last = .ok e := by
  induction ts generalizing p with
  | nil =>
    cases ending with
    | error stray => simp [verdict]
    | ok last =>
      cases h : p.finish last with
      | ok e' => simp [verdict_ok h, h]
      | error misfit => simp [verdict_error h, h]
  | cons t ts ih =>
    simp only [advanceAll_cons_ok]
    cases h : p.advance t with
    | error misfit => simp [verdict, h]
    | ok m => simp [verdict_cons h, ih]

end Progress

/-- A text is an expression if and only if its tokens are derived from the grammar. -/
theorem parse_eq_ok {text : String} {e : Expr} :
    parse text = .ok e ↔ (∃ last, (Cursor.start text).lex.2 = .ok last) ∧
      Derives (.expression e) ((Cursor.start text).lex.1.map Token.symbol) := by
  rw [parse_eq, Progress.verdict_eq_ok]
  constructor
  · rintro ⟨p, last, hp, hlast, he⟩
    have h := (Progress.Reached.start.advanceAll hp).finish he
    exact ⟨⟨last, hlast⟩, by simpa using h⟩
  · rintro ⟨⟨last, hlast⟩, h⟩
    obtain ⟨p, hp, he⟩ := h.finish rfl
    exact ⟨p, last, hp, hlast, he last⟩

/-- Draining a text succeeds with its tokens and the end of the text. -/
theorem tokenize_eq_ok {text : String} {ts : List Token} :
    tokenize text = .ok ts ↔
      ∃ last, (Cursor.start text).lex.2 = .ok last ∧ ts = (Cursor.start text).lex.1 ++ [last] := by
  rw [tokenize_eq]
  cases (Cursor.start text).lex.2 <;> simp [Except.map, eq_comm]

theorem tokenize_eq_error {text : String} {stray : Stray} :
    tokenize text = .error stray ↔ (Cursor.start text).lex.2 = .error stray := by
  rw [tokenize_eq]
  cases (Cursor.start text).lex.2 <;> simp [Except.map]

/-- **Parsing is deriving.** A text is read as `e` if and only if it can be split into tokens and
those in front of the end are derived from the grammar with the tree `e`; and symbols have one tree
at most. -/
theorem parse_ok_iff_derives (text : String) :
    (∀ e, parse text = .ok e ↔ ∃ body last, tokenize text = .ok (body ++ [last]) ∧
      last.symbol = .finish ∧ Derives (.expression e) (body.map Token.symbol)) ∧
    ∀ ss e e', Derives (.expression e) ss → Derives (.expression e') ss → e = e' := by
  refine ⟨fun e => ?_, fun ss e e' h h' => h.unique h'⟩
  rw [parse_eq_ok]
  constructor
  · rintro ⟨⟨last, hlast⟩, h⟩
    exact ⟨_, last, tokenize_eq_ok.mpr ⟨last, hlast, rfl⟩, Cursor.lex_ends _ hlast, h⟩
  · rintro ⟨body, last, htokens, -, h⟩
    obtain ⟨last', hlast, heq⟩ := tokenize_eq_ok.mp htokens
    obtain ⟨rfl, -⟩ := List.append_inj' heq rfl
    exact ⟨⟨last', hlast⟩, h⟩

end Reckoner
