import Reckoner.Expr.Parser

/-!
# The tokens of a text as a list

A cursor hands out one token at a time. `Cursor.lex` is the list of all that it hands out up to the
end of the text or up to the first character that starts no token, and which of the two comes. Both
draining a text and reading an expression from it depend on this list alone: `tokenize_eq` and
`parse_eq`. Reading goes through the list token by token (`Progress.verdict`), with no cursor left.
-/
namespace Reckoner

namespace Cursor

/-- The tokens in front of the end of the text, or of the first character that starts no token; and
the token of the end, or that character. -/
def lex (c : Cursor) : List Token × Except Stray Token :=
  match _drawn : c.next with
  | (.error stray, _) => ([], .error stray)
  | (.ok token, after) =>
    if _more : token.symbol = .finish then ([], .ok token)
    else (token :: after.lex.1, after.lex.2)
termination_by c.rest.length
decreasing_by all_goals exact next_shorter _drawn _more

variable {c after : Cursor} {token : Token} {stray : Stray}

theorem lex_stray (h : c.next = (.error stray, after)) : c.lex = ([], .error stray) := by
  rw [lex]
  split <;> simp_all

theorem lex_finish (h : c.next = (.ok token, after)) (last : token.symbol = .finish) :
    c.lex = ([], .ok token) := by
  rw [lex]
  split <;> simp_all

theorem lex_token (h : c.next = (.ok token, after)) (more : token.symbol ≠ .finish) :
    c.lex = (token :: after.lex.1, after.lex.2) := by
  rw [lex]
  split <;> simp_all

/-- Only the last token is the end of the text. -/
theorem lex_not_finish (c : Cursor) : ∀ t ∈ c.lex.1, t.symbol ≠ .finish := by
  fun_induction lex c with
  | case1 => simp
  | case2 => simp
  | case3 _ _ _ _ more ih =>
    intro t ht
    rcases List.mem_cons.mp ht with rfl | ht
    · exact more
    · exact ih t ht

/-- The last token is the end of the text. -/
theorem lex_ends (c : Cursor) {last : Token} (h : c.lex.2 = .ok last) : last.symbol = .finish := by
  fun_induction lex c with
  | case1 => cases h
  | case2 _ _ _ _ last =>
    cases h
    exact last
  | case3 _ _ _ _ _ ih => exact ih h

theorem drainFrom_eq (drawn : List Token) (c : Cursor) :
    (c.drainFrom drawn).1 = c.lex.2.map (drawn.reverse ++ c.lex.1 ++ [·]) := by
  fun_induction drainFrom drawn c with
  | case1 c drawn stray after h => simp [lex_stray h, Except.map]
  | case2 c drawn token after h last => simp [lex_finish h last, Except.map]
  | case3 c drawn token after h more ih => simp [ih, lex_token h more]

end Cursor

/-- All tokens are drawn if and only if the end is reached. -/
theorem tokenize_eq (text : String) :
    tokenize text = (Cursor.start text).lex.2.map ((Cursor.start text).lex.1 ++ [·]) := by
  simp [tokenize, Cursor.drain, Cursor.drainFrom_eq]

/-- What comes of the tokens that are left and of the way in which they end. -/
def Progress.verdict (ending : Except Stray Token) : Progress → List Token →
    Except SyntaxFault Expr
  | p, [] =>
    match ending with
    | .ok last => (p.finish last).mapError .misfit
    | .error stray => .error (.stray stray)
  | p, t :: ts =>
    match p.advance t with
    | .ok q => verdict ending q ts
    | .error misfit => .error (.misfit misfit)

theorem Progress.verdict_cons {ending : Except Stray Token} {p q : Progress} {t : Token}
    {ts : List Token} (h : p.advance t = .ok q) :
    Progress.verdict ending p (t :: ts) = Progress.verdict ending q ts := by
  simp [verdict, h]

theorem Progress.verdict_ok {p : Progress} {last : Token} {e : Expr} (h : p.finish last = .ok e) :
    Progress.verdict (.ok last) p [] = .ok e := by
  rw [verdict, h]
  rfl

theorem Progress.verdict_error {p : Progress} {last : Token} {misfit : Misfit}
    (h : p.finish last = .error misfit) :
    Progress.verdict (.ok last) p [] = .error (.misfit misfit) := by
  rw [verdict, h]
  rfl

/-- A parser with a token at hand goes through that token and all that are left. -/
theorem Parser.run_eq (progress : Progress) (p : Parser) (c : Cursor) :
    (p.run progress c).1 =
      if p.current.symbol = .finish then (progress.finish p.current).mapError .misfit
      else progress.verdict c.lex.2 (p.current :: c.lex.1) := by
  fun_induction Parser.run progress p c with
  | case1 progress p c last =>
    rw [if_pos last]
    cases progress.finish p.current <;> rfl
  | case2 progress p c more misfit h =>
    rw [if_neg more]
    simp [Progress.verdict, h]
  | case3 progress p c more q h stray after hdrawn =>
    rw [if_neg more]
    simp [Progress.verdict, h, Cursor.lex_stray hdrawn]
  | case4 progress p c more q h token after hdrawn ih =>
    -- the drawn token is at hand now, and the list still holds it unless it is the end
    rw [if_neg more, ih, Progress.verdict_cons h]
    by_cases last : token.symbol = .finish
    · simp [Cursor.lex_finish hdrawn last, Progress.verdict, last]
    · simp [Cursor.lex_token hdrawn last, last]

/-- Reading an expression goes through the tokens of the text. -/
theorem parse_eq (text : String) :
    parse text = Progress.start.verdict (Cursor.start text).lex.2 (Cursor.start text).lex.1 := by
  unfold parse Parser.start
  cases h : (Cursor.start text).next with
  | mk drawn after =>
    cases drawn with
    | error stray => simp [Cursor.lex_stray h, Progress.verdict]
    | ok token =>
      simp only [Parser.parse, Parser.run_eq]
      split
      · rename_i last
        simp [Cursor.lex_finish h last, Progress.verdict]
      · rename_i more
        simp [Cursor.lex_token h more]

end Reckoner
