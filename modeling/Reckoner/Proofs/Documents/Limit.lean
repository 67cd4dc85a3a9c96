import Reckoner.Json.Reader

/-!
# Integers of too many digits

A reader that bounds the digits of integers does what a reader without a bound does, up to the first
integer that has more of them. So it complains about an integer exactly if the reader without a bound
gets as far as that integer, and takes it (`read_oversized_iff`).
-/
namespace Reckoner.Json

/-- The number of digits of an integer; no other lexeme has digits that count. -/
def Lexeme.digits : Lexeme → Nat
  | .numeral l => if l.isInteger then l.whole.length else 0
  | _ => 0

/-- Reading without a bound takes an integer with `digits` digits, which are more than `limit`, and
takes no such integer before. -/
inductive Overlong (limit digits : Nat) : Reading → List Char → Prop
  | here {r q : Reading} {cs rest : List Char} {l : Lexeme}
      (found : Lexeme.split? (cs.dropWhile Lexeme.isSpace) = some (l, rest))
      (taken : r.step none l = .ok q) (count : l.digits = digits) (long : limit < digits) :
      Overlong limit digits r cs
  | behind {r q : Reading} {cs rest : List Char} {l : Lexeme}
      (found : Lexeme.split? (cs.dropWhile Lexeme.isSpace) = some (l, rest))
      (taken : r.step none l = .ok q) (short : l.digits ≤ limit) (others : Overlong limit digits q rest) :
      Overlong limit digits r cs

namespace Reading

variable {limit most digits : Nat}

/-- A bound only adds a complaint about lexemes that are taken without it. -/
theorem step_limit (limit : Nat) (r : Reading) (l : Lexeme) : r.step (some limit) l =
    match r.step none l with
    | .ok q => if limit < l.digits then .error (.oversized limit l.digits) else .ok q
    | .error refusal => .error refusal := by
  have hbegin : ∀ frames, begin (some limit) frames l =
      match begin none frames l with
      | .ok q => if limit < l.digits then .error (.oversized limit l.digits) else .ok q
      | .error refusal => .error refusal := by
    intro frames
    cases l with
    | numeral l =>
      by_cases integer : l.isInteger = true
      · simp [begin, Lexeme.digits, integer]
      · simp [begin, Lexeme.digits, integer]
    | _ => rfl
  obtain ⟨frames, wanted⟩ := r
  cases wanted with
  | value => exact hbegin frames
  | firstItem =>
    cases l with
    | closeArray => rfl
    | _ => exact hbegin (.array [] :: frames)
  | _ => cases l <;> rfl

/-- Without a bound there are no complaints about integers. -/
theorem step_none_error {r : Reading} {l : Lexeme} {refusal : Refusal}
    (h : r.step none l = .error refusal) : refusal = .malformed := by
  have hbegin : ∀ frames, begin none frames l = .error refusal → refusal = .malformed := by
    intro frames h
    cases l <;> cases h <;> rfl
  obtain ⟨frames, wanted⟩ := r
  cases wanted with
  | value => exact hbegin frames h
  | firstItem =>
    cases l with
    | closeArray => cases h
    | _ => exact hbegin (.array [] :: frames) h
  | _ => cases l <;> cases h <;> rfl

/-- What an overlong integer is behind the next lexeme. -/
theorem overlong_iff {r q : Reading} {cs rest : List Char} {l : Lexeme}
    (found : Lexeme.split? (cs.dropWhile Lexeme.isSpace) = some (l, rest))
    (taken : r.step none l = .ok q) : Overlong limit digits r cs ↔
      if limit < l.digits then l.digits = digits else Overlong limit digits q rest := by
  constructor
  · intro h
    cases h with
    | here found' taken' count long =>
      rw [found] at found'
      cases found'
      rw [if_pos (count ▸ long)]
      exact count
    | behind found' taken' short others =>
      rw [found] at found'
      cases found'
      rw [taken] at taken'
      cases taken'
      rw [if_neg (Nat.not_lt.mpr short)]
      exact others
  · intro h
    split at h
    · rename_i long
      exact .here found taken h (h ▸ long)
    · rename_i short
      exact .behind found taken (Nat.not_lt.mp short) h

/-- Nothing is overlong where reading without a bound does not go on. -/
theorem not_overlong {r : Reading} {cs : List Char}
    (stuck : ∀ l rest, Lexeme.split? (cs.dropWhile Lexeme.isSpace) = some (l, rest) →
      ∀ q, r.step none l ≠ .ok q) : ¬ Overlong limit digits r cs := by
  intro h
  cases h with
  | here found taken => exact stuck _ _ found _ taken
  | behind found taken => exact stuck _ _ found _ taken

/-- A reader with a bound complains about an integer exactly if that integer is overlong. -/
theorem run_oversized_iff (r : Reading) (cs : List Char) :
    r.run (some limit) cs = .error (.oversized most digits) ↔
      most = limit ∧ Overlong limit digits r cs := by
  -- nothing is read where there is no lexeme, be it the end of the text or not
  have hnone : ∀ {r : Reading} {cs : List Char},
      Lexeme.split? (cs.dropWhile Lexeme.isSpace) = none → ¬ Overlong limit digits r cs := by
    intro r cs missing
    refine not_overlong fun l rest found => ?_
    rw [missing] at found
    cases found
  have hend : Lexeme.split? [] = none := rfl
  fun_induction run (some limit) r cs with
  | case1 r cs here ended document =>
    have hnot : ¬ Overlong limit digits r cs :=
      hnone (Eq.trans (congrArg Lexeme.split? ended) hend)
    simp [hnot]
  | case2 r cs here ended =>
    have hnot : ¬ Overlong limit digits r cs :=
      hnone (Eq.trans (congrArg Lexeme.split? ended) hend)
    simp [hnot]
  | case3 r cs here more missing =>
    have hnot : ¬ Overlong limit digits r cs := hnone missing
    simp [hnot]
  | case4 r cs here more l rest found refusal hstep =>
    rw [step_limit] at hstep
    cases htaken : r.step none l with
    | error other =>
      have hnot : ¬ Overlong limit digits r cs := not_overlong fun l' rest' found' q taken => by
        rw [show Lexeme.split? (cs.dropWhile Lexeme.isSpace) = some (l, rest) from found] at found'
        cases found'
        rw [htaken] at taken
        cases taken
      rw [htaken, step_none_error htaken] at hstep
      cases hstep
      simp [hnot]
    | ok q =>
      rw [htaken] at hstep
      rw [overlong_iff found htaken]
      by_cases long : limit < l.digits
      · simp only [if_pos long] at hstep ⊢
        cases hstep
        simp [eq_comm]
      · simp [long] at hstep
  | case5 r cs here more l rest found q hstep ih =>
    rw [step_limit] at hstep
    cases htaken : r.step none l with
    | error other =>
      rw [htaken] at hstep
      cases hstep
    | ok q' =>
      rw [htaken] at hstep
      by_cases long : limit < l.digits
      · simp [long] at hstep
      · simp only [if_neg long] at hstep
        cases hstep
        rw [overlong_iff found htaken, if_neg long]
        exact ih

end Reading

/-- **The reader complains about an integer exactly if it comes to one that is too long**, before
anything else is wrong with the text. -/
theorem read_oversized_iff {limit most digits : Nat} {text : List Char} :
    read (some limit) text = .error (.oversized most digits) ↔
      most = limit ∧ Overlong limit digits ⟨[], .value⟩ text :=
  Reading.run_oversized_iff ..

end Reckoner.Json
