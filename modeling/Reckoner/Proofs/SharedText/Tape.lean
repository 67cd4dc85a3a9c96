import Reckoner.Proofs.Lexing

/-!
# Draws and their record

What a cursor hands out one draw after the other is the stream of its text: tokens, and then the end
or a stray character forever. A *tape* is a cursor with a record of all draws: who drew, what came of
it, and where the cursor stood afterwards. Draining and parsing are stated over a tape as they are
over a cursor; without the record nothing changes (`drainFrom_forget`, `run_forget`, `eat_forget`).
-/
namespace Reckoner

namespace Cursor

variable {c after : Cursor} {token : Token} {stray : Stray}

theorem skipBlanks_skipBlanks (c : Cursor) : c.skipBlanks.skipBlanks = c.skipBlanks := by
  have hstart : ∀ d ∈ c.skipBlanks.rest.head?, Text.isBlank d = false :=
    Lexeme.head?_of_dropWhile rfl
  exact @skipBlanks_gap [] c.skipBlanks.rest (List.forall_mem_nil _) hstart c.skipBlanks.offset

/-- A stray character is met again and again. -/
theorem next_stray_again (h : c.next = (.error stray, after)) :
    after.next = (.error stray, after) := by
  obtain rfl := next_stray h
  rwa [next, skipBlanks_skipBlanks]

/-- The end is handed out again and again. -/
theorem next_finish_again (h : c.next = (.ok token, after)) (last : token.symbol = .finish) :
    after.next = (.ok token, after) := by
  obtain ⟨-, -, rfl⟩ := next_finish h last
  obtain ⟨symbol, offset⟩ := token
  subst last
  rfl

/-- No draw goes back. -/
theorem offset_le_next (c : Cursor) : c.offset ≤ c.next.2.offset := by
  cases h : c.next with
  | mk outcome after =>
    cases outcome with
    | error stray =>
      rw [next_stray h]
      exact Nat.le_add_right ..
    | ok token =>
      obtain ⟨blanks, lexeme, -, -, htoken, hafter, -⟩ := next_ok h
      show c.offset ≤ after.offset
      omega

/-- What the draws from a cursor give, one after the other. -/
def stream : Cursor → Nat → Except Stray Token
  | c, 0 => c.next.1
  | c, i + 1 => c.next.2.stream i

theorem stream_stray (h : c.next = (.error stray, c)) (i : Nat) : c.stream i = .error stray := by
  induction i with
  | zero => rw [stream, h]
  | succ i ih => rw [stream, h, ih]

theorem stream_finish (h : c.next = (.ok token, c)) (i : Nat) : c.stream i = .ok token := by
  induction i with
  | zero => rw [stream, h]
  | succ i ih => rw [stream, h, ih]

/-- The stream consists of the tokens in front of the end or of the first stray character, and of
that forever. -/
theorem stream_eq (c : Cursor) (i : Nat) :
    c.stream i = match c.lex.1[i]? with
      | some token => .ok token
      | none => c.lex.2 := by
  induction i generalizing c with
  | zero =>
    cases h : c.next with
    | mk outcome after =>
      cases outcome with
      | error stray => rw [stream, h, lex_stray h]; rfl
      | ok token =>
        by_cases last : token.symbol = .finish
        · rw [stream, h, lex_finish h last]; rfl
        · rw [stream, h, lex_token h last]; rfl
  | succ i ih =>
    -- behind a stray character and behind the end the list is over, and the stream repeats itself
    cases h : c.next with
    | mk outcome after =>
      cases outcome with
      | error stray => rw [stream, h, stream_stray (next_stray_again h), lex_stray h]; rfl
      | ok token =>
        by_cases last : token.symbol = .finish
        · rw [stream, h, stream_finish (next_finish_again h last), lex_finish h last]; rfl
        · rw [stream, h, lex_token h last, ih]; rfl

/-- Behind a stray character nothing else comes. -/
theorem stream_stray_after {i j : Nat} (h : c.stream i = .error stray) (hij : i ≤ j) :
    c.stream j = .error stray := by
  rw [stream_eq] at h ⊢
  cases hi : c.lex.1[i]? with
  | some token =>
    rw [hi] at h
    cases h
  | none =>
    rw [hi] at h
    have hj : c.lex.1[j]? = none :=
      List.getElem?_eq_none (Nat.le_trans (List.getElem?_eq_none_iff.mp hi) hij)
    rw [hj]
    exact h

/-- Behind the end nothing else comes. -/
theorem stream_finish_after {i j : Nat} (h : c.stream i = .ok token)
    (last : token.symbol = .finish) (hij : i ≤ j) : c.stream j = .ok token := by
  rw [stream_eq] at h ⊢
  cases hi : c.lex.1[i]? with
  | some token' =>
    rw [hi] at h
    cases h
    exact absurd last (lex_not_finish c token (List.mem_of_getElem? hi))
  | none =>
    rw [hi] at h
    have hj : c.lex.1[j]? = none :=
      List.getElem?_eq_none (Nat.le_trans (List.getElem?_eq_none_iff.mp hi) hij)
    rw [hj]
    exact h

end Cursor

/-! ## Draining and parsing, draw by draw -/

namespace Cursor

variable {c after : Cursor} {token : Token} {stray : Stray} {drawn : List Token}

theorem drainFrom_stray (h : c.next = (.error stray, after)) :
    c.drainFrom drawn = (.error stray, after) := by
  rw [drainFrom]
  split <;> simp_all

theorem drainFrom_finish (h : c.next = (.ok token, after)) (last : token.symbol = .finish) :
    c.drainFrom drawn = (.ok (token :: drawn).reverse, after) := by
  rw [drainFrom]
  split <;> simp_all

theorem drainFrom_token (h : c.next = (.ok token, after)) (more : token.symbol ≠ .finish) :
    c.drainFrom drawn = after.drainFrom (token :: drawn) := by
  rw [drainFrom]
  split <;> simp_all

end Cursor

namespace Parser

variable {progress q : Progress} {p : Parser} {c after : Cursor} {token : Token} {stray : Stray}

theorem run_stray (more : p.current.symbol ≠ .finish) (h : progress.advance p.current = .ok q)
    (hdrawn : c.next = (.error stray, after)) :
    p.run progress c = (.error (.stray stray), p, after) := by
  rw [run, dif_neg more]
  simp only [h]
  split <;> simp_all

theorem run_token (more : p.current.symbol ≠ .finish) (h : progress.advance p.current = .ok q)
    (hdrawn : c.next = (.ok token, after)) :
    p.run progress c = Parser.run q ⟨token⟩ after := by
  rw [run, dif_neg more]
  simp only [h]
  split <;> simp_all

end Parser

/-! ## Tapes -/

/-- Who draws from a cursor. -/
inductive Reader where
  /-- Nobody but the one who asks. -/
  | direct
  /-- An iterator. -/
  | iterator (index : Nat)
  /-- A parser. -/
  | parser (index : Nat)
  deriving DecidableEq

/-- One draw. -/
structure Draw where
  /-- Who drew. -/
  reader : Reader
  /-- What came of it. -/
  outcome : Except Stray Token
  /-- Where the cursor stood afterwards. -/
  position : Nat

/-- A cursor and all draws from it, in order. -/
structure Tape where
  /-- The place. -/
  cursor : Cursor
  /-- The draws. -/
  record : List Draw

namespace Tape

/-- Draws a token for a reader and takes it down. -/
def next (reader : Reader) (t : Tape) : Except Stray Token × Tape :=
  (t.cursor.next.1,
    ⟨t.cursor.next.2, t.record ++ [⟨reader, t.cursor.next.1, t.cursor.next.2.offset⟩]⟩)

variable {reader : Reader} {t after : Tape} {token : Token} {stray : Stray}

theorem cursor_next {outcome : Except Stray Token} (h : t.next reader = (outcome, after)) :
    t.cursor.next = (outcome, after.cursor) := by
  cases h
  rfl

/-- Draws tokens up to the end, as a cursor does. -/
def drainFrom (reader : Reader) (drawn : List Token) (t : Tape) :
    Except Stray (List Token) × Tape :=
  match _drawn : t.next reader with
  | (.error stray, after) => (.error stray, after)
  | (.ok token, after) =>
    if _more : token.symbol = .finish then (.ok (token :: drawn).reverse, after)
    else drainFrom reader (token :: drawn) after
termination_by t.cursor.rest.length
decreasing_by exact Cursor.next_shorter (cursor_next _drawn) _more

/-- A parser that draws its first token. -/
def startParser (reader : Reader) (t : Tape) : Except Stray Parser × Tape :=
  match t.next reader with
  | (.ok token, after) => (.ok ⟨token⟩, after)
  | (.error stray, after) => (.error stray, after)

/-- Goes on to the end of the text, as a parser does with a cursor. -/
def run (reader : Reader) (progress : Progress) (p : Parser) (t : Tape) :
    Except SyntaxFault Expr × Parser × Tape :=
  if _more : p.current.symbol = .finish then
    (match progress.finish p.current with
      | .ok e => .ok e
      | .error misfit => .error (.misfit misfit), p, t)
  else
    match progress.advance p.current with
    | .error misfit => (.error (.misfit misfit), p, t)
    | .ok progress =>
      match _drawn : t.next reader with
      | (.error stray, after) => (.error (.stray stray), p, after)
      | (.ok token, after) => run reader progress ⟨token⟩ after
termination_by t.cursor.rest.length + if p.current.symbol = .finish then 0 else 1
decreasing_by
  rw [if_neg _more]
  by_cases last : token.symbol = .finish
  · rw [if_pos last]
    exact Nat.lt_succ_of_le (Cursor.length_next_le (cursor_next _drawn))
  · rw [if_neg last]
    exact Nat.succ_lt_succ (Cursor.next_shorter (cursor_next _drawn) last)

/-- Hands out the token at hand of a parser if it is of a given kind, and draws the next one. -/
def eat (reader : Reader) (kind : Kind) (p : Parser) (t : Tape) :
    Except SyntaxFault Token × Parser × Tape :=
  if p.current.kind = kind then
    match t.next reader with
    | (.ok token, after) => (.ok p.current, ⟨token⟩, after)
    | (.error stray, after) => (.error (.stray stray), p, after)
  else (.error (.misfit (.kind kind p.current.kind p.current.offset)), p, t)

/-! ## The record changes nothing -/

theorem drainFrom_forget (reader : Reader) (drawn : List Token) (t : Tape) :
    t.cursor.drainFrom drawn =
      ((t.drainFrom reader drawn).1, (t.drainFrom reader drawn).2.cursor) := by
  fun_induction drainFrom reader drawn t with
  | case1 drawn t stray after h => rw [Cursor.drainFrom_stray (cursor_next h)]
  | case2 drawn t token after h last => rw [Cursor.drainFrom_finish (cursor_next h) last]
  | case3 drawn t token after h more ih => rw [Cursor.drainFrom_token (cursor_next h) more, ih]

theorem startParser_forget (reader : Reader) (t : Tape) :
    Parser.start t.cursor = ((t.startParser reader).1, (t.startParser reader).2.cursor) := by
  unfold startParser Parser.start
  cases h : t.next reader with
  | mk outcome after =>
    rw [cursor_next h]
    cases outcome <;> rfl

theorem run_forget (reader : Reader) (progress : Progress) (p : Parser) (t : Tape) :
    p.run progress t.cursor = ((t.run reader progress p).1, (t.run reader progress p).2.1,
      (t.run reader progress p).2.2.cursor) := by
  fun_induction run reader progress p t with
  | case1 progress p t last =>
    rw [Parser.run]
    split
    · cases progress.finish p.current <;> rfl
    · contradiction
  | case2 progress p t more misfit h =>
    rw [Parser.run, dif_neg more]
    simp only [h]
  | case3 progress p t more q h stray after hdrawn =>
    rw [Parser.run_stray more h (cursor_next hdrawn)]
  | case4 progress p t more q h token after hdrawn ih =>
    rw [Parser.run_token more h (cursor_next hdrawn), ih]

theorem eat_forget (reader : Reader) (kind : Kind) (p : Parser) (t : Tape) :
    p.eat kind t.cursor = ((t.eat reader kind p).1, (t.eat reader kind p).2.1,
      (t.eat reader kind p).2.2.cursor) := by
  unfold eat Parser.eat
  by_cases hkind : p.current.kind = kind
  · rw [if_pos hkind, if_pos hkind]
    cases h : t.next reader with
    | mk outcome after =>
      rw [cursor_next h]
      cases outcome <;> rfl
  · rw [if_neg hkind, if_neg hkind]

/-! ## What is drawn -/

/-- A reader draws from a tape, one outcome after the other. -/
inductive Draws (reader : Reader) : Tape → List (Except Stray Token) → Tape → Prop
  | none (t : Tape) : Draws reader t [] t
  | next {t t' : Tape} {os : List (Except Stray Token)}
      (others : Draws reader (t.next reader).2 os t') : Draws reader t ((t.next reader).1 :: os) t'

/-- What every draw keeps, several draws keep. -/
theorem Draws.preserves {motive : Tape → Prop} {t' : Tape} {os : List (Except Stray Token)}
    (step : ∀ t reader, motive t → motive (t.next reader).2) (h : Draws reader t os t')
    (start : motive t) : motive t' := by
  induction h with
  | none => exact start
  | next _ ih => exact ih (step _ _ start)

/-- Draws that give some tokens and then fail, if they fail at all. -/
def outcomes (new : List Token) (failure : Option Stray) : List (Except Stray Token) :=
  new.map .ok ++ failure.toList.map .error

theorem Draws.of_stray (h : t.next reader = (.error stray, after)) :
    Draws reader t (outcomes [] (some stray)) after := by
  have hdraws := Draws.next (.none (t.next reader).2)
  rwa [h] at hdraws

theorem Draws.of_token {t' : Tape} {new : List Token} {failure : Option Stray}
    (h : t.next reader = (.ok token, after)) (others : Draws reader after (outcomes new failure) t') :
    Draws reader t (outcomes (token :: new) failure) t' := by
  have hafter : (t.next reader).2 = after := congrArg Prod.snd h
  have hdraws := Draws.next (hafter ▸ others)
  rwa [h] at hdraws

/-- The failure of a draw that an answer passes on. -/
def failure? {α : Type} : Except SyntaxFault α → Option Stray
  | .error (.stray stray) => some stray
  | _ => none

/-- Draining gives the tokens that it draws, or fails as the last draw does. -/
theorem drainFrom_draws (reader : Reader) (drawn : List Token) (t : Tape) :
    ∃ new failure, Draws reader t (outcomes new failure) (t.drainFrom reader drawn).2 ∧
      (t.drainFrom reader drawn).1 = match failure with
        | some stray => .error stray
        | none => .ok (drawn.reverse ++ new) := by
  fun_induction drainFrom reader drawn t with
  | case1 drawn t stray after h => exact ⟨[], some stray, .of_stray h, rfl⟩
  | case2 drawn t token after h last =>
    exact ⟨[token], none, .of_token h (.none after), by simp⟩
  | case3 drawn t token after h more ih =>
    obtain ⟨new, failure, hdraws, hresult⟩ := ih
    refine ⟨token :: new, failure, .of_token h hdraws, ?_⟩
    rw [hresult]
    cases failure <;> simp

/-- A new parser has drawn the token that it has at hand. -/
theorem startParser_draws (reader : Reader) (t : Tape) :
    ∃ new failure, Draws reader t (outcomes new failure) (t.startParser reader).2 ∧
      match (t.startParser reader).1 with
      | .ok p => new = [p.current] ∧ failure = none
      | .error stray => new = [] ∧ failure = some stray := by
  unfold startParser
  cases h : t.next reader with
  | mk outcome after =>
    cases outcome with
    | error stray => exact ⟨[], some stray, .of_stray h, rfl, rfl⟩
    | ok token => exact ⟨[token], none, .of_token h (.none after), rfl, rfl⟩

/-- While it parses, a parser has the last token at hand that it has drawn. -/
theorem run_draws (reader : Reader) (progress : Progress) (p : Parser) (t : Tape) :
    ∃ new, Draws reader t (outcomes new (failure? (t.run reader progress p).1))
        (t.run reader progress p).2.2 ∧
      (t.run reader progress p).2.1.current = new.getLast?.getD p.current := by
  fun_induction run reader progress p t with
  | case1 progress p t last =>
    refine ⟨[], ?_, rfl⟩
    cases progress.finish p.current <;> exact .none t
  | case2 progress p t more misfit h => exact ⟨[], .none t, rfl⟩
  | case3 progress p t more q h stray after hdrawn => exact ⟨[], .of_stray hdrawn, rfl⟩
  | case4 progress p t more q h token after hdrawn ih =>
    -- the token is at hand from here on, unless the rest of the run draws another one
    obtain ⟨new, hdraws, hcurrent⟩ := ih
    refine ⟨token :: new, .of_token hdrawn hdraws, ?_⟩
    rw [hcurrent, List.getLast?_cons]
    rfl

/-- Eating draws one token, or none and leaves the token at hand in its place. -/
theorem eat_draws (reader : Reader) (kind : Kind) (p : Parser) (t : Tape) :
    ∃ new, Draws reader t (outcomes new (failure? (t.eat reader kind p).1))
        (t.eat reader kind p).2.2 ∧
      (t.eat reader kind p).2.1.current = new.getLast?.getD p.current ∧
      ∀ fault, (t.eat reader kind p).1 = .error fault → (t.eat reader kind p).2.1 = p := by
  unfold eat
  by_cases hkind : p.current.kind = kind
  · rw [if_pos hkind]
    cases h : t.next reader with
    | mk outcome after =>
      cases outcome with
      | error stray => exact ⟨[], .of_stray h, rfl, fun _ _ => rfl⟩
      | ok token => exact ⟨[token], .of_token h (.none after), rfl, nofun⟩
  · rw [if_neg hkind]
    exact ⟨[], .none t, rfl, fun _ _ => rfl⟩

/-! ## What draws leave -/

/-- The tokens that a reader has drawn. -/
def drawnBy (reader : Reader) (record : List Draw) : List Token :=
  record.filterMap fun d => if d.reader = reader then d.outcome.toOption else none

theorem filterMap_outcomes (new : List Token) (failure : Option Stray) :
    (outcomes new failure).filterMap Except.toOption = new := by
  rw [outcomes, List.filterMap_append, List.filterMap_map]
  cases failure <;> simp [Function.comp_def, Except.toOption]

theorem drawnBy_next (reader other : Reader) (t : Tape) :
    drawnBy other (t.next reader).2.record =
      drawnBy other t.record ++ if reader = other then t.cursor.next.1.toOption.toList else [] := by
  by_cases h : reader = other
  · cases ho : t.cursor.next.1 <;> simp [drawnBy, next, h, ho, Except.toOption]
  · simp [drawnBy, next, h]

/-- Draws add to the tokens of their reader. -/
theorem Draws.drawnBy_self {t t' : Tape} {os : List (Except Stray Token)}
    (h : Draws reader t os t') :
    drawnBy reader t'.record = drawnBy reader t.record ++ os.filterMap Except.toOption := by
  induction h with
  | none => simp
  | @next t _ os others ih =>
    have hfirst : (t.next reader).1 = t.cursor.next.1 := rfl
    rw [ih, drawnBy_next, if_pos rfl, hfirst, List.append_assoc]
    cases t.cursor.next.1 <;> rfl

/-- Draws add nothing to the tokens of other readers. -/
theorem Draws.drawnBy_other {t t' : Tape} {os : List (Except Stray Token)} {other : Reader}
    (h : Draws reader t os t') (hother : reader ≠ other) :
    drawnBy other t'.record = drawnBy other t.record := by
  induction h with
  | none => rfl
  | next others ih => rw [ih, drawnBy_next, if_neg hother, List.append_nil]

/-- The draws so far are the start of the stream of a text, and what is to come is the rest. -/
structure Faithful (text : String) (t : Tape) : Prop where
  /-- Every draw gave what was next in the stream. -/
  outcomes : t.record.map Draw.outcome =
    (List.range t.record.length).map (Cursor.start text).stream
  /-- What is to come is what the draws so far have left of the stream. -/
  rest : ∀ i, t.cursor.stream i = (Cursor.start text).stream (t.record.length + i)
  /-- The cursor stands in the text. -/
  place : t.cursor.offset + t.cursor.rest.length = text.length
  /-- The cursor has only moved forward. -/
  ascending : (t.record.map Draw.position).Pairwise (· ≤ ·)
  /-- No draw has left the cursor behind the place where it stands. -/
  reached : ∀ d ∈ t.record, d.position ≤ t.cursor.offset

theorem Faithful.start (text : String) : Faithful text ⟨Cursor.start text, []⟩ where
  outcomes := rfl
  rest i := by rw [List.length_nil, Nat.zero_add]
  place := by rw [Cursor.start, Nat.zero_add, String.length_toList]
  ascending := .nil
  reached := nofun

theorem Faithful.next {text : String} (h : t.Faithful text) (reader : Reader) :
    (t.next reader).2.Faithful text where
  outcomes := by
    have hfirst : t.cursor.next.1 = (Cursor.start text).stream t.record.length := h.rest 0
    simp [Tape.next, List.range_succ, h.outcomes, hfirst]
  rest i := by
    have hrest : t.cursor.next.2.stream i = (Cursor.start text).stream (t.record.length + (i + 1)) :=
      h.rest (i + 1)
    rw [Tape.next, List.length_append, hrest, Nat.add_comm i 1, ← Nat.add_assoc]
    rfl
  place := by
    rw [← h.place]
    exact t.cursor.length_next
  ascending := by
    rw [Tape.next, List.map_append, List.pairwise_append]
    refine ⟨h.ascending, List.pairwise_singleton .., ?_⟩
    intro m hm n hn
    obtain ⟨d, hd, rfl⟩ := List.mem_map.mp hm
    obtain rfl : n = t.cursor.next.2.offset := by simpa using hn
    exact Nat.le_trans (h.reached d hd) t.cursor.offset_le_next
  reached d hd := by
    rcases List.mem_append.mp hd with hd | hd
    · exact Nat.le_trans (h.reached d hd) t.cursor.offset_le_next
    · obtain rfl := List.mem_singleton.mp hd
      exact Nat.le_refl _

/-- Whoever draws, the draws stay the start of the stream. -/
theorem Faithful.draws {text : String} {t t' : Tape} {os : List (Except Stray Token)}
    (h : t.Faithful text) (hdraws : Draws reader t os t') : t'.Faithful text :=
  hdraws.preserves (fun _ reader h => h.next reader) h

/-- Draws do not go back. -/
theorem Draws.offset_le {t t' : Tape} {os : List (Except Stray Token)} (h : Draws reader t os t') :
    t.cursor.offset ≤ t'.cursor.offset := by
  induction h with
  | none => exact Nat.le_refl _
  | @next t _ _ others ih => exact Nat.le_trans t.cursor.offset_le_next ih

end Tape
end Reckoner
