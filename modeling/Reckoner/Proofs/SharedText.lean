import Reckoner.Proofs.SharedText.Tape
import Reckoner.Session

/-!
# Many readers, one stream

The readers of a session share one cursor. A *recording* is a session that takes down who draws what
from it, and is otherwise the same session (`step_forget`). Whatever is asked of it in whatever
order, the draws of all readers together are the stream of the text, and each parser has the token at
hand that it drew last: every request preserves this, so every run does.
-/
namespace Reckoner

open Tape

/-- A session that keeps a record of all draws. -/
structure Recording where
  /-- The cursor and the draws from it. -/
  tape : Tape
  /-- The iterators, in the order of their creation. -/
  iterators : List TokenIterator
  /-- The parsers, in the order of their creation. -/
  parsers : List Parser

namespace Recording

/-- A session over a text that nobody has read yet. -/
def start (text : String) : Recording :=
  ⟨⟨Cursor.start text, []⟩, [], []⟩

/-- The session without its record. -/
def forget (s : Recording) : Session :=
  ⟨s.tape.cursor, s.iterators, s.parsers⟩

/-- Asks an iterator for its next token. -/
def iterate (s : Recording) (index : Nat) : Answer × Recording :=
  match s.iterators[index]? with
  | none => (.absent, s)
  | some ⟨true⟩ => (.stopped, s)
  | some ⟨false⟩ =>
    match s.tape.next (.iterator index) with
    | (.ok token, after) =>
      (.token token, ⟨after, s.iterators.set index ⟨token.symbol = .finish⟩, s.parsers⟩)
    | (.error stray, after) =>
      (.failed (.stray stray), ⟨after, s.iterators.set index ⟨true⟩, s.parsers⟩)

/-- Asks a parser for something. -/
def consult {α : Type} (s : Recording) (index : Nat) (answer : α → Answer)
    (ask : Parser → Tape → Except SyntaxFault α × Parser × Tape) : Answer × Recording :=
  match s.parsers[index]? with
  | none => (.absent, s)
  | some p =>
    (match (ask p s.tape).1 with
      | .ok a => answer a
      | .error fault => .failed fault,
      ⟨(ask p s.tape).2.2, s.iterators, s.parsers.set index (ask p s.tape).2.1⟩)

/-- Answers one request. -/
def step (s : Recording) : Request → Answer × Recording
  | .draw =>
    match s.tape.next .direct with
    | (.ok token, after) => (.token token, { s with tape := after })
    | (.error stray, after) => (.failed (.stray stray), { s with tape := after })
  | .drain =>
    match s.tape.drainFrom .direct [] with
    | (.ok tokens, after) => (.tokens tokens, { s with tape := after })
    | (.error stray, after) => (.failed (.stray stray), { s with tape := after })
  | .openIterator =>
    (.iterator s.iterators.length, { s with iterators := s.iterators ++ [{}] })
  | .iterate index => s.iterate index
  | .openParser =>
    match s.tape.startParser (.parser s.parsers.length) with
    | (.ok p, after) =>
      (.parser s.parsers.length, { s with tape := after, parsers := s.parsers ++ [p] })
    | (.error stray, after) => (.failed (.stray stray), { s with tape := after })
  | .parse index => s.consult index .expression (Tape.run (.parser index) .start)
  | .eat index kind => s.consult index .token (Tape.eat (.parser index) kind)

/-! ## The record changes nothing -/

theorem iterate_forget (s : Recording) (index : Nat) :
    s.forget.iterate index = ((s.iterate index).1, (s.iterate index).2.forget) := by
  unfold Session.iterate iterate
  cases h : s.iterators[index]? with
  | none => simp [forget, h]
  | some iterator =>
    obtain ⟨finished⟩ := iterator
    cases finished with
    | true => simp [forget, h]
    | false =>
      cases hnext : s.tape.next (.iterator index) with
      | mk outcome after =>
        have hcursor := cursor_next hnext
        cases outcome <;> simp [forget, h, hcursor]

theorem consult_forget {α : Type} (s : Recording) (index : Nat) (answer : α → Answer)
    {ask : Parser → Cursor → Except SyntaxFault α × Parser × Cursor}
    {askTape : Parser → Tape → Except SyntaxFault α × Parser × Tape}
    (h : ∀ p t, ask p t.cursor = ((askTape p t).1, (askTape p t).2.1, (askTape p t).2.2.cursor)) :
    s.forget.consult index answer ask =
      ((s.consult index answer askTape).1, (s.consult index answer askTape).2.forget) := by
  unfold Session.consult consult
  have hcursor : s.forget.cursor = s.tape.cursor := rfl
  have hparsers : s.forget.parsers = s.parsers := rfl
  rw [hparsers]
  cases hp : s.parsers[index]? with
  | none => rfl
  | some p =>
    simp only [hcursor, h]
    rfl

/-- A recording answers as the session does. -/
theorem step_forget (s : Recording) (r : Request) :
    s.forget.step r = ((s.step r).1, (s.step r).2.forget) := by
  cases r with
  | draw =>
    cases h : s.tape.next .direct with
    | mk outcome after =>
      have hcursor := cursor_next h
      cases outcome <;> simp [Session.step, step, forget, h, hcursor]
  | drain =>
    have hdrain : s.tape.cursor.drain = _ := drainFrom_forget .direct [] s.tape
    cases h : s.tape.drainFrom .direct [] with
    | mk outcome after =>
      rw [h] at hdrain
      cases outcome <;> simp [Session.step, step, forget, h, hdrain]
  | openIterator => rfl
  | iterate index => exact s.iterate_forget index
  | openParser =>
    have hstart := startParser_forget (.parser s.parsers.length) s.tape
    cases h : s.tape.startParser (.parser s.parsers.length) with
    | mk outcome after =>
      rw [h] at hstart
      cases outcome <;> simp [Session.step, step, forget, h, hstart]
  | parse index => exact s.consult_forget index _ fun p t => run_forget _ _ p t
  | eat index kind => exact s.consult_forget index _ fun p t => eat_forget _ kind p t

end Recording

/-! ## Parsers and the tokens they have at hand -/

/-- Each parser has the token at hand that it drew last. -/
def Tape.Serves (t : Tape) (parsers : List Parser) : Prop :=
  ∀ index p, parsers[index]? = some p →
    (drawnBy (.parser index) t.record).getLast? = some p.current

namespace Tape.Serves

variable {t t' : Tape} {parsers : List Parser} {new : List Token} {failure : Option Stray}

/-- Readers that are no parsers leave the parsers alone. -/
theorem draws_other {reader : Reader} {os : List (Except Stray Token)} (h : t.Serves parsers)
    (hdraws : Draws reader t os t') (hreader : ∀ index, index < parsers.length →
      reader ≠ .parser index) : t'.Serves parsers := by
  intro index p hp
  have hindex : index < parsers.length := (List.getElem?_eq_some_iff.mp hp).1
  rw [hdraws.drawnBy_other (hreader index hindex)]
  exact h index p hp

/-- What a parser draws is its own, and the last token of it is at hand. -/
theorem draws_own {index : Nat} {p p' : Parser} (h : t.Serves parsers)
    (hp : parsers[index]? = some p) (hdraws : Draws (.parser index) t (outcomes new failure) t')
    (hcurrent : p'.current = new.getLast?.getD p.current) :
    t'.Serves (parsers.set index p') := by
  intro other q hq
  by_cases hother : index = other
  · -- a request that draws nothing leaves the token at hand as it was
    subst hother
    have hindex : index < parsers.length := (List.getElem?_eq_some_iff.mp hp).1
    rw [List.getElem?_set_self hindex] at hq
    obtain rfl := Option.some.inj hq
    rw [hdraws.drawnBy_self, filterMap_outcomes, List.getLast?_append, h index p hp, hcurrent]
    cases new.getLast? <;> rfl
  · rw [List.getElem?_set_ne hother] at hq
    rw [hdraws.drawnBy_other fun heq => hother (Reader.parser.inj heq)]
    exact h other q hq

/-- A new parser has its first token at hand. -/
theorem draws_new {p : Parser} (h : t.Serves parsers)
    (hdraws : Draws (.parser parsers.length) t (outcomes [p.current] none) t') :
    t'.Serves (parsers ++ [p]) := by
  intro index q hq
  have hindex : index < parsers.length + 1 := by
    simpa using (List.getElem?_eq_some_iff.mp hq).1
  rcases Nat.lt_succ_iff_lt_or_eq.mp hindex with hold | rfl
  · rw [List.getElem?_append_left hold] at hq
    have hne : Reader.parser parsers.length ≠ .parser index :=
      fun heq => Nat.ne_of_gt hold (Reader.parser.inj heq)
    rw [hdraws.drawnBy_other hne]
    exact h index q hq
  · obtain rfl : p = q := by simpa using hq
    rw [hdraws.drawnBy_self, filterMap_outcomes, List.getLast?_concat]

end Tape.Serves

/-! ## Requests -/

/-- The stray character that an answer reports. -/
def Answer.stray? : Answer → Option Stray
  | .failed (.stray stray) => some stray
  | _ => none

/-- The tokens that an answer hands out. -/
def Answer.handedOut : Answer → List Token
  | .token t => [t]
  | .tokens ts => ts
  | _ => []

/-- Whether a request is answered with tokens as they are drawn. -/
def Request.isDirect : Request → Bool
  | .draw => true
  | .drain => true
  | .iterate _ => true
  | _ => false

namespace Recording

/-- What holds of a recording at any time. -/
structure Sound (text : String) (s : Recording) : Prop where
  /-- All draws together are the start of the stream of the text. -/
  faithful : s.tape.Faithful text
  /-- Each parser has the token at hand that it drew last. -/
  serves : s.tape.Serves s.parsers

/-- What a request does to a recording. -/
structure Step (s : Recording) (r : Request) (answer : Answer) (s' : Recording) : Prop where
  /-- One reader draws: tokens, and then at most one stray character, which is the answer. The
  tokens of a direct request are the answer as well. -/
  draws : ∃ reader new, Draws reader s.tape (outcomes new answer.stray?) s'.tape ∧
    (r.isDirect = true → answer.stray? = none → answer.handedOut = new)
  /-- The parsers that had the token at hand that they drew last still do. -/
  serves : s.tape.Serves s.parsers → s'.tape.Serves s'.parsers
  /-- A parser that refuses to eat keeps the token at hand. -/
  eat : ∀ index kind fault, r = .eat index kind → answer = .failed fault → s'.parsers = s.parsers

/-- A parser's part in a request. -/
theorem consult_step {α : Type} {s : Recording} {r : Request} {index : Nat} {answer : α → Answer}
    {ask : Parser → Tape → Except SyntaxFault α × Parser × Tape} (hr : r.isDirect = false)
    (hanswer : ∀ a, (answer a).stray? = none ∧ ∀ fault, answer a ≠ .failed fault)
    (hdraws : ∀ p, ∃ new, Draws (.parser index) s.tape (outcomes new (failure? (ask p s.tape).1))
      (ask p s.tape).2.2 ∧ (ask p s.tape).2.1.current = new.getLast?.getD p.current)
    (heat : ∀ i kind, r = .eat i kind → ∀ p fault, (ask p s.tape).1 = .error fault →
      (ask p s.tape).2.1 = p) :
    Step s r (s.consult index answer ask).1 (s.consult index answer ask).2 := by
  unfold consult
  cases hp : s.parsers[index]? with
  | none =>
    exact ⟨⟨.direct, [], .none s.tape, by simp [hr]⟩, id, fun _ _ _ _ _ => rfl⟩
  | some p =>
    obtain ⟨new, hnew, hcurrent⟩ := hdraws p
    refine ⟨⟨.parser index, new, ?_, by simp [hr]⟩,
      fun h => h.draws_own hp hnew hcurrent, fun i kind fault heq hfailed => ?_⟩
    · -- what an answer reports as stray is what the last draw has met
      have hstray : (match (ask p s.tape).1 with
          | .ok a => answer a
          | .error fault => .failed fault).stray? = failure? (ask p s.tape).1 := by
        cases (ask p s.tape).1 with
        | ok a => exact (hanswer a).1
        | error fault => cases fault <;> rfl
      dsimp only
      rw [hstray]
      exact hnew
    · dsimp only at hfailed ⊢
      cases hresult : (ask p s.tape).1 with
      | ok a =>
        rw [hresult] at hfailed
        exact absurd hfailed ((hanswer a).2 fault)
      | error fault' =>
        rw [heat i kind heq p fault' hresult]
        obtain ⟨hindex, rfl⟩ := List.getElem?_eq_some_iff.mp hp
        exact List.set_getElem_self hindex

/-- A request that no parser takes part in. -/
theorem Step.of_draws {s s' : Recording} {r : Request} {answer : Answer} (reader : Reader)
    (new : List Token) (hdraws : Draws reader s.tape (outcomes new answer.stray?) s'.tape)
    (hanswer : answer.stray? = none → answer.handedOut = new) (hparsers : s'.parsers = s.parsers)
    (hreader : ∀ index, reader ≠ .parser index) : Step s r answer s' where
  draws := ⟨reader, new, hdraws, fun _ => hanswer⟩
  serves h := hparsers ▸ h.draws_other hdraws fun index _ => hreader index
  eat _ _ _ _ _ := hparsers

/-- An iterator's part in a request. A finished one does not draw. -/
theorem iterate_step (s : Recording) (index : Nat) :
    Step s (.iterate index) (s.iterate index).1 (s.iterate index).2 := by
  have hidle : ∀ answer : Answer, answer.stray? = none → answer.handedOut = [] →
      Step s (.iterate index) answer s := by
    intro answer hstray hnone
    refine .of_draws .direct [] ?_ (fun _ => hnone) rfl nofun
    rw [hstray]
    exact .none s.tape
  unfold iterate
  cases s.iterators[index]? with
  | none => exact hidle .absent rfl rfl
  | some iterator =>
    obtain ⟨finished⟩ := iterator
    cases finished with
    | true => exact hidle .stopped rfl rfl
    | false =>
      cases h : s.tape.next (.iterator index) with
      | mk outcome after =>
        cases outcome with
        | error stray => exact .of_draws _ _ (.of_stray h) nofun rfl nofun
        | ok token => exact .of_draws _ _ (.of_token h (.none after)) (fun _ => rfl) rfl nofun

/-- Every request is answered by draws of one reader. -/
theorem step_spec (s : Recording) (r : Request) : Step s r (s.step r).1 (s.step r).2 := by
  cases r with
  | draw =>
    unfold step
    cases h : s.tape.next .direct with
    | mk outcome after =>
      cases outcome with
      | error stray => exact .of_draws _ _ (.of_stray h) nofun rfl nofun
      | ok token => exact .of_draws _ _ (.of_token h (.none after)) (fun _ => rfl) rfl nofun
  | drain =>
    obtain ⟨new, failure, hdraws, hresult⟩ := drainFrom_draws .direct [] s.tape
    unfold step
    cases h : s.tape.drainFrom .direct [] with
    | mk outcome after =>
      rw [h] at hdraws hresult
      dsimp only at hresult
      subst hresult
      cases failure with
      | some stray => exact .of_draws _ _ hdraws nofun rfl nofun
      | none => exact .of_draws _ _ hdraws (fun _ => rfl) rfl nofun
  | openIterator => exact .of_draws .direct [] (.none s.tape) (fun _ => rfl) rfl nofun
  | iterate index => exact s.iterate_step index
  | openParser =>
    obtain ⟨new, failure, hdraws, hresult⟩ :=
      startParser_draws (.parser s.parsers.length) s.tape
    unfold step
    cases h : s.tape.startParser (.parser s.parsers.length) with
    | mk outcome after =>
      rw [h] at hdraws hresult
      cases outcome with
      | error stray =>
        -- no parser comes of it, and no other parser has drawn
        obtain ⟨rfl, rfl⟩ := hresult
        refine ⟨⟨_, [], hdraws, nofun⟩, fun hserves => ?_, nofun⟩
        refine hserves.draws_other hdraws fun index hindex heq => ?_
        exact Nat.ne_of_gt hindex (Reader.parser.inj heq)
      | ok p =>
        obtain ⟨rfl, rfl⟩ := hresult
        exact ⟨⟨_, [p.current], hdraws, nofun⟩, fun hserves => hserves.draws_new hdraws, nofun⟩
  | parse index =>
    exact consult_step rfl (fun _ => ⟨rfl, nofun⟩) (fun p => run_draws _ _ p s.tape) nofun
  | eat index kind =>
    refine consult_step rfl (fun _ => ⟨rfl, nofun⟩) (fun p => ?_) (fun _ _ _ p fault h => ?_)
    · obtain ⟨new, hdraws, hcurrent, -⟩ := eat_draws (.parser index) kind p s.tape
      exact ⟨new, hdraws, hcurrent⟩
    · obtain ⟨_, -, -, hkeeps⟩ := eat_draws (.parser index) kind p s.tape
      exact hkeeps fault h

/-! ## Runs -/

variable {text : String} {s s' : Recording} {r : Request} {answer : Answer}

theorem Step.forward (h : Step s r answer s') : s.tape.cursor.offset ≤ s'.tape.cursor.offset := by
  obtain ⟨reader, new, hdraws, -⟩ := h.draws
  exact hdraws.offset_le

theorem Sound.start (text : String) : (start text).Sound text :=
  ⟨.start text, nofun⟩

/-- Every request keeps a recording sound. -/
theorem Sound.step (h : s.Sound text) (hstep : Step s r answer s') : s'.Sound text := by
  obtain ⟨reader, new, hdraws, -⟩ := hstep.draws
  exact ⟨h.faithful.draws hdraws, hstep.serves h.serves⟩

theorem Sound.offset_le (h : s.Sound text) : s.tape.cursor.offset ≤ text.length := by
  have hplace := h.faithful.place
  omega

/-- Answers requests one after the other. -/
def run : Recording → List Request → List Answer × Recording
  | s, [] => ([], s)
  | s, r :: rs => ((s.step r).1 :: ((s.step r).2.run rs).1, ((s.step r).2.run rs).2)

/-- Every run keeps a recording sound. -/
theorem Sound.run (h : s.Sound text) (requests : List Request) : (s.run requests).2.Sound text := by
  induction requests generalizing s with
  | nil => exact h
  | cons r rs ih => exact ih (h.step (s.step_spec r))

end Recording

/-- Answers requests one after the other. -/
def Session.run : Session → List Request → List Answer × Session
  | s, [] => ([], s)
  | s, r :: rs => ((s.step r).1 :: ((s.step r).2.run rs).1, ((s.step r).2.run rs).2)

theorem Recording.run_forget (s : Recording) (requests : List Request) :
    s.forget.run requests = ((s.run requests).1, (s.run requests).2.forget) := by
  induction requests generalizing s with
  | nil => rfl
  | cons r rs ih => rw [Session.run, s.step_forget r, ih, run]

/-- **One stream for all readers.** A session answers as its recording does. At any time the draws of
all readers together are the start of the stream of the text, and each parser has the token at hand
that it drew last; each request goes forward, within the text, and is answered by what it draws.
In the stream nothing follows a stray character or the end but the same again. -/
theorem session_one_stream (text : String) (requests : List Request) :
    let recording := ((Recording.start text).run requests).2
    let session := ((Session.start text).run requests).2
    (Session.start text).run requests =
      (((Recording.start text).run requests).1, recording.forget) ∧
    recording.Sound text ∧
    (∀ r, recording.Step r (session.step r).1 (recording.step r).2) ∧
    (∀ r, session.cursor.offset ≤ (session.step r).2.cursor.offset ∧
      (session.step r).2.cursor.offset ≤ text.length) ∧
    (∀ i j stray, i ≤ j → (Cursor.start text).stream i = .error stray →
      (Cursor.start text).stream j = .error stray) ∧
    ∀ i j token, i ≤ j → token.symbol = .finish → (Cursor.start text).stream i = .ok token →
      (Cursor.start text).stream j = .ok token := by
  intro recording session
  have hforget := (Recording.start text).run_forget requests
  have hsession : session = recording.forget := congrArg Prod.snd hforget
  have hsound : recording.Sound text := (Recording.Sound.start text).run requests
  have hstep : ∀ r, recording.Step r (session.step r).1 (recording.step r).2 := by
    intro r
    rw [hsession, recording.step_forget r]
    exact recording.step_spec r
  refine ⟨hforget, hsound, hstep, fun r => ?_, ?_, ?_⟩
  · rw [hsession, recording.step_forget r]
    exact ⟨(hstep r).forward, (hsound.step (hstep r)).offset_le⟩
  · exact fun i j stray hij h => Cursor.stream_stray_after h hij
  · exact fun i j token hij last h => Cursor.stream_finish_after h last hij

/-- A parser meets a stray character behind a parenthesis, keeps the parenthesis, and the next draw
meets the same character. -/
theorem session_one_stream_stray :
    1 ≤ 2 ∧ (Cursor.start "(?").stream 1 = .error ⟨'?', 1⟩ ∧
    (Cursor.start "(?").stream 2 = .error ⟨'?', 1⟩ ∧
    ((Session.start "(?").run [.openParser, .eat 0 .opening, .draw]).2.parsers =
      [⟨⟨.opening, 0⟩⟩] := by
  have hstray : (Cursor.start "(?").stream 1 = .error ⟨'?', 1⟩ := rfl
  have hall := session_one_stream "(?" [.openParser, .eat 0 .opening, .draw]
  exact ⟨by decide, hstray, hall.2.2.2.2.1 1 2 _ (by decide) hstray, rfl⟩

end Reckoner
