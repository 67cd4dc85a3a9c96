import Reckoner.Proofs.Concatenation
import Reckoner.Proofs.SharedText

/-!
# The first foreign character

A text can be split into tokens if and only if no character of it is foreign. Otherwise the first
foreign one is reported, be it behind a blank, a mark or a word: the text in front of it can be split
(`Cursor.lex_native`), and no word runs into it. Whoever reads the text, once a draw has failed the
cursor stands in front of that character, and all that has been handed out are the tokens of the text
in front of it.
-/
namespace Reckoner

/-- A foreign character of a text and its place, with no foreign character in front of it. -/
structure IsFirstForeign (cs : List Char) (stray : Stray) : Prop where
  /-- The character stands at the place. -/
  stands : cs[stray.offset]? = some stray.character
  /-- It is foreign. -/
  foreign : isForeign stray.character = true
  /-- No character in front of it is. -/
  first : ∀ c ∈ cs.take stray.offset, isForeign c = false

/-- The text in front of a place. -/
def front (text : String) (place : Nat) : String :=
  String.ofList (text.toList.take place)

theorem exists_isFirstForeign {cs : List Char} (h : ∃ c ∈ cs, isForeign c = true) :
    ∃ stray, IsFirstForeign cs stray := by
  induction cs with
  | nil => simp at h
  | cons c cs ih =>
    by_cases foreign : isForeign c = true
    · exact ⟨⟨c, 0⟩, rfl, foreign, nofun⟩
    · have hcs : ∃ d ∈ cs, isForeign d = true := by simpa [foreign] using h
      obtain ⟨stray, hstands, hforeign, hfirst⟩ := ih hcs
      refine ⟨⟨stray.character, stray.offset + 1⟩, hstands, hforeign, ?_⟩
      exact List.forall_mem_cons.mpr ⟨by simpa using foreign, hfirst⟩

/-- A text falls into what is in front of its first foreign character, that character, and the rest. -/
theorem IsFirstForeign.split {cs : List Char} {stray : Stray} (h : IsFirstForeign cs stray) :
    ∃ back, cs = cs.take stray.offset ++ stray.character :: back ∧
      (cs.take stray.offset).length = stray.offset := by
  obtain ⟨hlt, hcharacter⟩ := List.getElem?_eq_some_iff.mp h.stands
  refine ⟨cs.drop (stray.offset + 1), ?_, List.length_take_of_le (Nat.le_of_lt hlt)⟩
  rw [← hcharacter, ← List.drop_eq_getElem_cons hlt, List.take_append_drop]

namespace Cursor

/-- A text without foreign characters can be split into tokens. -/
theorem lex_native {c : Cursor} (native : ∀ d ∈ c.rest, isForeign d = false) :
    ∃ last, c.lex.2 = .ok last := by
  fun_induction lex c with
  | case1 c stray after hnext =>
    obtain ⟨gap, back, hrest, -, foreign, -⟩ := next_error hnext
    rw [native stray.character (by simp [hrest])] at foreign
    cases foreign
  | case2 c token => exact ⟨token, rfl⟩
  | case3 c token after hnext more ih =>
    obtain ⟨gap, lexeme, hrest, -⟩ := next_token hnext more
    refine ih fun d hd => native d ?_
    rw [hrest]
    exact List.mem_append_right _ (List.mem_append_right _ hd)

/-- The tokens in front of the first foreign character are those of the text in front of it. -/
theorem lex_isFirstForeign {text : String} {stray : Stray}
    (h : IsFirstForeign text.toList stray) :
    (start (front text stray.offset)).lex.2 = .ok ⟨.finish, stray.offset⟩ ∧
      (start text).lex = ((start (front text stray.offset)).lex.1, .error stray) := by
  obtain ⟨back, htext, hlength⟩ := h.split
  have hfront : start (front text stray.offset) = ⟨text.toList.take stray.offset, 0⟩ := by
    rw [start, front, String.toList_ofList]
  obtain ⟨last, hlast⟩ := lex_native (c := start (front text stray.offset)) (by
    rw [hfront]
    exact h.first)
  have hend := lex_last _ hlast
  rw [hfront, hlength, Nat.zero_add] at hend
  -- no word runs into the foreign character
  have starts : ∀ d ∈ (stray.character :: back).head?, Lexeme.isNamePart d = false := by
    simpa using isNamePart_of_isForeign h.foreign
  have happend := lex_append starts (start (front text stray.offset))
  have hfails : lex ⟨stray.character :: back, stray.offset⟩ = ([], .error stray) :=
    lex_stray (@next_foreign stray.character [] back h.foreign (List.forall_mem_nil _) stray.offset)
  rw [inTurn_ok hlast, hfront, hlength, Nat.zero_add, hfails, List.append_nil, ← htext] at happend
  rw [hlast, hend, hfront]
  exact ⟨rfl, happend⟩

end Cursor

/-- A text is refused exactly at its first foreign character. -/
theorem tokenize_eq_error_iff {text : String} {stray : Stray} :
    tokenize text = .error stray ↔ IsFirstForeign text.toList stray := by
  constructor
  · intro h
    have hfails := tokenize_eq_error.mp h
    by_cases foreign : ∃ c ∈ text.toList, isForeign c = true
    · obtain ⟨stray', hfirst⟩ := exists_isFirstForeign foreign
      rw [(Cursor.lex_isFirstForeign hfirst).2] at hfails
      cases hfails
      exact hfirst
    · have native : ∀ d ∈ (Cursor.start text).rest, isForeign d = false := by
        simpa [Cursor.start] using foreign
      obtain ⟨last, hlast⟩ := Cursor.lex_native native
      rw [hlast] at hfails
      cases hfails
  · intro h
    rw [tokenize_eq_error, (Cursor.lex_isFirstForeign h).2]

/-! ## Whoever reads the text -/

/-- As many tokens are handed out as there are draws, up to the stray character. -/
theorem Cursor.filterMap_stream {c : Cursor} {stray : Stray} (fails : c.lex.2 = .error stray)
    (n : Nat) : ((List.range n).map c.stream).filterMap Except.toOption = c.lex.1.take n := by
  induction n with
  | zero => rfl
  | succ n ih =>
    rw [List.range_succ, List.map_append, List.filterMap_append, ih, List.take_add_one,
      List.map_singleton, stream_eq]
    cases c.lex.1[n]? with
    | some token => rfl
    | none =>
      rw [fails]
      rfl

namespace Tape

variable {reader : Reader} {t t' : Tape} {os : List (Except Stray Token)}

/-- Draws are taken down behind those before them. -/
theorem Draws.outcomes (h : Draws reader t os t') :
    t'.record.map Draw.outcome = t.record.map Draw.outcome ++ os := by
  induction h with
  | none => simp
  | next _ ih =>
    rw [ih]
    simp [Tape.next]

/-- The tokens that have been handed out, to any reader. -/
def handedOut (t : Tape) : List Token :=
  t.record.filterMap fun d => d.outcome.toOption

/-- Once a draw has failed, the cursor stays in front of the stray character. -/
def Halted (t : Tape) : Prop :=
  ∀ stray, .error stray ∈ t.record.map Draw.outcome →
    t.cursor.next = (.error stray, t.cursor)

theorem Halted.next (h : t.Halted) (reader : Reader) : (t.next reader).2.Halted := by
  intro stray hstray
  have hcases : .error stray ∈ t.record.map Draw.outcome ∨ t.cursor.next.1 = .error stray := by
    simpa [Tape.next, eq_comm] using hstray
  show t.cursor.next.2.next = (.error stray, t.cursor.next.2)
  rcases hcases with before | now
  · have hstays := h stray before
    rw [hstays]
    exact hstays
  · exact Cursor.next_stray_again (Prod.ext now rfl)

/-- In front of a stray character the tokens handed out are all that the text has before it. -/
theorem Faithful.handedOut_eq {text : String} {stray : Stray} (h : t.Faithful text)
    (hstray : .error stray ∈ t.record.map Draw.outcome) :
    (Cursor.start text).lex.2 = .error stray ∧ t.handedOut = (Cursor.start text).lex.1 := by
  obtain ⟨i, hi, hfailed⟩ : ∃ i < t.record.length, (Cursor.start text).stream i = .error stray := by
    simpa [h.outcomes] using hstray
  rw [Cursor.stream_eq] at hfailed
  cases hdrawn : (Cursor.start text).lex.1[i]? with
  | some token =>
    rw [hdrawn] at hfailed
    cases hfailed
  | none =>
    rw [hdrawn] at hfailed
    have hlength : (Cursor.start text).lex.1.length ≤ t.record.length :=
      Nat.le_trans (List.getElem?_eq_none_iff.mp hdrawn) (Nat.le_of_lt hi)
    refine ⟨hfailed, ?_⟩
    calc t.handedOut = (t.record.map Draw.outcome).filterMap Except.toOption := by
          rw [List.filterMap_map]
          rfl
      _ = (Cursor.start text).lex.1.take t.record.length := by
          rw [h.outcomes, Cursor.filterMap_stream hfailed]
      _ = (Cursor.start text).lex.1 := List.take_of_length_le hlength

end Tape

namespace Recording

/-- What every draw keeps, every run keeps. -/
theorem run_preserves {motive : Tape → Prop}
    (step : ∀ t reader, motive t → motive (t.next reader).2) (s : Recording)
    (requests : List Request) (start : motive s.tape) : motive (s.run requests).2.tape := by
  induction requests generalizing s with
  | nil => exact start
  | cons r rs ih =>
    obtain ⟨reader, new, hdraws, -⟩ := (s.step_spec r).draws
    exact ih _ (hdraws.preserves step start)

/-- A failure that a reader is told is the failure of a draw. -/
theorem run_failed {s : Recording} {requests : List Request} {stray : Stray}
    (h : .failed (.stray stray) ∈ (s.run requests).1) :
    .error stray ∈ (s.run requests).2.tape.record.map Draw.outcome := by
  induction requests generalizing s with
  | nil => cases h
  | cons r rs ih =>
    rcases List.mem_cons.mp h with first | later
    · obtain ⟨reader, new, hdraws, -⟩ := (s.step_spec r).draws
      refine run_preserves (motive := fun t => .error stray ∈ t.record.map Draw.outcome)
        (fun t reader ht => ?_) _ rs ?_
      · simp [Tape.next, ht]
      · rw [hdraws.outcomes, ← first]
        simp [Tape.outcomes, Answer.stray?]
    · exact ih later

end Recording

/-- **The first foreign character is reported.** A text can be split into tokens unless one of its
characters is foreign, and then the first foreign one is reported. A session in which any reader has
failed stands in front of that character, and all tokens that have been handed out in it are those of
the text in front of the character. -/
theorem tokenize_fails_iff_foreign (text : String) :
    ((∃ stray, tokenize text = .error stray) ↔ ∃ c ∈ text.toList, isForeign c = true) ∧
    (∀ stray, tokenize text = .error stray ↔ IsFirstForeign text.toList stray) ∧
    ∀ requests stray, .failed (.stray stray) ∈ ((Session.start text).run requests).1 →
      tokenize text = .error stray ∧
      ((Session.start text).run requests).2.cursor.offset = stray.offset ∧
      tokenize (front text stray.offset) =
        .ok (((Recording.start text).run requests).2.tape.handedOut ++
          [⟨.finish, stray.offset⟩]) := by
  refine ⟨⟨?_, ?_⟩, fun stray => tokenize_eq_error_iff, fun requests stray hfailed => ?_⟩
  · rintro ⟨stray, hstray⟩
    have hfirst := tokenize_eq_error_iff.mp hstray
    exact ⟨stray.character, List.mem_of_getElem? hfirst.stands, hfirst.foreign⟩
  · intro h
    obtain ⟨stray, hfirst⟩ := exists_isFirstForeign h
    exact ⟨stray, tokenize_eq_error_iff.mpr hfirst⟩
  · have hforget : (Session.start text).run requests =
        (((Recording.start text).run requests).1,
          ((Recording.start text).run requests).2.forget) :=
      (Recording.start text).run_forget requests
    rw [hforget] at hfailed ⊢
    have hdrawn := Recording.run_failed hfailed
    have hsound := (Recording.Sound.start text).run requests
    have hhalted := Recording.run_preserves (motive := Tape.Halted)
      (fun _ reader h => h.next reader) (Recording.start text) requests nofun
    obtain ⟨hfails, htokens⟩ := hsound.faithful.handedOut_eq hdrawn
    have hstray := tokenize_eq_error.mpr hfails
    obtain ⟨_, _, -, -, -, -, hplace⟩ := Cursor.next_error (hhalted stray hdrawn)
    obtain ⟨hlast, hlex⟩ := Cursor.lex_isFirstForeign (tokenize_eq_error_iff.mp hstray)
    refine ⟨hstray, congrArg Cursor.offset hplace, tokenize_eq_ok.mpr ⟨_, hlast, ?_⟩⟩
    rw [htokens, hlex]

/-- A parser draws a name, and behind it an iterator meets a letter that is no ASCII letter. -/
theorem tokenize_fails_iff_foreign_letter :
    let requests : List Request := [.draw, .openParser, .openIterator, .iterate 0]
    .failed (.stray ⟨'é', 3⟩) ∈ ((Session.start "2 né(").run requests).1 ∧
      tokenize "2 né(" = .error ⟨'é', 3⟩ ∧
      ((Session.start "2 né(").run requests).2.cursor.offset = 3 ∧
      ((Recording.start "2 né(").run requests).2.tape.handedOut =
        [⟨.integer 2, 0⟩, ⟨.identifier "n", 2⟩] ∧
      tokenize "2 n" = .ok [⟨.integer 2, 0⟩, ⟨.identifier "n", 2⟩, ⟨.finish, 3⟩] := by
  intro requests
  have hanswers : ((Session.start "2 né(").run requests).1 =
      [.token ⟨.integer 2, 0⟩, .parser 0, .iterator 0, .failed (.stray ⟨'é', 3⟩)] := by
    with_unfolding_all rfl
  have hfailed : .failed (.stray ⟨'é', 3⟩) ∈ ((Session.start "2 né(").run requests).1 := by
    simp [hanswers]
  have hdrawn : ((Recording.start "2 né(").run requests).2.tape.handedOut =
      [⟨.integer 2, 0⟩, ⟨.identifier "n", 2⟩] := by
    with_unfolding_all rfl
  obtain ⟨hstray, hplace, htokens⟩ := (tokenize_fails_iff_foreign "2 né(").2.2 _ _ hfailed
  rw [hdrawn] at htokens
  exact ⟨hfailed, hstray, hplace, hdrawn, htokens⟩

end Reckoner
