import Reckoner.Proofs.Parsing

/-!
# The first fault of a text

A text is refused at the first token behind which no expression is left, and with a token that would
have done in its place. A character that starts no token is reported only if all tokens in front of
it are the start of an expression. Both halves rest on the invariant of the parser: a token is
accepted exactly as long as the symbols up to it can be completed.
-/
namespace Reckoner

open Grammar

/-- The symbols of several tokens. -/
abbrev symbols (ts : List Token) : List Symbol :=
  ts.map Token.symbol

/-- The tokens of a text up to and including its end, or up to the first character that starts no
token. -/
def readable (text : String) : List Token :=
  (Cursor.start text).lex.1 ++
    match (Cursor.start text).lex.2 with
    | .ok last => [last]
    | .error _ => []

/-- The place that is reported for a token that does not fit: that of the name in front of it, if
there is one, and otherwise its own. -/
def reportedOffset (before : List Token) (t : Token) : Nat :=
  match before.getLast? with
  | some ⟨.identifier _, offset⟩ => offset
  | _ => t.offset

namespace Progress

/-! ## A token that does not fit -/

/-- The place that a state reports for a token. -/
def blamed (p : Progress) (t : Token) : Nat :=
  match p.awaited with
  | .opening _ offset => offset
  | _ => t.offset

theorem close_error {frames : List Frame} {e : Expr} {t : Token} {m : Misfit}
    (h : close frames e t = .error m) :
    m = if frames = [] then .trailing t.kind t.offset else .kind .closing t.kind t.offset := by
  cases frames with
  | nil =>
    cases h
    rfl
  | cons frame frames =>
    rw [if_neg (List.cons_ne_nil _ _)]
    unfold close at h
    split at h <;> cases h
    · contradiction
    · rfl

theorem operand_error {frames : List Frame} {t : Token} {m : Misfit}
    (h : operand frames t = .error m) : m = .operand t.kind t.offset := by
  unfold operand at h
  split at h <;> cases h
  rfl

/-- The report names the kind of the token and the place that its state blames. -/
theorem advance_error {p : Progress} {t : Token} {m : Misfit} (h : p.advance t = .error m) :
    m.actual = t.kind ∧ m.offset = p.blamed t := by
  obtain ⟨frames, awaited⟩ := p
  cases awaited with
  | operand =>
    rw [operand_error h]
    exact ⟨rfl, rfl⟩
  | arguments =>
    simp only [advance] at h
    split at h
    · cases h
    · rw [operand_error h]
      exact ⟨rfl, rfl⟩
  | opening name offset =>
    simp only [advance] at h
    split at h <;> cases h
    exact ⟨rfl, rfl⟩
  | operator e =>
    simp only [advance] at h
    split at h
    · cases h
    · rw [close_error h]
      split <;> exact ⟨rfl, rfl⟩

/-- The end of the text is refused like any other token. -/
theorem finish_error {p : Progress} {last : Token} {m : Misfit} (hlast : last.symbol = .finish)
    (h : p.finish last = .error m) : p.advance last = .error m := by
  obtain ⟨frames, awaited⟩ := p
  cases awaited with
  | operand | arguments | opening =>
    simp only [finish] at h
    simpa [advance, operand, hlast] using h
  | operator e =>
    simp only [finish] at h
    simp only [advance, hlast, Operator.ofSymbol?]
    cases hs : settle false frames e with
    | mk frames' e' =>
      rw [hs] at h
      cases frames' with
      | nil => cases h
      | cons frame frames' => cases frame <;> simpa [close, hlast] using h

theorem operand_blamed {frames : List Frame} {t : Token} {q : Progress}
    (h : operand frames t = .ok q) (u : Token) : q.blamed u = reportedOffset [t] u := by
  obtain ⟨s, offset⟩ := t
  cases s <;> cases h <;> rfl

theorem close_blamed {frames : List Frame} {e : Expr} {t : Token} {q : Progress}
    (h : close frames e t = .ok q) (u : Token) : q.blamed u = reportedOffset [t] u := by
  obtain ⟨s, offset⟩ := t
  unfold close at h
  split at h <;> rename_i hs <;> cases h <;> cases hs <;> rfl

/-- The place that is blamed depends on the last accepted token only. -/
theorem advance_blamed {p q : Progress} {t : Token} (h : p.advance t = .ok q) (u : Token) :
    q.blamed u = reportedOffset [t] u := by
  obtain ⟨frames, awaited⟩ := p
  cases awaited with
  | operand => exact operand_blamed h u
  | arguments =>
    simp only [advance] at h
    split at h
    · rename_i hs
      cases h
      obtain ⟨_, _⟩ := t
      cases hs
      rfl
    · exact operand_blamed h u
  | opening name offset =>
    obtain ⟨s, _⟩ := t
    cases s <;> cases h
    rfl
  | operator e =>
    simp only [advance] at h
    split at h
    · rename_i op hs
      cases h
      obtain ⟨s, offset⟩ := t
      obtain rfl : s = op.symbol := Operator.symbol_of_ofSymbol? hs
      cases op <;> rfl
    · exact close_blamed h u

/-- The place that a reached state blames. -/
theorem advanceAll_blamed {q : Progress} {ts : List Token} (h : start.advanceAll ts = .ok q)
    (u : Token) : q.blamed u = reportedOffset ts u := by
  rcases List.eq_nil_or_concat ts with rfl | ⟨ts, t, rfl⟩
  · cases h
    rfl
  · rw [List.concat_eq_append] at h ⊢
    obtain ⟨p, -, hq⟩ := advanceAll_append_ok.mp h
    obtain ⟨_, ht, hnil⟩ := advanceAll_cons_ok.mp hq
    cases hnil
    simpa [reportedOffset] using advance_blamed ht u

/-! ## What would have fitted -/

/-- A token of the reported kind is accepted in the place of the one that does not fit; or it is the
end of the text, and what has been read is an expression. -/
theorem Reached.expected {ss : List Symbol} {p : Progress} {t : Token} {m : Misfit}
    (h : Reached ss p) (hm : p.advance t = .error m) :
    (m.expected?.getD .integer = .finish ∧ Sentence ss) ∨
      ∃ s, s.kind = m.expected?.getD .integer ∧ s ≠ .finish ∧ ∃ q, p.advance ⟨s, 0⟩ = .ok q := by
  obtain ⟨frames, awaited⟩ := p
  cases awaited with
  | operand =>
    rw [operand_error hm]
    exact .inr ⟨.integer 0, rfl, by simp, _, rfl⟩
  | arguments =>
    obtain ⟨name, outer, before, rfl, -⟩ := h
    simp only [Progress.advance] at hm
    split at hm
    · cases hm
    · rw [operand_error hm]
      exact .inr ⟨.integer 0, rfl, by simp, _, rfl⟩
  | opening name offset =>
    simp only [Progress.advance] at hm
    split at hm <;> cases hm
    exact .inr ⟨.opening, rfl, by simp, _, rfl⟩
  | operator e =>
    obtain ⟨before, spelled, rfl, hplace, he⟩ := h
    obtain ⟨frames', e', ss', ts', hs, heq, hexpr, he'⟩ := hplace.settle_all he
    simp only [Progress.advance, hs] at hm ⊢
    split at hm
    · cases hm
    · cases hexpr with
      | start =>
        cases hm
        exact .inl ⟨rfl, e', heq ▸ he'⟩
      | group =>
        rw [close_error hm]
        exact .inr ⟨.closing, rfl, by simp, _, rfl⟩
      | call =>
        rw [close_error hm]
        exact .inr ⟨.closing, rfl, by simp, _, rfl⟩

/-- **Accepted is completable**: the parser accepts tokens exactly as long as they are the start of
an expression. -/
theorem advanceAll_ok_iff {ts : List Token} :
    (∃ p, start.advanceAll ts = .ok p) ↔ Completable (symbols ts) := by
  constructor
  · rintro ⟨p, hp⟩
    exact (Reached.start.advanceAll hp).completable
  · rintro ⟨rest, e, he⟩
    have hts : symbols (ts ++ rest.map (Token.mk · 0)) = symbols ts ++ rest := by
      simp [Function.comp_def]
    obtain ⟨q, hq, -⟩ := he.finish hts
    obtain ⟨p, hp, -⟩ := advanceAll_append_ok.mp hq
    exact ⟨p, hp⟩

/-- What the report of a refused token says. -/
theorem refused {before : List Token} {t : Token} {p : Progress} {m : Misfit}
    (hp : start.advanceAll before = .ok p) (hm : p.advance t = .error m) :
    m.actual = t.kind ∧ m.offset = reportedOffset before t ∧
      ∃ s, s.kind = m.expected?.getD .integer ∧ Viable (symbols before ++ [s]) := by
  obtain ⟨hactual, hoffset⟩ := advance_error hm
  refine ⟨hactual, by rw [hoffset, advanceAll_blamed hp], ?_⟩
  have hreached := Reached.start.advanceAll hp
  rcases hreached.expected hm with ⟨hkind, hs⟩ | ⟨s, hkind, hs, q, hq⟩
  · exact ⟨.finish, hkind.symm, viable_finish.mpr hs⟩
  · have hcompletable := (hreached.advance hq).completable
    exact ⟨s, hkind, (viable_iff_completable (by simpa using hs)).mpr hcompletable⟩

end Progress

/-- Tokens in front of the end of a text are viable as long as they can be completed. -/
theorem viable_lex {text : String} {ts : List Token} (h : ts <+: (Cursor.start text).lex.1) :
    Viable (symbols ts) ↔ ∃ p, Progress.start.advanceAll ts = .ok p := by
  rw [Progress.advanceAll_ok_iff]
  refine viable_iff_completable fun hlast => ?_
  obtain ⟨t, ht, hfinish⟩ := List.mem_map.mp (List.mem_of_getLast? hlast)
  exact Cursor.lex_not_finish _ t (h.subset ht) hfinish

/-- A token of a text stands in front of its end, or is its end. -/
theorem readable_split {text : String} {before after : List Token} {t : Token}
    (h : readable text = before ++ t :: after) :
    (∃ rest, (Cursor.start text).lex.1 = before ++ t :: rest) ∨
      ((Cursor.start text).lex.1 = before ∧ (Cursor.start text).lex.2 = .ok t) := by
  unfold readable at h
  cases hend : (Cursor.start text).lex.2 with
  | error stray => exact .inl ⟨after, by simpa [hend] using h⟩
  | ok last =>
    rw [hend] at h
    rcases List.eq_nil_or_concat after with rfl | ⟨rest, u, rfl⟩
    · obtain ⟨hbody, hlast⟩ := List.append_inj' h rfl
      cases hlast
      exact .inr ⟨hbody, rfl⟩
    · have h' : (Cursor.start text).lex.1 ++ [last] = (before ++ t :: rest) ++ [u] := by
        simpa [List.concat_eq_append] using h
      exact .inl ⟨rest, (List.append_inj' h' rfl).1⟩

/-- A token that makes the symbols unviable is refused, and its refusal is what is reported. -/
theorem parse_refused {text : String} {before after : List Token} {t : Token} {p : Progress}
    (h : readable text = before ++ t :: after) (hp : Progress.start.advanceAll before = .ok p)
    (hv : ¬ Viable (symbols (before ++ [t]))) :
    ∃ m, p.advance t = .error m ∧ parse text = .error (.misfit m) := by
  rcases readable_split h with ⟨rest, hbody⟩ | ⟨hbody, hlast⟩
  · cases hm : p.advance t with
    | ok q =>
      have hprefix : before ++ [t] <+: (Cursor.start text).lex.1 := ⟨rest, by simp [hbody]⟩
      have hq : Progress.start.advanceAll (before ++ [t]) = .ok q :=
        Progress.advanceAll_append_ok.mpr ⟨p, hp, Progress.advanceAll_cons_ok.mpr ⟨q, hm, rfl⟩⟩
      exact absurd ((viable_lex hprefix).mpr ⟨q, hq⟩) hv
    | error m =>
      refine ⟨m, rfl, ?_⟩
      rw [parse_eq, hbody, Progress.verdict_append hp]
      simp [Progress.verdict, hm]
  · have hfinish : t.symbol = .finish := Cursor.lex_ends _ hlast
    have hs : ¬ Sentence (symbols before) := by
      rwa [symbols, List.map_append, List.map_singleton, hfinish, viable_finish] at hv
    cases hm : p.finish t with
    | ok e => exact absurd ⟨e, (Progress.Reached.start.advanceAll hp).finish hm⟩ hs
    | error m =>
      refine ⟨m, Progress.finish_error hfinish hm, ?_⟩
      rw [parse_eq, hlast, hbody, Progress.verdict_all hp, Progress.verdict_error hm]

/-- **The first fault is reported.** A text is refused at the first token that makes its symbols
unviable, and some token of the expected kind would have been viable there. If all its tokens are
viable, then a character that starts no token is reported, and a text without one is read. -/
theorem parse_first_fault (text : String) :
    (∀ before t after, readable text = before ++ t :: after →
      (∀ us, us <+: before → Viable (symbols us)) → ¬ Viable (symbols (before ++ [t])) →
      ∃ m, parse text = .error (.misfit m) ∧ m.actual = t.kind ∧
        m.offset = reportedOffset before t ∧
        ∃ s, s.kind = m.expected?.getD .integer ∧ Viable (symbols before ++ [s])) ∧
    ((∀ us, us <+: readable text → Viable (symbols us)) →
      (∀ stray, tokenize text = .error stray → parse text = .error (.stray stray)) ∧
      (∀ ts, tokenize text = .ok ts → ∃ e, parse text = .ok e)) := by
  refine ⟨fun before t after h hviable hv => ?_, fun hviable => ⟨fun stray hstray => ?_,
    fun ts hts => ?_⟩⟩
  · -- an unviable token: all in front of it have been accepted
    have hbody : before <+: (Cursor.start text).lex.1 := by
      rcases readable_split h with ⟨rest, hbody⟩ | ⟨hbody, -⟩
      · exact ⟨t :: rest, hbody.symm⟩
      · exact ⟨[], by simp [hbody]⟩
    obtain ⟨p, hp⟩ := (viable_lex hbody).mp (hviable before (List.prefix_refl before))
    obtain ⟨m, hm, hparse⟩ := parse_refused h hp hv
    exact ⟨m, hparse, Progress.refused hp hm⟩
  · -- a character that starts no token: the parser meets it behind all tokens
    obtain ⟨p, hp⟩ := (viable_lex (List.prefix_refl _)).mp (hviable _ (List.prefix_append _ _))
    rw [parse_eq, tokenize_eq_error.mp hstray, Progress.verdict_all hp]
    rfl
  · -- neither: with the end among its viable tokens the text is a sentence
    obtain ⟨last, hlast, rfl⟩ := tokenize_eq_ok.mp hts
    have hv := hviable (readable text) (List.prefix_refl _)
    rw [readable, hlast, symbols, List.map_append, List.map_singleton, Cursor.lex_ends _ hlast,
      viable_finish] at hv
    obtain ⟨e, he⟩ := hv
    exact ⟨e, parse_eq_ok.mpr ⟨⟨last, hlast⟩, he⟩⟩

/-- The second operator is reported, and not the stray character behind it. -/
example : parse "1 + * $" = .error (.misfit (.operand .times 4)) := by
  with_unfolding_all rfl

/-- The stray character is reported in front of the missing operand. -/
example : parse "1 + $" = .error (.stray ⟨'$', 4⟩) := by
  with_unfolding_all rfl

end Reckoner
