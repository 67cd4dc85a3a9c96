import Mathlib
import Reckoner.Proofs.Spelling

/-!
# The tokens of a text are a segmentation of it

Which tokens a text has can be said without a cursor. Each token but the last has an extent in the
text: the characters there are its lexeme, extents do not overlap, and outside of them there are only
blanks. A numeral is not followed by a digit, and a name not by a character that would lengthen it;
this is all that is left of taking as many characters as possible (`Lexeme.cut_iff`). A text that can
be split into tokens has exactly one such segmentation, and its tokens are those.

Between the places in a text and the recursion of a cursor stands `Segments`, which cuts the extents
off from the front of a text.
-/
namespace Reckoner

/-! ## Lexemes -/

/-- The characters that a symbol is written with: digits, of which a numeral has the exact value, a
name, or one mark. -/
inductive IsLexeme : List Char → Symbol → Prop
  | integer {digits : List Char} (nonempty : digits ≠ []) (all : ∀ c ∈ digits, c.isDigit = true) :
      IsLexeme digits (.integer (Numeral.value digits))
  | identifier {c : Char} {cs : List Char} (start : Lexeme.isNameStart c = true)
      (parts : ∀ d ∈ cs, Lexeme.isNamePart d = true) :
      IsLexeme (c :: cs) (.identifier (String.ofList (c :: cs)))
  | mark {c : Char} {s : Symbol} (h : Symbol.ofMark? c = some s) : IsLexeme [c] s

/-- Whether a symbol can end in front of a character, or in front of nothing: a numeral not in front
of a digit, a name not in front of a part of a name. -/
def Symbol.EndsBefore : Symbol → Option Char → Prop
  | .integer _, next => ∀ c ∈ next, c.isDigit = false
  | .identifier _, next => ∀ c ∈ next, Lexeme.isNamePart c = false
  | _, _ => True

theorem IsLexeme.nonempty {lexeme : List Char} {s : Symbol} (h : IsLexeme lexeme s) :
    lexeme ≠ [] := by
  cases h with
  | integer nonempty => exact nonempty
  | identifier => exact List.cons_ne_nil _ _
  | mark => exact List.cons_ne_nil _ _

theorem Symbol.EndsBefore.of_mark {c : Char} {s : Symbol} (h : Symbol.ofMark? c = some s)
    (next : Option Char) : s.EndsBefore next := by
  unfold Symbol.ofMark? at h
  split at h <;> cases h <;> trivial

namespace Lexeme

variable {lexeme rest : List Char} {s : Symbol}

/-- **Taking as much as possible is a matter of the next character.** What is cut off from a text, and
stands for a symbol, is a lexeme of the symbol, and the symbol can end in front of the rest. -/
theorem cut_iff : cut (lexeme ++ rest) = (lexeme, rest) ∧ symbol? lexeme = some s ↔
    IsLexeme lexeme s ∧ s.EndsBefore rest.head? := by
  constructor
  · rintro ⟨hcut, hsymbol⟩
    obtain ⟨c, cs, rfl, -⟩ := starts_of_symbol? hsymbol
    rw [List.cons_append, cut] at hcut
    by_cases digit : c.isDigit = true
    · rw [if_pos digit] at hcut
      obtain ⟨hcs, hrest⟩ : (cs ++ rest).takeWhile Char.isDigit = cs ∧
          (cs ++ rest).dropWhile Char.isDigit = rest := by simpa using hcut
      rw [symbol?_digits digit] at hsymbol
      cases hsymbol
      have all : ∀ d ∈ c :: cs, d.isDigit = true :=
        List.forall_mem_cons.mpr ⟨digit, all_of_takeWhile hcs⟩
      exact ⟨.integer (List.cons_ne_nil _ _) all, head?_of_dropWhile hrest⟩
    · rw [if_neg digit] at hcut
      by_cases start : isNameStart c = true
      · rw [if_pos start] at hcut
        obtain ⟨hcs, hrest⟩ : (cs ++ rest).takeWhile isNamePart = cs ∧
            (cs ++ rest).dropWhile isNamePart = rest := by simpa using hcut
        rw [symbol?_name start] at hsymbol
        cases hsymbol
        exact ⟨.identifier start (all_of_takeWhile hcs), head?_of_dropWhile hrest⟩
      · rw [if_neg start] at hcut
        obtain rfl : cs = [] := by simpa using hcut
        rw [symbol?_mark (by simp [isNamePart, start, digit])] at hsymbol
        exact ⟨.mark hsymbol, .of_mark hsymbol _⟩
  · rintro ⟨hlexeme, hends⟩
    cases hlexeme with
    | integer nonempty all =>
      refine ⟨cut_digits nonempty all hends, ?_⟩
      obtain ⟨c, cs, rfl⟩ := List.exists_cons_of_ne_nil nonempty
      exact symbol?_digits (all c List.mem_cons_self) cs
    | identifier start parts => exact ⟨cut_name start parts hends, symbol?_name start _⟩
    | mark h =>
      have other := (not_isNamePart_of_ofMark? h).1
      exact ⟨cut_mark other, by rw [symbol?_mark other, h]⟩

end Lexeme

theorem Symbol.endsBefore_none (s : Symbol) : s.EndsBefore none := by
  cases s with
  | integer => exact nofun
  | identifier => exact nofun
  | _ => trivial

/-- A lexeme determines its symbol. -/
theorem IsLexeme.symbol_eq {lexeme : List Char} {s t : Symbol} (h : IsLexeme lexeme s)
    (h' : IsLexeme lexeme t) : s = t := by
  have stands : ∀ {u}, IsLexeme lexeme u → Lexeme.symbol? lexeme = some u := by
    intro u hu
    have ends : u.EndsBefore ([] : List Char).head? := u.endsBefore_none
    exact (Lexeme.cut_iff.mpr ⟨hu, ends⟩).2
  have hs := stands h
  rw [stands h'] at hs
  exact (Option.some.inj hs).symm

/-! ## Extents -/

/-- A token and the place behind its lexeme. -/
structure Extent where
  /-- The token. -/
  token : Token
  /-- The place behind its last character. -/
  stop : Nat

/-- A place belongs to an extent. -/
def Extent.Covers (x : Extent) (i : Nat) : Prop :=
  x.token.offset ≤ i ∧ i < x.stop

/-- The characters of a text from one place up to another one. -/
def between (start stop : Nat) (text : List Char) : List Char :=
  (text.drop start).take (stop - start)

theorem drop_eq_between {start stop : Nat} (h : start ≤ stop) (text : List Char) :
    text.drop start = between start stop text ++ text.drop stop := by
  have hdrop : text.drop stop = (text.drop start).drop (stop - start) := by
    rw [List.drop_drop, Nat.add_sub_cancel' h]
  rw [between, hdrop, List.take_append_drop]

theorem length_between {stop : Nat} {text : List Char} (h : stop ≤ text.length) (start : Nat) :
    (between start stop text).length = stop - start := by
  rw [between, List.length_take, List.length_drop]
  omega

/-- Extents of lexemes, one behind the other, that cover a text from a place on, blanks apart. -/
structure Segmented (start : Nat) (text : List Char) (extents : List Extent) : Prop where
  /-- No extent begins before the place, and none goes beyond the text. -/
  inside : ∀ x ∈ extents, start ≤ x.token.offset ∧ x.token.offset < x.stop ∧ x.stop ≤ text.length
  /-- Extents do not overlap: one ends before the next one begins. So no part of a numeral counts as
  another numeral. -/
  ordered : extents.Pairwise fun x y => x.stop ≤ y.token.offset
  /-- An extent holds the lexeme of its token. -/
  lexeme : ∀ x ∈ extents, IsLexeme (between x.token.offset x.stop text) x.token.symbol
  /-- The lexeme cannot be made longer. -/
  longest : ∀ x ∈ extents, x.token.symbol.EndsBefore text[x.stop]?
  /-- All other characters are blank. -/
  blank : ∀ i c, start ≤ i → text[i]? = some c → (∀ x ∈ extents, ¬ x.Covers i) →
    Text.isBlank c = true

namespace Segmented

variable {start : Nat} {text : List Char} {x : Extent} {extents : List Extent}

/-- Without extents there are only blanks. -/
theorem nil_iff : Segmented start text [] ↔ ∀ c ∈ text.drop start, Text.isBlank c = true := by
  constructor
  · intro h c hc
    obtain ⟨i, hi⟩ := List.mem_iff_getElem?.mp hc
    rw [List.getElem?_drop] at hi
    exact h.blank _ c (Nat.le_add_right _ _) hi nofun
  · intro h
    refine ⟨nofun, .nil, nofun, nofun, fun i c hi hc _ => h c ?_⟩
    refine List.mem_iff_getElem?.mpr ⟨i - start, ?_⟩
    rw [List.getElem?_drop, Nat.add_sub_cancel' hi, hc]

/-- Behind the first extent the others go on. -/
theorem tail (h : Segmented start text (x :: extents)) : Segmented x.stop text extents := by
  obtain ⟨⟨low, nonempty, -⟩, inside⟩ := List.forall_mem_cons.mp h.inside
  obtain ⟨before, ordered⟩ := List.pairwise_cons.mp h.ordered
  refine ⟨fun y hy => ⟨before y hy, (inside y hy).2⟩, ordered, (List.forall_mem_cons.mp h.lexeme).2,
    (List.forall_mem_cons.mp h.longest).2, fun i c hi hc free => ?_⟩
  have uncovered : ¬ x.Covers i := fun covers => Nat.not_lt.mpr hi covers.2
  exact h.blank i c (by omega) hc (List.forall_mem_cons.mpr ⟨uncovered, free⟩)

/-- In front of the first extent there are only blanks. -/
theorem front (h : Segmented start text (x :: extents)) :
    ∀ c ∈ between start x.token.offset text, Text.isBlank c = true := by
  intro c hc
  obtain ⟨⟨-, nonempty, high⟩, -⟩ := List.forall_mem_cons.mp h.inside
  obtain ⟨i, hi⟩ := List.mem_iff_getElem?.mp hc
  have hlength : i < x.token.offset - start := by
    have hlt := (List.getElem?_eq_some_iff.mp hi).1
    rwa [length_between (by omega)] at hlt
  rw [between, List.getElem?_take_of_lt hlength, List.getElem?_drop] at hi
  refine h.blank (start + i) c (Nat.le_add_right _ _) hi ?_
  -- the other extents come later still
  refine List.forall_mem_cons.mpr ⟨fun covers => ?_, fun y hy covers => ?_⟩
  · have hfirst := covers.1
    omega
  · have hfirst := covers.1
    have hbehind := (List.pairwise_cons.mp h.ordered).1 y hy
    omega

/-- Behind blanks an extent can be put in front of others. -/
theorem cons (low : start ≤ x.token.offset) (nonempty : x.token.offset < x.stop)
    (high : x.stop ≤ text.length)
    (blank : ∀ c ∈ between start x.token.offset text, Text.isBlank c = true)
    (stands : IsLexeme (between x.token.offset x.stop text) x.token.symbol)
    (ends : x.token.symbol.EndsBefore text[x.stop]?) (others : Segmented x.stop text extents) :
    Segmented start text (x :: extents) := by
  refine ⟨List.forall_mem_cons.mpr ⟨⟨low, nonempty, high⟩, fun y hy => ?_⟩,
    List.pairwise_cons.mpr ⟨fun y hy => (others.inside y hy).1, others.ordered⟩,
    List.forall_mem_cons.mpr ⟨stands, others.lexeme⟩,
    List.forall_mem_cons.mpr ⟨ends, others.longest⟩, fun i c hi hc uncovered => ?_⟩
  · obtain ⟨hlow, hinside⟩ := others.inside y hy
    exact ⟨by omega, hinside⟩
  · obtain ⟨here, behind⟩ := List.forall_mem_cons.mp uncovered
    by_cases before : i < x.token.offset
    · refine blank c (List.mem_iff_getElem?.mpr ⟨i - start, ?_⟩)
      rw [between, List.getElem?_take_of_lt (by omega), List.getElem?_drop,
        Nat.add_sub_cancel' hi, hc]
    · have past : x.stop ≤ i := Nat.not_lt.mp fun within => here ⟨Nat.not_lt.mp before, within⟩
      exact others.blank i c past hc behind

end Segmented

/-- The extents of a text from a place on, cut off from its front one after the other. -/
inductive Segments : Nat → List Char → List Extent → Prop
  | blanks {offset : Nat} {gap : List Char} (blank : ∀ c ∈ gap, Text.isBlank c = true) :
      Segments offset gap []
  | token {offset : Nat} {gap lexeme rest : List Char} {s : Symbol} {extents : List Extent}
      (blank : ∀ c ∈ gap, Text.isBlank c = true) (stands : IsLexeme lexeme s)
      (ends : s.EndsBefore rest.head?)
      (others : Segments (offset + gap.length + lexeme.length) rest extents) :
      Segments offset (gap ++ (lexeme ++ rest))
        (⟨⟨s, offset + gap.length⟩, offset + gap.length + lexeme.length⟩ :: extents)

namespace Segments

variable {offset : Nat} {cs : List Char} {extents : List Extent}

/-- A cursor hands out the tokens of the segments in front of it. -/
theorem lex (h : Segments offset cs extents) : Cursor.lex ⟨cs, offset⟩ =
    (extents.map Extent.token, .ok ⟨.finish, offset + cs.length⟩) := by
  induction h with
  | blanks blank => exact Cursor.lex_finish (Cursor.next_blank blank _) rfl
  | @token offset gap lexeme rest s extents blank stands ends _ ih =>
    obtain ⟨hcut, hsymbol⟩ := Lexeme.cut_iff.mpr ⟨stands, ends⟩
    have hnext := Cursor.next_lexeme blank hcut hsymbol offset
    have proper : s.Proper := by
      have hs : Lexeme.symbol? (Lexeme.cut (lexeme ++ rest)).1 = some s := by rw [hcut, hsymbol]
      exact Symbol.proper_of_symbol? hs
    have more : s ≠ .finish := by
      rintro rfl
      exact proper
    rw [Cursor.lex_token hnext more, ih]
    simp [Nat.add_assoc]

/-- What a cursor hands out up to the end of a text are tokens of segments. -/
theorem of_lex {c : Cursor} {last : Token} (h : c.lex.2 = .ok last) :
    ∃ extents, Segments c.offset c.rest extents ∧ c.lex.1 = extents.map Extent.token ∧
      last = ⟨.finish, c.offset + c.rest.length⟩ := by
  fun_induction Cursor.lex c with
  | case1 => cases h
  | case2 c token after hnext hlast =>
    obtain ⟨hblank, hoffset, -⟩ := Cursor.next_finish hnext hlast
    cases h
    refine ⟨[], .blanks hblank, rfl, ?_⟩
    rw [← hoffset, ← hlast]
  | case3 c token after hnext more ih =>
    obtain ⟨gap, lexeme, hrest, hgap, hcut, hsymbol, hoffset, hafter⟩ :=
      Cursor.next_token hnext more
    obtain ⟨stands, ends⟩ := Lexeme.cut_iff.mp ⟨hcut, hsymbol⟩
    obtain ⟨extents, hextents, htokens, hlast⟩ := ih h
    rw [hafter, hoffset] at hextents hlast
    have htoken : token = ⟨token.symbol, c.offset + gap.length⟩ := by rw [← hoffset]
    refine ⟨⟨token, c.offset + gap.length + lexeme.length⟩ :: extents, ?_, ?_, ?_⟩
    · rw [hrest, htoken]
      exact .token hgap stands ends hextents
    · rw [htokens, List.map_cons]
    · rw [hlast, hrest]
      simp only [List.length_append, Nat.add_assoc]

/-- The segments behind a place, in terms of places in the whole text. -/
theorem segmented {text : List Char} (h : Segments offset cs extents) (hcs : text.drop offset = cs) :
    Segmented offset text extents := by
  induction h with
  | blanks blank =>
    rw [Segmented.nil_iff, hcs]
    exact blank
  | @token offset gap lexeme rest s extents blank stands ends _ ih =>
    have hlexeme : text.drop (offset + gap.length) = lexeme ++ rest := by
      rw [← List.drop_drop, hcs, List.drop_left]
    have hrest : text.drop (offset + gap.length + lexeme.length) = rest := by
      rw [← List.drop_drop, hlexeme, List.drop_left]
    have nonempty : 0 < lexeme.length := List.length_pos_iff.mpr stands.nonempty
    refine .cons (Nat.le_add_right _ _) (Nat.lt_add_of_pos_right nonempty) ?_ ?_ ?_ ?_ (ih hrest)
    · have hlength := congrArg List.length hlexeme
      rw [List.length_drop, List.length_append] at hlength
      dsimp only
      omega
    · rw [between, hcs, Nat.add_sub_cancel_left, List.take_left]
      exact blank
    · rw [between, hlexeme, Nat.add_sub_cancel_left, List.take_left]
      exact stands
    · rw [← List.head?_drop, hrest]
      exact ends

end Segments

/-- Extents that cover a text, blanks apart, can be cut off from its front. -/
theorem Segmented.segments {start : Nat} {text : List Char} {extents : List Extent}
    (h : Segmented start text extents) : Segments start (text.drop start) extents := by
  induction extents generalizing start with
  | nil => exact .blanks (nil_iff.mp h)
  | cons x extents ih =>
    obtain ⟨low, nonempty, high⟩ := h.inside x List.mem_cons_self
    have stands := h.lexeme x List.mem_cons_self
    have ends : x.token.symbol.EndsBefore (text.drop x.stop).head? := by
      rw [List.head?_drop]
      exact h.longest x List.mem_cons_self
    have hfirst : start + (between start x.token.offset text).length = x.token.offset := by
      rw [length_between (by omega)]
      omega
    have hstop : x.token.offset + (between x.token.offset x.stop text).length = x.stop := by
      rw [length_between high]
      omega
    have hcons := @Segments.token start (between start x.token.offset text)
      (between x.token.offset x.stop text) (text.drop x.stop) x.token.symbol extents
      h.front stands ends
    rw [hfirst, hstop] at hcons
    rw [drop_eq_between low, drop_eq_between (Nat.le_of_lt nonempty)]
    exact hcons (ih h.tail)

/-- Each token starts in front of the next one and of the end of the text. -/
theorem Segmented.offsets_increase {start : Nat} {text : List Char} {extents : List Extent}
    (h : Segmented start text extents) :
    ((extents.map Extent.token ++ [(⟨.finish, text.length⟩ : Token)]).map Token.offset).Pairwise
      (· < ·) := by
  rw [List.pairwise_map, List.pairwise_append, List.pairwise_map]
  refine ⟨?_, List.pairwise_singleton _ _, ?_⟩
  · refine h.ordered.imp_of_mem fun {x y} hx _ hxy => ?_
    exact Nat.lt_of_lt_of_le (h.inside x hx).2.1 hxy
  · intro t ht last hlast
    obtain ⟨x, hx, rfl⟩ := List.mem_map.mp ht
    rw [List.mem_singleton.mp hlast]
    exact Nat.lt_of_lt_of_le (h.inside x hx).2.1 (h.inside x hx).2.2

/-- Tokens of a text: those of a segmentation, and behind them the end of the text. -/
def IsTokenization (text : String) (tokens : List Token) : Prop :=
  ∃ extents, Segmented 0 text.toList extents ∧
    tokens = extents.map Extent.token ++ [⟨.finish, text.length⟩]

/-- **A text is split into tokens if and only if they are a segmentation of it.** It has no more than
one, in which each lexeme determines its symbol and the offsets increase up to the end of the text. -/
theorem tokenize_eq_ok_iff_segments (text : String) :
    (∀ tokens, tokenize text = .ok tokens ↔ IsTokenization text tokens) ∧
    (∀ tokens tokens', IsTokenization text tokens → IsTokenization text tokens' → tokens = tokens') ∧
    (∀ lexeme s s', IsLexeme lexeme s → IsLexeme lexeme s' → s = s') ∧
    ∀ tokens, IsTokenization text tokens → (tokens.map Token.offset).Pairwise (· < ·) := by
  have hiff : ∀ tokens, tokenize text = .ok tokens ↔ IsTokenization text tokens := by
    intro tokens
    rw [tokenize_eq_ok]
    constructor
    · rintro ⟨last, hlast, rfl⟩
      obtain ⟨extents, hextents, htokens, rfl⟩ := Segments.of_lex hlast
      refine ⟨extents, hextents.segmented List.drop_zero, ?_⟩
      rw [htokens, Cursor.start, Nat.zero_add, String.length_toList]
    · rintro ⟨extents, hextents, rfl⟩
      have hlex := hextents.segments.lex
      rw [List.drop_zero, Nat.zero_add, String.length_toList] at hlex
      refine ⟨⟨.finish, text.length⟩, ?_⟩
      rw [Cursor.start, hlex]
      exact ⟨rfl, rfl⟩
  refine ⟨hiff, ?_, fun _ _ _ h h' => h.symbol_eq h', ?_⟩
  · intro tokens tokens' h h'
    have hsame := (hiff tokens).mpr h
    rw [(hiff tokens').mpr h'] at hsame
    exact (Except.ok.inj hsame).symm
  · rintro tokens ⟨extents, hextents, rfl⟩
    have hincrease := hextents.offsets_increase
    rwa [String.length_toList] at hincrease

end Reckoner
