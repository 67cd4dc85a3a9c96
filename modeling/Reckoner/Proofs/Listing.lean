import Reckoner.Output.Console
import Reckoner.Proofs.CanonicalNumerals
import Reckoner.Proofs.OneLine
import Reckoner.Proofs.Printing
import Reckoner.Proofs.Tags

/-!
# Listings are faithful

A token is listed on a line of its own: its kind, its text and its place, with blanks between them.
No symbol that has been read is written with a blank or a line break, so none of the three can be
mistaken for another, and the listing of a text determines its tokens. A colored listing is the plain
one with tags in it.
-/
namespace Reckoner

/-- A symbol is known by its kind and its text. -/
theorem Symbol.eq_of_text {s s' : Symbol} (hkind : s.kind = s'.kind) (htext : s.text = s'.text) :
    s = s' := by
  cases s with
  | integer n =>
    cases s' with
    | integer n' => rw [Int.ofNat.inj (Numeral.writeInt_injective htext)]
    | _ => cases hkind
  | identifier name =>
    cases s' with
    | identifier name' => exact congrArg identifier htext
    | _ => cases hkind
  | _ => cases s' <;> first | rfl | cases hkind

/-- A symbol is written without blanks. -/
theorem Symbol.space_notMem_text {s : Symbol} (proper : s.Proper) : ' ' ∉ s.text.toList := by
  have hword : ∀ cs : List Char, (∀ c ∈ cs, Lexeme.isNamePart c = true) → ' ' ∉ cs :=
    fun cs h hspace => absurd (h _ hspace) (by decide)
  cases s with
  | integer n =>
    rw [text, Numeral.toList_writeInt_natCast]
    exact hword _ fun c hc => Lexeme.isNamePart_of_isDigit (Numeral.isDigit_of_mem_digits hc)
  | identifier name => exact hword _ (isNamePart_of_isName proper)
  | _ => simp [text]

theorem Kind.space_notMem_name (k : Kind) : ' ' ∉ k.name.toList := by
  cases k <;> simp [name]

theorem Kind.oneLine_name (k : Kind) : Text.OneLine k.name.toList := by
  cases k <;> simp [Text.OneLine, name]

theorem Symbol.kind_eq_finish {s : Symbol} : s.kind = .finish ↔ s = .finish := by
  cases s <;> simp [kind]

namespace Token

variable {t t' : Token} {ts ts' : List Token}

/-! ## The parts of a line -/

/-- The place of a token as it is shown. -/
def place (t : Token) : String :=
  "@" ++ toString t.offset

theorem line_of_finish (h : t.symbol = .finish) (colored : Bool) :
    t.line colored =
      Markup.magenta t.kind.name colored ++ " " ++ Markup.dimWhite t.place colored := by
  obtain ⟨symbol, offset⟩ := t
  cases h
  rfl

theorem line_of_ne (h : t.symbol ≠ .finish) (colored : Bool) :
    t.line colored = Markup.magenta t.kind.name colored ++ " " ++
      (if colored then Markup.escape t.symbol.text else t.symbol.text) ++ " " ++
        Markup.dimWhite t.place colored := by
  obtain ⟨symbol, offset⟩ := t
  cases symbol with
  | finish => exact absurd rfl h
  | _ => rfl

theorem text_of_finish (h : t.symbol = .finish) : t.text = t.kind.name ++ " " ++ t.place := by
  obtain ⟨symbol, offset⟩ := t
  cases h
  rfl

theorem text_of_ne (h : t.symbol ≠ .finish) :
    t.text = t.kind.name ++ " " ++ t.symbol.text ++ " " ++ t.place := by
  obtain ⟨symbol, offset⟩ := t
  have hplace : ∀ front : String,
      front ++ " @" ++ toString offset = front ++ " " ++ place ⟨symbol, offset⟩ := fun front => by
    apply String.toList_injective
    simp [place]
  cases symbol with
  | finish => exact absurd rfl h
  | _ => exact hplace _

/-- Without colors, the line of a token is its text. -/
theorem line_false (t : Token) : t.line false = t.text := by
  by_cases h : t.symbol = .finish
  · rw [line_of_finish h, text_of_finish h]
    rfl
  · rw [line_of_ne h, text_of_ne h]
    rfl

theorem Proper.of_ne (h : t.Proper) (hne : t.symbol ≠ .finish) : t.symbol.Proper :=
  h.resolve_left hne

theorem oneLine_place (t : Token) : Text.OneLine t.place.toList := by
  have hoffset : Text.OneLine (toString t.offset).toList := by
    have hint := Numeral.oneLine_writeInt t.offset
    rwa [Numeral.writeInt_eq] at hint
  rw [place, String.toList_append]
  exact hoffset.cons (by decide)

/-- The line of a token has no line break in it. -/
theorem Proper.oneLine_text (h : t.Proper) : Text.OneLine t.text.toList := by
  have hspace : Text.OneLine " ".toList := by
    simp [Text.OneLine]
  by_cases hfinish : t.symbol = .finish
  · rw [text_of_finish hfinish, String.toList_append, String.toList_append]
    exact ((Kind.oneLine_name _).append hspace).append t.oneLine_place
  · rw [text_of_ne hfinish, String.toList_append, String.toList_append, String.toList_append,
      String.toList_append]
    exact ((((Kind.oneLine_name _).append hspace).append
      (Symbol.oneLine_text (h.of_ne hfinish))).append hspace).append t.oneLine_place

/-! ## What a line shows -/

/-- The place is shown exactly. -/
theorem offset_eq_of_place (h : t.place = t'.place) : t.offset = t'.offset := by
  have hchars := congrArg String.toList h
  rw [place, place, String.toList_append, String.toList_append] at hchars
  exact Nat.repr_injective (String.toList_injective (List.append_cancel_left hchars))

/-- What stands in a line behind the kind. -/
def behindKind (t : Token) : List Char :=
  if t.symbol = .finish then t.place.toList
  else t.symbol.text.toList ++ ' ' :: t.place.toList

theorem toList_text (t : Token) : t.text.toList = t.kind.name.toList ++ ' ' :: t.behindKind := by
  by_cases h : t.symbol = .finish
  · simp [text_of_finish h, behindKind, h]
  · simp [text_of_ne h, behindKind, h]

/-- The line of a token determines the token: its kind stands in front of the first blank, and its
text, if it has one, in front of the next. -/
theorem Proper.eq_of_text (h : t.Proper) (h' : t'.Proper) (heq : t.text = t'.text) : t = t' := by
  have hchars := congrArg String.toList heq
  rw [toList_text, toList_text] at hchars
  obtain ⟨hname, hbehind⟩ := Text.append_cons_inj (Kind.space_notMem_name _)
    (Kind.space_notMem_name _) hchars
  have hkind : t.symbol.kind = t'.symbol.kind := Kind.name_injective (String.toList_injective hname)
  have hends : t.symbol = .finish ↔ t'.symbol = .finish := by
    rw [← Symbol.kind_eq_finish, hkind, Symbol.kind_eq_finish]
  by_cases hfinish : t.symbol = .finish
  · rw [behindKind, behindKind, if_pos hfinish, if_pos (hends.mp hfinish)] at hbehind
    have hoffset := offset_eq_of_place (String.toList_injective hbehind)
    exact congrArg₂ Token.mk (hfinish.trans (hends.mp hfinish).symm) hoffset
  · have hfinish' := mt hends.mpr hfinish
    rw [behindKind, behindKind, if_neg hfinish, if_neg hfinish'] at hbehind
    obtain ⟨htext, hplace⟩ := Text.append_cons_inj (Symbol.space_notMem_text (h.of_ne hfinish))
      (Symbol.space_notMem_text (h'.of_ne hfinish')) hbehind
    have hsymbol := Symbol.eq_of_text hkind (String.toList_injective htext)
    exact congrArg₂ Token.mk hsymbol (offset_eq_of_place (String.toList_injective hplace))

/-! ## Listings -/

/-- The lines of tokens, one below the other. -/
def listing (ts : List Token) : String :=
  String.join ((ts.map text).map (· ++ "\n"))

theorem toList_listing (ts : List Token) :
    (listing ts).toList = ts.flatMap fun t => t.text.toList ++ ['\n'] := by
  rw [listing, String.toList_join, List.map_map, List.flatMap_map]
  simp

/-- **A listing determines the tokens**: each line break ends the line of one token. -/
theorem listing_inj (h : ∀ t ∈ ts, t.Proper) (h' : ∀ t ∈ ts', t.Proper)
    (heq : listing ts = listing ts') : ts = ts' := by
  have hchars := congrArg String.toList heq
  rw [toList_listing, toList_listing] at hchars
  clear heq
  induction ts generalizing ts' with
  | nil =>
    cases ts' with
    | nil => rfl
    | cons t' ts' => simp at hchars
  | cons t ts ih =>
    cases ts' with
    | nil => simp at hchars
    | cons t' ts' =>
      obtain ⟨ht, hts⟩ := List.forall_mem_cons.mp h
      obtain ⟨ht', hts'⟩ := List.forall_mem_cons.mp h'
      simp only [List.flatMap_cons, List.append_assoc, List.singleton_append] at hchars
      -- no line breaks in the lines themselves, so the first one ends the first line
      obtain ⟨hline, hlines⟩ := Text.append_cons_inj ht.oneLine_text.not_mem_newline
        ht'.oneLine_text.not_mem_newline hchars
      rw [ht.eq_of_text ht' (String.toList_injective hline), ih hts hts' hlines]

/-! ## Colored lines -/

/-- The tags in colored listings. -/
def lineTags : List String :=
  ["[magenta]", "[dim white]", "[/]"]

theorem isTag_lineTags : ∀ tag ∈ lineTags, Markup.IsTag tag := by
  simp only [lineTags, List.forall_mem_cons]
  exact ⟨⟨"magenta", rfl, by decide⟩, ⟨"dim white", rfl, by decide⟩, ⟨"/", rfl, by decide⟩,
    List.forall_mem_nil _⟩

theorem inert_kind (k : Kind) : Markup.Inert k.name := by
  cases k <;> simp [Markup.Inert, Kind.name]

theorem inert_text {s : Symbol} (proper : s.Proper) : Markup.Inert s.text := by
  cases s with
  | integer n => exact .writeInt _
  | identifier name => exact .of_isNamePart (Symbol.isNamePart_of_isName proper)
  | _ => simp [Markup.Inert, Symbol.text]

theorem inert_place (t : Token) : Markup.Inert t.place := by
  have hoffset : Markup.Inert (toString t.offset) := by
    have hint := Markup.Inert.writeInt t.offset
    rwa [Numeral.writeInt_eq] at hint
  have hsign : Markup.Inert "@" := by
    simp [Markup.Inert]
  exact hsign.append hoffset

/-- Without its tags, a colored line is the plain one. -/
theorem Proper.delete_line (h : t.Proper) : Markup.delete lineTags (t.line true) = t.text := by
  have hkind : Markup.Fades lineTags (Markup.magenta t.kind.name true)
      (Markup.magenta t.kind.name false) :=
    .colorize isTag_lineTags (by decide) (by decide) (inert_kind _)
  have hspace : Markup.Fades lineTags " " " " :=
    .inert isTag_lineTags (by simp [Markup.Inert])
  have hplace : Markup.Fades lineTags (Markup.dimWhite t.place true)
      (Markup.dimWhite t.place false) :=
    .colorize isTag_lineTags (by decide) (by decide) t.inert_place
  by_cases hfinish : t.symbol = .finish
  · rw [line_of_finish hfinish, text_of_finish hfinish]
    exact ((hkind.append hspace).append hplace).delete_eq
  · have htext : Markup.Fades lineTags (Markup.escape t.symbol.text) t.symbol.text :=
      .escape isTag_lineTags (inert_text (h.of_ne hfinish))
    rw [line_of_ne hfinish, text_of_ne hfinish]
    exact ((((hkind.append hspace).append htext).append hspace).append hplace).delete_eq

end Token

open Token

/-- **Listings are faithful.** Without colors, the tokens of a text are listed one on a line, each as
its text, which has no line break in it; what is printed determines the tokens. With colors the lines
are markup, and without their tags they are the plain lines. -/
theorem listing_faithful {text : String} {ts : List Token} (h : tokenize text = .ok ts) :
    prepareTokens ts .text false = ts.map (fun t => .write (some t.text)) ∧
    (∀ t ∈ ts, Text.OneLine t.text.toList) ∧
    (∀ c : Console, c.print (prepareTokens ts .text false) = .ok (listing ts)) ∧
    (∀ text' ts', tokenize text' = .ok ts' → (listing ts = listing ts' ↔ ts = ts')) ∧
    ∃ lines : List String,
      prepareTokens ts .text true = lines.map (fun line => .print (some line) true) ∧
      lines.map (Markup.delete ["[magenta]", "[dim white]", "[/]"]) = ts.map Token.text := by
  have hproper : ∀ t ∈ ts, t.Proper := proper_of_tokenize h
  have hplain : prepareTokens ts .text false = Operation.lines (ts.map Token.text) false := by
    have hlines : (ts.map fun t => t.line false) = ts.map Token.text :=
      List.map_congr_left fun t _ => t.line_false
    rw [← hlines]
    rfl
  refine ⟨?_, fun t ht => (hproper t ht).oneLine_text, fun c => ?_, fun text' ts' h' => ?_,
    ts.map fun t => t.line true, rfl, ?_⟩
  · rw [hplain, Operation.lines, List.map_map]
    rfl
  · rw [hplain, c.print_lines]
    rfl
  · exact ⟨listing_inj hproper (proper_of_tokenize h'), congrArg listing⟩
  · rw [List.map_map]
    exact List.map_congr_left fun t ht => (hproper t ht).delete_line

/-- The listing of a call, which is another one with a blank in front of the parenthesis. -/
theorem listing_faithful_call :
    let ts := [⟨.identifier "f", 0⟩, ⟨.opening, 1⟩, ⟨.integer 10, 2⟩, ⟨.closing, 4⟩, ⟨.finish, 5⟩]
    let ts' := [⟨.identifier "f", 0⟩, ⟨.opening, 2⟩, ⟨.integer 10, 3⟩, ⟨.closing, 5⟩, ⟨.finish, 6⟩]
    (tokenize "f(10)" = .ok ts ∧ tokenize "f (10)" = .ok ts') ∧
      (Console.mk false).print (prepareTokens ts .text false) =
        .ok "IDENTIFIER f @0\nLPAREN ( @1\nINTEGER 10 @2\nRPAREN ) @4\nEOF @5\n" ∧
      listing ts ≠ listing ts' := by
  intro ts ts'
  have hts : tokenize "f(10)" = .ok ts := by
    with_unfolding_all rfl
  have hts' : tokenize "f (10)" = .ok ts' := by
    with_unfolding_all rfl
  obtain ⟨-, -, hprinted, hinj, -⟩ := listing_faithful hts
  have hlisting : listing ts =
      "IDENTIFIER f @0\nLPAREN ( @1\nINTEGER 10 @2\nRPAREN ) @4\nEOF @5\n" := by
    simp only [ts, listing, List.map_cons, List.map_nil, Token.text, Symbol.text,
      Numeral.writeInt_eq]
    rfl
  exact ⟨⟨hts, hts'⟩, (hprinted ⟨false⟩).trans (congrArg Except.ok hlisting),
    mt (hinj _ _ hts').mp (by decide)⟩

end Reckoner
