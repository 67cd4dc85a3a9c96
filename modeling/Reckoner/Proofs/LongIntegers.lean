import Reckoner.Output.Operation
import Reckoner.Proofs.Calls
import Reckoner.Proofs.Documents.Markers
import Reckoner.Proofs.Printing

/-!
# Long integers in documents

A long integer is written last: a marker holds its place until the rest of the document has been
written. In a document without NUL characters the first marker in the text is always the one that is
put back next, and everything in front of it is as it should be. So the detour does not show.
-/
namespace Reckoner

open Text

theorem Expr.toJsonAll_eq (es : List Expr) : toJsonAll es = es.map toJson := by
  induction es with
  | nil => rfl
  | cons e es ih => rw [toJsonAll, ih, List.map_cons]

/-- The names in an expression that can be written are names. -/
theorem Expr.Spellable.isName_of_mem_calls {e : Expr} (h : e.Spellable) {c : String × List Expr}
    (hc : c ∈ e.calls) : isName c.1 = true := by
  induction h with
  | literal => simp at hc
  | signed _ _ ih => exact ih (by simpa using hc)
  | binary _ _ _ ihl ihr =>
    rw [Expr.calls_binary, List.mem_append] at hc
    exact hc.elim ihl ihr
  | call hname _ ih =>
    rw [Expr.calls_call, List.mem_append, Expr.mem_callsAll, List.mem_singleton] at hc
    rcases hc with ⟨e, he, hc⟩ | rfl
    · exact ih e he hc
    · exact hname

namespace Json

/-- A document whose texts, names of fields included, hold no NUL character. -/
inductive Plain : Json → Prop
  | null : Plain .null
  | bool (b : Bool) : Plain (.bool b)
  | number (n : Number) : Plain (.number n)
  | string {s : List Letter} (h : ∀ l ∈ s, l.Plain) : Plain (.string s)
  | array {items : List Json} (h : ∀ item ∈ items, Plain item) : Plain (.array items)
  | object {fields : List (List Letter × Json)} (names : ∀ f ∈ fields, ∀ l ∈ f.1, l.Plain)
      (values : ∀ f ∈ fields, Plain f.2) : Plain (.object fields)

/-- The integers `longs`, with the numbers from `n` on, turn the text `short` into `full`, whatever
follows it and whatever stands in front of it without a marker. -/
structure Restores (n : Nat) (longs : List Int) (short full : List Char) : Prop where
  /-- No marker is left. -/
  complete : Sealed full
  /-- All markers of these integers give way. -/
  putBack (before after : List Char) (more : List Int) (clear : Sealed before) :
    putBack n (longs ++ more) (before ++ (short ++ after)) =
      putBack (n + longs.length) more (before ++ (full ++ after))

namespace Restores

variable {n : Nat} {longs longs' : List Int} {short short' full full' : List Char}

/-- A text without markers stays as it is. -/
theorem same (n : Nat) (h : Sealed full) : Restores n [] full full where
  complete := h
  putBack _ _ _ _ := rfl

/-- The digits of an integer take the place of its marker. -/
theorem long (n : Nat) (long : Int) :
    Restores n [long] (quoted (marker n)) (Numeral.writeInt long).toList where
  complete := .of_bare (Numeral.bare_writeInt long)
  putBack before after more clear := by
    have hmark : (quoted (marker n) ++ after).head? ≠ some '\\' := by simp [quoted]
    have hfirst : replaceFirst (quoted (marker n)) (Numeral.writeInt long).toList []
        (before ++ (quoted (marker n) ++ after)) =
          before ++ ((Numeral.writeInt long).toList ++ after) :=
      replaceFirst_clear (opener_prefix_marker n) (clear.clear _ hmark)
    rw [List.singleton_append, Json.putBack, hfirst]
    rfl

/-- Texts are restored one after the other. -/
theorem append (h : Restores n longs short full)
    (h' : Restores (n + longs.length) longs' short' full') :
    Restores n (longs ++ longs') (short ++ short') (full ++ full') where
  complete := h.complete.append h'.complete
  putBack before after more clear := by
    have hfirst := h.putBack before (short' ++ after) (longs' ++ more) clear
    -- by then the first text is restored, so no marker stands in front of the second one
    have hsecond := h'.putBack (before ++ full) after more (clear.append h.complete)
    rw [List.append_assoc, List.append_assoc, hfirst, ← List.append_assoc before, hsecond,
      List.append_assoc before, List.append_assoc full, List.length_append, Nat.add_assoc]

/-- What stands in front of a text and holds no marker stays as it is. -/
theorem behind (h : Restores n longs short full) {cs : List Char} (hcs : Sealed cs) :
    Restores n longs (cs ++ short) (cs ++ full) :=
  (Restores.same n hcs).append h

/-- What follows a text and holds no marker stays as it is. -/
theorem before (h : Restores n longs short full) {cs : List Char} (hcs : Sealed cs) :
    Restores n longs (short ++ cs) (full ++ cs) := by
  have hboth := h.append (.same _ hcs)
  rwa [List.append_nil] at hboth

end Restores

/-- Texts that are restored one after the other. -/
inductive RestoresAll : Nat → List Int → List (List Char) → List (List Char) → Prop
  | nil (n : Nat) : RestoresAll n [] [] []
  | cons {n : Nat} {longs longs' : List Int} {short full : List Char}
      {shorts fulls : List (List Char)} (first : Restores n longs short full)
      (others : RestoresAll (n + longs.length) longs' shorts fulls) :
      RestoresAll n (longs ++ longs') (short :: shorts) (full :: fulls)

theorem RestoresAll.joined {n : Nat} {longs : List Int} {shorts fulls : List (List Char)}
    (h : RestoresAll n longs shorts fulls) : Restores n longs (joined shorts) (joined fulls) := by
  have hcomma : Sealed [',', ' '] := .of_bare (by simp [Bare])
  induction h with
  | nil n => exact .same n (.of_bare (by simp [Bare]))
  | cons first others ih =>
    cases others with
    | nil n => simpa using first
    | cons =>
      rw [joined_cons_cons, joined_cons_cons]
      exact first.append (ih.behind hcomma)

/-- The integers that a text sets aside go in front of those that are aside already, last one first,
and the texts behind it go on with all of them. -/
theorem RestoresAll.found {found found' found'' longs : List Int} {short full : List Char}
    {shorts fulls : List (List Char)} (first : Restores found.length longs short full)
    (haside : found' = longs.reverse ++ found)
    (others : ∃ longs', found'' = longs'.reverse ++ found' ∧
      RestoresAll found'.length longs' shorts fulls) :
    ∃ all, found'' = all.reverse ++ found ∧
      RestoresAll found.length all (short :: shorts) (full :: fulls) := by
  obtain ⟨longs', haside', hothers⟩ := others
  have hlength : found'.length = found.length + longs.length := by
    rw [haside, List.length_append, List.length_reverse, Nat.add_comm]
  rw [hlength] at hothers
  refine ⟨longs ++ longs', ?_, .cons first hothers⟩
  rw [haside', haside, List.reverse_append, List.append_assoc]

/-! ## Documents -/

/-- Whatever has been set aside before, the long integers of a value can be put back. -/
def Restorable (value : Json) : Prop :=
  ∀ found, ∃ longs, (setAside value found).2 = longs.reverse ++ found ∧
    Restores found.length longs (setAside value found).1.render value.render

/-- A value without long integers stays as it is. -/
theorem Restorable.of_same {value : Json} (h : Sealed value.render)
    (same : ∀ found, setAside value found = (value, found)) : value.Restorable := by
  intro found
  rw [same]
  exact ⟨[], rfl, .same _ h⟩

theorem restorable_number (n : Number) : (number n).Restorable := by
  have hrender : Sealed (number n).render := by
    rw [render_number]
    exact .of_bare (bare_numeral n)
  cases n with
  | float x => exact .of_same hrender fun _ => rfl
  | int n =>
    by_cases hlong : Numeral.isLong n = true
    · intro found
      rw [setAside, if_pos hlong, render_string, render_number]
      exact ⟨[n], rfl, .long found.length n⟩
    · exact .of_same hrender fun found => by rw [setAside, if_neg hlong]

/-- The items of a list, one by one: each finds aside what those before it have added. -/
theorem restoresAll_items {items : List Json} (h : ∀ item ∈ items, item.Restorable)
    (found : List Int) :
    ∃ longs, (setAsideItems items found).2 = longs.reverse ++ found ∧
      RestoresAll found.length longs ((setAsideItems items found).1.map render)
        (items.map render) := by
  induction items generalizing found with
  | nil => exact ⟨[], rfl, .nil _⟩
  | cons item items ih =>
    obtain ⟨first, others⟩ := List.forall_mem_cons.mp h
    obtain ⟨longs, haside, hitem⟩ := first found
    exact RestoresAll.found hitem haside (ih others (setAside item found).2)

theorem restoresAll_fields {fields : List (List Letter × Json)}
    (names : ∀ f ∈ fields, ∀ l ∈ f.1, l.Plain) (h : ∀ f ∈ fields, f.2.Restorable)
    (found : List Int) :
    ∃ longs, (setAsideFields fields found).2 = longs.reverse ++ found ∧
      RestoresAll found.length longs ((setAsideFields fields found).1.map renderField)
        (fields.map renderField) := by
  induction fields generalizing found with
  | nil => exact ⟨[], rfl, .nil _⟩
  | cons field fields ih =>
    obtain ⟨name, value⟩ := field
    obtain ⟨hname, hnames⟩ := List.forall_mem_cons.mp names
    obtain ⟨first, others⟩ := List.forall_mem_cons.mp h
    obtain ⟨longs, haside, hvalue⟩ := first found
    have hcolon : Sealed [':', ' '] := .of_bare (by simp [Bare])
    exact RestoresAll.found ((hvalue.behind hcolon).behind (.quoted hname)) haside
      (ih hnames others (setAside value found).2)

/-- The long integers of every document without NUL characters can be put back. -/
theorem Plain.restorable {value : Json} (h : value.Plain) : value.Restorable := by
  induction h with
  | null => exact .of_same (.of_bare (by simp [Bare, render, write])) fun _ => rfl
  | bool b => exact .of_same (.of_bare (by cases b <;> simp [Bare, render, write])) fun _ => rfl
  | number n => exact restorable_number n
  | @string s h =>
    refine .of_same ?_ fun _ => rfl
    rw [render_string]
    exact .quoted h
  | @array items _ ih =>
    intro found
    obtain ⟨longs, haside, hitems⟩ := restoresAll_items ih found
    have hopening : Sealed ['['] := .of_bare (by simp [Bare])
    have hclosing : Sealed [']'] := .of_bare (by simp [Bare])
    refine ⟨longs, haside, ?_⟩
    rw [setAside, render_array, render_array]
    exact (hitems.joined.before hclosing).behind hopening
  | @object fields names _ ih =>
    intro found
    obtain ⟨longs, haside, hfields⟩ := restoresAll_fields names ih found
    have hopening : Sealed ['{'] := .of_bare (by simp [Bare])
    have hclosing : Sealed ['}'] := .of_bare (by simp [Bare])
    refine ⟨longs, haside, ?_⟩
    rw [setAside, render_object, render_object]
    exact (hfields.joined.before hclosing).behind hopening

theorem Plain.dump {value : Json} (h : value.Plain) :
    value.dump = String.ofList value.render := by
  obtain ⟨longs, haside, hrestores⟩ := h.restorable []
  have hback := hrestores.putBack [] [] [] (.of_bare (by simp [Bare]))
  have hlongs : (setAside value []).2.reverse = longs := by
    rw [haside, List.append_nil, List.reverse_reverse]
  simp only [List.append_nil, List.nil_append, List.length_nil, Nat.zero_add] at hback
  apply Option.some.inj
  rw [← dump?_eq_dump, dump?_eq, hlongs, hback]
  rfl

/-! ## The documents of the commands -/

/-- A string without the NUL character. -/
def Unmarked (s : String) : Prop :=
  ∀ c ∈ s.toList, c ≠ '\x00'

theorem Unmarked.letters {s : String} (h : Unmarked s) : ∀ l ∈ letters s, l.Plain := by
  intro l hl
  obtain ⟨c, hc, rfl⟩ := List.mem_map.mp hl
  exact h c hc

theorem Plain.text {s : String} (h : Unmarked s) : (Json.text s).Plain :=
  .string h.letters

theorem Plain.fields {fs : List (String × Json)} (names : ∀ name ∈ fs.map Prod.fst, Unmarked name)
    (values : ∀ value ∈ fs.map Prod.snd, value.Plain) : (Json.fields fs).Plain := by
  refine .object ?_ ?_
  · rw [List.forall_mem_map]
    exact fun f hf => (names f.1 (List.mem_map_of_mem hf)).letters
  · rw [List.forall_mem_map]
    exact fun f hf => values f.2 (List.mem_map_of_mem hf)

/-- No part of a word is NUL. -/
theorem unmarked_of_isName {name : String} (h : isName name = true) : Unmarked name := by
  rintro c hc rfl
  exact absurd (Symbol.isNamePart_of_isName h _ hc) (by decide)

/-- A text that can be split into tokens holds no NUL character. -/
theorem unmarked_of_tokenize {text : String} {ts : List Token} (h : tokenize text = .ok ts) :
    Unmarked text := by
  obtain ⟨last, hlast, -⟩ := tokenize_eq_ok.mp h
  rintro c hc rfl
  rcases Cursor.lex_characters _ hlast _ hc with blank | part | mark
  · exact absurd blank (by decide)
  · exact absurd part (by decide)
  · exact mark rfl

theorem unmarked_kind (k : Kind) : Unmarked k.name := by
  cases k <;> simp [Unmarked, Kind.name]

theorem Plain.token {t : Token} (h : t.Proper) : t.toJson.Plain := by
  obtain ⟨symbol, offset⟩ := t
  have hfields : ∀ value : Json, value.Plain → (Json.fields [("kind", .text symbol.kind.name),
      ("value", value), ("offset", .int offset)]).Plain := by
    intro value hvalue
    refine .fields (by simp [Unmarked]) ?_
    simp only [List.map_cons, List.map_nil, List.forall_mem_cons]
    exact ⟨.text (unmarked_kind _), hvalue, .number _, List.forall_mem_nil _⟩
  cases symbol with
  | integer n => exact hfields (.int n) (.number _)
  | identifier name =>
    have hname : isName name = true := h.resolve_left Symbol.noConfusion
    exact hfields (.text name) (.text (unmarked_of_isName hname))
  | _ => exact hfields (.text _) (.text (by simp [Unmarked, Symbol.text]))

/-- The documents for expressions whose names hold no NUL character. -/
theorem Plain.toJson {e : Expr} (h : ∀ name ∈ e.called, Unmarked name) : e.toJson.Plain := by
  have hform : ∀ e : Expr, (Json.text e.form).Plain := fun e =>
    .text (by cases e <;> simp [Unmarked, Expr.form])
  simp only [Expr.mem_called, forall_exists_index] at h
  induction e using Expr.induction with
  | literal n =>
    refine .fields (by simp [Unmarked]) ?_
    simp only [List.map_cons, List.map_nil, List.forall_mem_cons]
    exact ⟨hform (.literal n), .number _, List.forall_mem_nil _⟩
  | signed sign e ih =>
    have hsign : Unmarked sign.text := by cases sign <;> simp [Unmarked, Sign.text]
    refine .fields (by simp [Unmarked]) ?_
    simp only [List.map_cons, List.map_nil, List.forall_mem_cons]
    exact ⟨hform (.signed sign e), .text hsign, ih h, List.forall_mem_nil _⟩
  | binary op l r ihl ihr =>
    have hop : Unmarked op.text := by cases op <;> simp [Unmarked, Operator.text]
    have hl := ihl fun name es hc => h name es (by simp [hc])
    have hr := ihr fun name es hc => h name es (by simp [hc])
    refine .fields (by simp [Unmarked]) ?_
    simp only [List.map_cons, List.map_nil, List.forall_mem_cons]
    exact ⟨hform (.binary op l r), .text hop, hl, hr, List.forall_mem_nil _⟩
  | call name es ih =>
    have harguments : ∀ item ∈ Expr.toJsonAll es, item.Plain := by
      rw [Expr.toJsonAll_eq, List.forall_mem_map]
      exact fun e he => ih e he fun other args hc =>
        h other args (by simp [Expr.mem_callsAll.mpr ⟨e, he, hc⟩])
    refine .fields (by simp [Unmarked]) ?_
    simp only [List.map_cons, List.map_nil, List.forall_mem_cons]
    exact ⟨hform (.call name es), .text (h name es (by simp)), .array harguments,
      List.forall_mem_nil _⟩

/-- The names that can be written hold no NUL character. -/
theorem Plain.expr {e : Expr} (h : e.Spellable) : e.toJson.Plain := by
  refine .toJson fun name hname => ?_
  obtain ⟨args, hc⟩ := Expr.mem_called.mp hname
  exact unmarked_of_isName (h.isName_of_mem_calls hc)

/-- The documents for tokens. -/
theorem Plain.tokens {text : String} {ts : List Token} (h : tokenize text = .ok ts) :
    (Json.array (ts.map Token.toJson)).Plain := by
  have htokens : ∀ t ∈ ts, t.toJson.Plain := fun t ht => .token (proper_of_tokenize h t ht)
  exact .array (List.forall_mem_map.mpr htokens)

/-- The documents for results. -/
theorem Plain.result {text : String} {e : Expr} (h : parse text = .ok e) (n : Number) :
    (Json.fields [("expression", .text text), ("result", .number n)]).Plain := by
  obtain ⟨⟨last, hlast⟩, -⟩ := parse_eq_ok.mp h
  have hunmarked : Unmarked text := unmarked_of_tokenize (tokenize_eq_ok.mpr ⟨last, hlast, rfl⟩)
  refine .fields (by simp [Unmarked]) ?_
  simp only [List.map_cons, List.map_nil, List.forall_mem_cons]
  exact ⟨.text hunmarked, .number n, List.forall_mem_nil _⟩

end Json

/-- **The detour by markers does not show.** A document whose texts hold no NUL character is written
as if every integer stood in its place from the start, in its canonical form. Every document is
written, since what is written at once holds no long integer. All documents that the commands make of
accepted texts have texts without NUL characters. -/
theorem dump_eq_render :
    (∀ value : Json, value.Plain → value.dump = String.ofList value.render) ∧
    (∀ value : Json, value.dump? = some value.dump ∧
      ∀ n ∈ (Json.setAside value []).1.integers, Numeral.isLong n = false) ∧
    (∀ n : Int, Json.numeral (.int n) = (toString n).toList) ∧
    (∀ text e, parse text = .ok e → e.toJson.Plain ∧
      ∀ n, (Json.fields [("expression", .text text), ("result", .number n)]).Plain) ∧
    ∀ text ts, tokenize text = .ok ts → (Json.array (ts.map Token.toJson)).Plain := by
  refine ⟨fun value h => h.dump, fun value => ⟨value.dump?_eq_dump, fun n => Json.isLong_setAside⟩,
    fun n => ?_, fun text e h => ⟨?_, fun n => ?_⟩, fun text ts h => .tokens h⟩
  · rw [Json.numeral, Numeral.writeInt_eq]
  · exact .expr (spellable_of_parse h)
  · exact .result h n

/-- One integer of too many digits twice, and between them a text that looks like the start of a
marker; and the documents for a call and for a comma. -/
theorem dump_eq_render_twice :
    let value := Json.array [.int Numeral.overlong, .text "\"\\u0000", .int Numeral.overlong]
    value.encode? = none ∧ value.Plain ∧ value.dump = String.ofList value.render ∧
    value.dump? = some value.dump ∧
    parse "f()" = .ok (.call "f" []) ∧ (Expr.call "f" []).toJson.Plain ∧
    tokenize "," = .ok [⟨.comma, 0⟩, ⟨.finish, 1⟩] ∧
    (Json.array ([⟨.comma, 0⟩, ⟨.finish, 1⟩].map Token.toJson)).Plain := by
  intro value
  have refused : value.encode? = none := by
    have hall : value.integers.all Numeral.isConvertible = false := by
      rw [List.all_eq_false]
      exact ⟨Numeral.overlong, List.mem_cons_self, by simp [Numeral.isConvertible_overlong]⟩
    rw [Json.encode?, hall, if_neg Bool.false_ne_true]
  have hplain : value.Plain := by
    refine .array ?_
    simp only [List.forall_mem_cons]
    exact ⟨.number _, .text (by simp [Json.Unmarked]), .number _, List.forall_mem_nil _⟩
  have hparse : parse "f()" = .ok (.call "f" []) := by with_unfolding_all rfl
  have htokens : tokenize "," = .ok [⟨.comma, 0⟩, ⟨.finish, 1⟩] := by with_unfolding_all rfl
  obtain ⟨written, total, -, commands, listings⟩ := dump_eq_render
  exact ⟨refused, hplain, written _ hplain, (total _).1, hparse, (commands _ _ hparse).1, htokens,
    listings _ _ htokens⟩

end Reckoner
