import Reckoner.Output.Markup
import Reckoner.Proofs.Lexing

/-!
# Deleting tags

Colored output is plain output with tags in it. `Markup.delete` takes these out of a text again. What
it leaves of a colored text is the plain one, provided that no text between the tags has brackets or
backslashes of its own, which would have been escaped (`Fades.colorize`).
-/
namespace Reckoner

/-- A text is split in one way only at the first place of a character. -/
theorem Text.append_cons_inj {c : Char} {before before' rest rest' : List Char} (h : c ∉ before)
    (h' : c ∉ before') (heq : before ++ c :: rest = before' ++ c :: rest') :
    before = before' ∧ rest = rest' := by
  have hsplit : ∀ cs ds : List Char, c ∉ cs →
      (cs ++ c :: ds).splitOnP (· == c) = cs :: ds.splitOnP (· == c) := by
    intro cs ds hcs
    have hne : ∀ d ∈ cs, (d == c) = false := fun d hd =>
      beq_eq_false_iff_ne.mpr fun hdc => hcs (hdc ▸ hd)
    exact List.splitOnP_append_cons_of_forall_mem hne c (beq_self_eq_true c) ds
  have hparts := congrArg (List.splitOnP (· == c)) heq
  rw [hsplit _ _ h, hsplit _ _ h'] at hparts
  obtain ⟨rfl, -⟩ := List.cons.inj hparts
  exact ⟨rfl, (List.cons.inj (List.append_cancel_left heq)).2⟩

namespace Markup

/-- The characters of a text without these tags. -/
def deleteFrom (tags : List String) : List Char → List Char
  | [] => []
  | c :: cs =>
    match tags.find? fun tag => tag.toList.isPrefixOf (c :: cs) with
    | some tag => deleteFrom tags (cs.drop (tag.length - 1))
    | none => c :: deleteFrom tags cs
termination_by cs => cs.length
decreasing_by all_goals simp only [List.length_drop, List.length_cons]; omega

/-- A text without these tags. -/
def delete (tags : List String) (text : String) : String :=
  String.ofList (deleteFrom tags text.toList)

/-- The tag of a style, or the one that ends a style. -/
def IsTag (tag : String) : Prop :=
  ∃ style : String, tag = "[" ++ style ++ "]" ∧ ']' ∉ style.toList

/-- A text without opening brackets and backslashes, which means the same as markup. -/
def Inert (text : String) : Prop :=
  ∀ c ∈ text.toList, c ≠ '[' ∧ c ≠ '\\'

namespace Inert

variable {text text' : String}

theorem append (h : Inert text) (h' : Inert text') : Inert (text ++ text') := by
  rw [Inert, String.toList_append]
  exact List.forall_mem_append.mpr ⟨h, h'⟩

/-- Words mean the same as markup. -/
theorem of_isNamePart (h : ∀ c ∈ text.toList, Lexeme.isNamePart c = true) : Inert text := by
  intro c hc
  have part := h c hc
  constructor
  · rintro rfl
    exact absurd part (by decide)
  · rintro rfl
    exact absurd part (by decide)

/-- Numerals mean the same as markup, whatever their sign and length. -/
theorem writeInt (n : Int) : Inert (Numeral.writeInt n) := by
  have hdigits : ∀ c ∈ Numeral.digits n.natAbs, c ≠ '[' ∧ c ≠ '\\' := by
    have hinert : Inert (String.ofList (Numeral.digits n.natAbs)) := .of_isNamePart fun c hc =>
      Lexeme.isNamePart_of_isDigit (Numeral.isDigit_of_mem_digits (String.toList_ofList ▸ hc))
    rwa [Inert, String.toList_ofList] at hinert
  rw [Inert, Numeral.toList_writeInt]
  split
  · exact List.forall_mem_cons.mpr ⟨by decide, hdigits⟩
  · exact hdigits

end Inert

/-! ## Escaping -/

theorem escapeTags_inert {cs : List Char} (h : ∀ c ∈ cs, c ≠ '[' ∧ c ≠ '\\') :
    escapeTags 0 cs = cs := by
  induction cs with
  | nil => rfl
  | cons c cs ih =>
    obtain ⟨⟨hbracket, hbackslash⟩, hcs⟩ := List.forall_mem_cons.mp h
    rw [escapeTags, if_neg hbackslash, if_neg fun hc => hbracket hc.1, ih hcs]
    rfl

theorem closeEnd_inert {cs : List Char} (h : ∀ c ∈ cs, c ≠ '\\') : closeEnd cs = cs := by
  cases hlast : cs.reverse with
  | nil => rw [closeEnd, hlast]
  | cons c cs' =>
    have hc : c ≠ '\\' := h c (List.mem_reverse.mp (hlast ▸ List.mem_cons_self))
    rw [closeEnd, hlast]
    split <;> simp_all

/-- A text without brackets and backslashes needs no escaping. -/
theorem escape_inert {text : String} (h : Inert text) : escape text = text := by
  rw [escape, escapeTags_inert h, closeEnd_inert fun c hc => (h c hc).2, String.ofList_toList]

/-! ## Deleting -/

variable {tags : List String} {tag tag' : String} {cs rest : List Char}

theorem IsTag.exists_toList (h : IsTag tag) :
    ∃ style, tag.toList = '[' :: (style ++ [']']) ∧ ']' ∉ style := by
  obtain ⟨style, rfl, hstyle⟩ := h
  exact ⟨style.toList, by simp, hstyle⟩

/-- A text starts with one tag at most. -/
theorem IsTag.eq_of_isPrefix (h : IsTag tag) (h' : IsTag tag')
    (hstarts : tag'.toList <+: tag.toList ++ rest) : tag' = tag := by
  obtain ⟨style, hstyle, hends⟩ := h.exists_toList
  obtain ⟨style', hstyle', hends'⟩ := h'.exists_toList
  obtain ⟨rest', hrest'⟩ := hstarts
  rw [hstyle, hstyle'] at hrest'
  simp only [List.cons_append, List.append_assoc, List.cons.injEq, true_and, List.nil_append]
    at hrest'
  have hsame := (Text.append_cons_inj hends' hends hrest').1
  apply String.toList_injective
  rw [hstyle, hstyle', hsame]

/-- A tag is left out. -/
theorem deleteFrom_tag (htags : ∀ tag ∈ tags, IsTag tag) (hmem : tag ∈ tags) (rest : List Char) :
    deleteFrom tags (tag.toList ++ rest) = deleteFrom tags rest := by
  obtain ⟨style, hstyle, -⟩ := (htags tag hmem).exists_toList
  have hfind : tags.find? (fun tag' => tag'.toList.isPrefixOf (tag.toList ++ rest)) = some tag := by
    cases hfound : tags.find? (fun tag' => tag'.toList.isPrefixOf (tag.toList ++ rest)) with
    | none =>
      have hno := List.find?_eq_none.mp hfound tag hmem
      simp at hno
    | some tag' =>
      have hstarts : tag'.toList.isPrefixOf (tag.toList ++ rest) = true := by
        simpa using List.find?_some hfound
      rw [(htags tag hmem).eq_of_isPrefix (htags tag' (List.mem_of_find?_eq_some hfound))
        (List.isPrefixOf_iff_prefix.mp hstarts)]
  have hlength : tag.length = style.length + 2 := by
    rw [← String.length_toList, hstyle]
    simp
  rw [hstyle, List.cons_append] at hfind ⊢
  rw [deleteFrom, hfind]
  simp [hlength]

/-- Characters other than opening brackets are left as they are. -/
theorem deleteFrom_of_ne (htags : ∀ tag ∈ tags, IsTag tag) (h : ∀ c ∈ cs, c ≠ '[')
    (rest : List Char) : deleteFrom tags (cs ++ rest) = cs ++ deleteFrom tags rest := by
  induction cs with
  | nil => rfl
  | cons c cs ih =>
    obtain ⟨hc, hcs⟩ := List.forall_mem_cons.mp h
    have hfind : tags.find? (fun tag => tag.toList.isPrefixOf (c :: (cs ++ rest))) = none := by
      rw [List.find?_eq_none]
      intro tag hmem
      obtain ⟨style, hstyle, -⟩ := (htags tag hmem).exists_toList
      simp [hstyle, hc.symm]
    rw [List.cons_append, deleteFrom, hfind, List.cons_append]
    simp only [ih hcs]

/-- Without the tags the text `colored` is the text `plain`, whatever follows it. -/
def Fades (tags : List String) (colored plain : String) : Prop :=
  ∀ rest, deleteFrom tags (colored.toList ++ rest) = plain.toList ++ deleteFrom tags rest

namespace Fades

variable {text colored plain colored' plain' : String}

theorem inert (htags : ∀ tag ∈ tags, IsTag tag) (h : Inert text) : Fades tags text text :=
  fun rest => deleteFrom_of_ne htags (fun c hc => (h c hc).1) rest

theorem escape (htags : ∀ tag ∈ tags, IsTag tag) (h : Inert text) :
    Fades tags (escape text) text := by
  rw [escape_inert h]
  exact inert htags h

theorem append (h : Fades tags colored plain) (h' : Fades tags colored' plain') :
    Fades tags (colored ++ colored') (plain ++ plain') := by
  intro rest
  rw [String.toList_append, String.toList_append, List.append_assoc, h, h', List.append_assoc]

/-- Text in a style, without the tags of the style. -/
theorem colorize (htags : ∀ tag ∈ tags, IsTag tag) {style : String}
    (opening : "[" ++ style ++ "]" ∈ tags) (closing : "[/]" ∈ tags) (h : Inert text) :
    Fades tags (colorize text style true) (Markup.colorize text style false) := by
  intro rest
  have hcolored : Markup.colorize text style true = "[" ++ style ++ "]" ++ (text ++ "[/]") := by
    -- inside of the tags the text stands escaped
    rw [Markup.colorize, if_pos rfl, escape_inert h, String.append_assoc]
  have hplain : Markup.colorize text style false = text := rfl
  rw [hcolored, hplain, String.toList_append, List.append_assoc, deleteFrom_tag htags opening,
    String.toList_append, List.append_assoc, inert htags h, deleteFrom_tag htags closing]

theorem delete_eq (h : Fades tags colored plain) : delete tags colored = plain := by
  have hall := h []
  rw [List.append_nil] at hall
  rw [delete, hall, deleteFrom, List.append_nil, String.ofList_toList]

end Fades
end Markup
end Reckoner
