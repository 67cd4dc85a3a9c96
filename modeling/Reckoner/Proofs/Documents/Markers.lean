import Reckoner.Proofs.Documents

/-!
# Where markers can stand

Markers start with the NUL character, so in the text of a document that holds none, an opening
quotation mark with the escape of NUL behind it occurs at markers only. A text that is *sealed* holds
no marker, and none arises where it meets other sealed texts. So the first marker that comes behind a
sealed text is the first one of all.
-/
namespace Reckoner

open Text

/-- A letter of an ordinary text: a character other than NUL, or a surrogate. -/
def Text.Letter.Plain : Letter → Prop
  | .char c => c ≠ '\x00'
  | .lone unit => 0xD800 ≤ unit ∧ unit ≤ 0xDFFF

namespace Json

/-- How every marker starts: the opening quotation mark and the escape of the NUL character. -/
def opener : List Char :=
  '\x22' :: unitEscape 0

/-- No marker starts in a text when `rest` follows it. -/
def Clear : List Char → List Char → Prop
  | [], _ => True
  | c :: cs, rest => ¬ opener <+: c :: (cs ++ rest) ∧ Clear cs rest

/-- No marker starts in a text, whatever follows it and whatever it follows, as long as no backslash
gets behind a quotation mark. -/
structure Sealed (cs : List Char) : Prop where
  /-- The text does not start with a backslash. -/
  starts : cs.head? ≠ some '\\'
  /-- No marker starts in the text. -/
  clear : ∀ rest : List Char, rest.head? ≠ some '\\' → Clear cs rest

variable {cs ds rest : List Char}

theorem opener_prefix_cons {c : Char} :
    opener <+: c :: cs ↔ c = '\x22' ∧ unitEscape 0 <+: cs := by
  rw [opener, List.cons_prefix_cons, eq_comm]

theorem not_starts_unitEscape (h : cs.head? ≠ some '\\') (n : Nat) : ¬ unitEscape n <+: cs := by
  rintro ⟨ds, rfl⟩
  exact h rfl

theorem Clear.append (h : Clear cs (ds ++ rest)) (h' : Clear ds rest) : Clear (cs ++ ds) rest := by
  induction cs with
  | nil => exact h'
  | cons c cs ih =>
    obtain ⟨hc, hcs⟩ := h
    rw [← List.append_assoc] at hc
    exact ⟨hc, ih hcs⟩

theorem Clear.of_no_quote (h : ∀ c ∈ cs, c ≠ '\x22') : Clear cs rest := by
  induction cs with
  | nil => trivial
  | cons c cs ih =>
    obtain ⟨first, others⟩ := List.forall_mem_cons.mp h
    exact ⟨fun hopener => first (opener_prefix_cons.mp hopener).1, ih others⟩

namespace Sealed

theorem of_bare (h : Bare cs) : Sealed cs where
  starts hhead := by
    have hmem : '\\' ∈ cs := List.mem_of_mem_head? hhead
    exact (h _ hmem).2 rfl
  clear _ _ := .of_no_quote fun c hc => (h c hc).1

theorem append (h : Sealed cs) (h' : Sealed ds) : Sealed (cs ++ ds) where
  starts := by
    cases cs with
    | nil => exact h'.starts
    | cons c cs => exact h.starts
  clear rest hrest := by
    refine (h.clear _ ?_).append (h'.clear rest hrest)
    cases ds with
    | nil => exact hrest
    | cons d ds => exact h'.starts

end Sealed

/-! ## Quoted texts -/

theorem eq_zero_of_hexDigits {width n : Nat} (bound : n < Nat.pow 16 width)
    (h : hexDigits width n = hexDigits width 0) : n = 0 := by
  induction width generalizing n with
  | zero => exact Nat.lt_one_iff.mp bound
  | succ width ih =>
    obtain ⟨hfront, hlast⟩ := List.append_inj' h rfl
    -- the last digit is zero, and the number in front of it has one digit less
    have hdigit : Nat.digitChar (n % 16) = '0' := (List.cons.inj hlast).1
    have hmod : n % 16 = 0 := by
      have hlt : n % 16 < 16 := Nat.mod_lt n (by decide)
      revert hdigit
      generalize n % 16 = d at hlt
      revert d
      decide
    have hbound : n / 16 < Nat.pow 16 width := Nat.div_lt_of_lt_mul (by
      rwa [Nat.mul_comm])
    have hdiv : n / 16 = 0 := ih hbound hfront
    omega

theorem eq_zero_of_unitEscape {n : Nat} (bound : n < 0x10000)
    (h : unitEscape 0 <+: unitEscape n ++ rest) : n = 0 := by
  have hdigits : hexDigits 4 0 <+: hexDigits 4 n ++ rest := by
    simpa [unitEscape, List.cons_prefix_cons] using h
  have heq : hexDigits 4 0 = hexDigits 4 n := by
    obtain ⟨ds, hds⟩ := hdigits
    exact (List.append_inj hds (by simp [length_hexDigits])).1
  have hpow : Nat.pow 16 4 = 0x10000 := rfl
  exact eq_zero_of_hexDigits (hpow ▸ bound) heq.symm

theorem not_quote_of_mem_hexDigits {width n : Nat} : ∀ c ∈ hexDigits width n, c ≠ '\x22' := by
  induction width generalizing n with
  | zero => exact nofun
  | succ width ih =>
    exact List.forall_mem_append.mpr ⟨ih, by simp⟩

theorem not_quote_of_mem_unitEscape {n : Nat} : ∀ c ∈ unitEscape n, c ≠ '\x22' := by
  refine List.forall_mem_cons.mpr ⟨by decide, List.forall_mem_cons.mpr ⟨by decide, ?_⟩⟩
  exact not_quote_of_mem_hexDigits

/-- The three forms of an escape: the character itself, a backslash and a letter or mark, and code
units by their numbers. -/
theorem escape_forms {l : Letter} (h : l.Plain) :
    (∃ c, escape l = [c] ∧ c ≠ '\x22' ∧ c ≠ '\\') ∨
    (∃ d, escape l = ['\\', d] ∧ d ≠ 'u') ∨
    ∃ n cs, escape l = unitEscape n ++ cs ∧ n ≠ 0 ∧ n < 0x10000 ∧ ∀ c ∈ cs, c ≠ '\x22' := by
  cases l with
  | lone unit =>
    obtain ⟨hlow, hhigh⟩ := h
    exact .inr (.inr ⟨unit, [], (List.append_nil _).symm, by omega, by omega, nofun⟩)
  | char c =>
    have hnul : c.toNat ≠ 0 := fun hzero => h (Char.toNat_inj.mp hzero)
    unfold escape
    dsimp only
    split
    · rename_i hc
      exact .inr (.inl ⟨c, rfl, by rcases hc with rfl | rfl <;> decide⟩)
    · rename_i hc
      obtain ⟨hquote, hbackslash⟩ := not_or.mp hc
      split
      · exact .inr (.inl ⟨'n', rfl, by decide⟩)
      split
      · exact .inr (.inl ⟨'r', rfl, by decide⟩)
      split
      · exact .inr (.inl ⟨'t', rfl, by decide⟩)
      split
      · exact .inr (.inl ⟨'f', rfl, by decide⟩)
      split
      · exact .inr (.inl ⟨'b', rfl, by decide⟩)
      split
      · exact .inl ⟨c, rfl, hquote, hbackslash⟩
      split
      · rename_i hlow
        exact .inr (.inr ⟨c.toNat, [], (List.append_nil _).symm, hnul, hlow, nofun⟩)
      · -- a pair of surrogates, of which the first one is far from zero
        have hmax : c.toNat < 0x110000 := by
          rcases c.valid with hlow | ⟨-, hhigh⟩
          · exact Nat.lt_trans hlow (by decide)
          · exact hhigh
        refine .inr (.inr ⟨(surrogates c.toNat).1, _, rfl, ?_, ?_, not_quote_of_mem_unitEscape⟩)
        · simp only [surrogates]
          omega
        · simp only [surrogates]
          omega

/-- Only NUL has the escape of NUL. -/
theorem not_prefix_escape {l : Letter} (h : l.Plain) : ¬ unitEscape 0 <+: escape l ++ rest := by
  rcases escape_forms h with ⟨c, hl, -, hc⟩ | ⟨d, hl, hd⟩ | ⟨n, cs, hl, hn, bound, -⟩
  · rw [hl]
    exact not_starts_unitEscape (by simpa using hc) 0
  · rw [hl]
    rintro ⟨ds, hds⟩
    exact hd (List.cons.inj (List.cons.inj hds).2).1.symm
  · rw [hl, List.append_assoc]
    exact fun hstarts => hn (eq_zero_of_unitEscape bound hstarts)

theorem Clear.escape {l : Letter} (h : l.Plain) (hrest : ¬ unitEscape 0 <+: rest) :
    Clear (Json.escape l) rest := by
  rcases escape_forms h with ⟨c, hl, hc, -⟩ | ⟨d, hl, -⟩ | ⟨n, cs, hl, -, -, hcs⟩
  · rw [hl]
    exact .of_no_quote (by simpa using hc)
  · rw [hl]
    -- the letter behind the backslash may be a quotation mark, but NUL does not follow it
    refine ⟨fun hopener => ?_, fun hopener => hrest (opener_prefix_cons.mp hopener).2, trivial⟩
    exact absurd (opener_prefix_cons.mp hopener).1 (by decide)
  · rw [hl]
    exact .of_no_quote (List.forall_mem_append.mpr ⟨not_quote_of_mem_unitEscape, hcs⟩)

/-- What follows a quotation mark within a quoted text is not the escape of NUL. -/
theorem not_prefix_flatMap_escape {s : List Letter} (h : ∀ l ∈ s, l.Plain) :
    ¬ unitEscape 0 <+: s.flatMap Json.escape ++ '\x22' :: rest := by
  cases s with
  | nil => exact not_starts_unitEscape (by simp) 0
  | cons l s =>
    rw [List.flatMap_cons, List.append_assoc]
    exact not_prefix_escape (h l (by simp))

theorem Clear.flatMap_escape {s : List Letter} (h : ∀ l ∈ s, l.Plain) :
    Clear (s.flatMap Json.escape) ('\x22' :: rest) := by
  induction s with
  | nil => trivial
  | cons l s ih =>
    obtain ⟨first, others⟩ := List.forall_mem_cons.mp h
    exact (Clear.escape first (not_prefix_flatMap_escape others)).append (ih others)

/-- No marker starts in a quoted text without NUL. -/
theorem Sealed.quoted {s : List Letter} (h : ∀ l ∈ s, l.Plain) : Sealed (quoted s) where
  starts := by simp [Json.quoted]
  clear rest hrest := by
    -- the closing quotation mark could start a marker only together with what follows
    have hclosing : Clear ['\x22'] rest :=
      ⟨fun hopener => not_starts_unitEscape hrest 0 (opener_prefix_cons.mp hopener).2, trivial⟩
    refine ⟨fun hopener => ?_, (Clear.flatMap_escape h).append hclosing⟩
    have hstarts := (opener_prefix_cons.mp hopener).2
    rw [List.append_assoc] at hstarts
    exact not_prefix_flatMap_escape h hstarts

/-! ## Markers -/

theorem opener_prefix_marker (n : Nat) : opener <+: quoted (marker n) := by
  refine ⟨(letters (String.ofList ("long-integer:".toList ++ Numeral.digits n))).flatMap escape ++
    ['\x22'], ?_⟩
  simp [quoted, marker, letters, opener, escape]

/-- The first marker of a text gives way. -/
theorem replaceFirst_clear {what new before : List Char} (marked : opener <+: what)
    (h : Clear cs (what ++ rest)) :
    replaceFirst what new before (cs ++ (what ++ rest)) =
      before.reverse ++ (cs ++ (new ++ rest)) := by
  induction cs generalizing before with
  | nil =>
    obtain ⟨tail, rfl⟩ := marked
    have hstarts : (opener ++ tail).isPrefixOf (opener ++ tail ++ rest) = true :=
      List.isPrefixOf_iff_prefix.mpr (List.prefix_append ..)
    have hcons : opener ++ tail ++ rest = '\x22' :: (unitEscape 0 ++ tail ++ rest) := rfl
    rw [List.nil_append, List.nil_append, hcons, replaceFirst, ← hcons, if_pos hstarts,
      List.drop_left]
  | cons c cs ih =>
    obtain ⟨hc, hcs⟩ := h
    have hstarts : ¬ what.isPrefixOf (c :: (cs ++ (what ++ rest))) = true := fun hwhat =>
      hc (marked.trans (List.isPrefixOf_iff_prefix.mp hwhat))
    rw [List.cons_append, replaceFirst, if_neg hstarts, ih hcs]
    simp

end Json
end Reckoner
