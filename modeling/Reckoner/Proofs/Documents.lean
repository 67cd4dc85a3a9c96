import Reckoner.Json.Writer
import Reckoner.Proofs.Numerals

/-!
# The text of a document, part by part

A value is written in front of what follows it. Here its text is cut into the texts of its parts:
those of lists and objects are joined by their items and fields, quoted texts are joined by the
escapes of their letters, and numbers hold neither quotation marks nor backslashes.
-/
namespace Reckoner

namespace Json

open Text

/-- Induction over documents: lists and objects may use their values. -/
@[elab_as_elim]
theorem induction {motive : Json → Prop} (null : motive .null) (bool : ∀ b, motive (.bool b))
    (number : ∀ n, motive (.number n)) (string : ∀ s, motive (.string s))
    (array : ∀ items, (∀ item ∈ items, motive item) → motive (.array items))
    (object : ∀ fields, (∀ f ∈ fields, motive f.2) → motive (.object fields)) (value : Json) :
    motive value :=
  match value with
  | .null => null
  | .bool b => bool b
  | .number n => number n
  | .string s => string s
  | .array items =>
    array items fun item _ => induction null bool number string array object item
  | .object fields =>
    object fields fun f _ => induction null bool number string array object f.2
termination_by sizeOf value
decreasing_by
  · have := List.sizeOf_lt_of_mem ‹_›
    simp only [Json.array.sizeOf_spec]
    omega
  · rename_i hf
    have := List.sizeOf_lt_of_mem hf
    have : sizeOf f = 1 + sizeOf f.1 + sizeOf f.2 := rfl
    simp only [Json.object.sizeOf_spec]
    omega

/-! ## Lists and objects -/

theorem writeItems_more (item item' : Json) (items : List Json) (rest : List Char) :
    writeItems (item :: item' :: items) rest =
      write item (',' :: ' ' :: writeItems (item' :: items) rest) := rfl

theorem writeFields_more (field field' : List Letter × Json) (fields : List (List Letter × Json))
    (rest : List Char) :
    writeFields (field :: field' :: fields) rest =
      quoted field.1 ++
        ':' :: ' ' :: write field.2 (',' :: ' ' :: writeFields (field' :: fields) rest) := rfl

/-- Texts with a comma and a blank between each two of them. -/
def joined (texts : List (List Char)) : List Char :=
  List.intercalate [',', ' '] texts

@[simp] theorem joined_nil : joined [] = [] := rfl

@[simp] theorem joined_single (cs : List Char) : joined [cs] = cs := List.intercalate_singleton

@[simp] theorem joined_cons_cons (cs ds : List Char) (texts : List (List Char)) :
    joined (cs :: ds :: texts) = cs ++ ([',', ' '] ++ joined (ds :: texts)) := by
  simp [joined]

/-- A field: its name, a colon and its value. -/
def renderField (f : List Letter × Json) : List Char :=
  quoted f.1 ++ ([':', ' '] ++ f.2.render)

theorem writeItems_eq {items : List Json}
    (h : ∀ item ∈ items, ∀ rest, write item rest = item.render ++ rest) (rest : List Char) :
    writeItems items rest = joined (items.map render) ++ rest := by
  induction items with
  | nil => rfl
  | cons item items ih =>
    obtain ⟨first, others⟩ := List.forall_mem_cons.mp h
    cases items with
    | nil => simp [writeItems, first]
    | cons item' items =>
      rw [writeItems_more, first, ih others]
      simp

theorem writeFields_eq {fields : List (List Letter × Json)}
    (h : ∀ f ∈ fields, ∀ rest, write f.2 rest = f.2.render ++ rest) (rest : List Char) :
    writeFields fields rest = joined (fields.map renderField) ++ rest := by
  induction fields with
  | nil => rfl
  | cons field fields ih =>
    obtain ⟨first, others⟩ := List.forall_mem_cons.mp h
    cases fields with
    | nil => simp [writeFields, first, renderField]
    | cons field' fields =>
      rw [writeFields_more, first, ih others]
      simp [renderField]

/-- A value is written the same, whatever follows it. -/
theorem write_eq (value : Json) (rest : List Char) : write value rest = value.render ++ rest := by
  induction value using Json.induction generalizing rest with
  | null => rfl
  | bool b => cases b <;> rfl
  | number n => simp [render, write]
  | string s => simp [render, write]
  | array items ih =>
    rw [render, write, write, writeItems_eq ih, writeItems_eq ih]
    simp
  | object fields ih =>
    rw [render, write, write, writeFields_eq ih, writeFields_eq ih]
    simp

theorem render_number (n : Number) : (number n).render = numeral n := List.append_nil _

theorem render_string (s : List Letter) : (string s).render = quoted s := List.append_nil _

theorem render_array (items : List Json) :
    (array items).render = ['['] ++ (joined (items.map render) ++ [']']) := by
  rw [render, write, writeItems_eq fun item _ => item.write_eq]
  rfl

theorem render_object (fields : List (List Letter × Json)) :
    (object fields).render = ['{'] ++ (joined (fields.map renderField) ++ ['}']) := by
  rw [render, write, writeFields_eq fun f _ => f.2.write_eq]
  rfl

end Json

/-! ## Numbers -/

/-- A text without quotation marks and backslashes. -/
def Text.Bare (cs : List Char) : Prop :=
  ∀ c ∈ cs, c ≠ '\x22' ∧ c ≠ '\\'

namespace Text.Bare

variable {cs ds : List Char}

theorem append (h : Bare cs) (h' : Bare ds) : Bare (cs ++ ds) :=
  List.forall_mem_append.mpr ⟨h, h'⟩

theorem cons {c : Char} (hc : c ≠ '\x22' ∧ c ≠ '\\') (h : Bare cs) : Bare (c :: cs) :=
  List.forall_mem_cons.mpr ⟨hc, h⟩

theorem of_subset (h : Bare ds) (hsub : ∀ c ∈ cs, c ∈ ds) : Bare cs :=
  fun c hc => h c (hsub c hc)

theorem of_digits (h : ∀ c ∈ cs, c.isDigit = true) : Bare cs := by
  intro c hc
  have digit := h c hc
  constructor
  · rintro rfl
    exact absurd digit (by decide)
  · rintro rfl
    exact absurd digit (by decide)

end Text.Bare

open Text

theorem Numeral.bare_writeInt (n : Int) : Bare (Numeral.writeInt n).toList := by
  have hdigits : Bare (Numeral.digits n.natAbs) := .of_digits fun _ => isDigit_of_mem_digits
  rw [toList_writeInt]
  split
  · exact hdigits.cons (by decide)
  · exact hdigits

namespace Decimal

theorem bare_zeros (n : Nat) : Bare (zeros n) := by
  intro c hc
  rw [List.eq_of_mem_replicate hc]
  decide

theorem bare_ofGrid (n : Nat) (unit : Int) : Bare (ofGrid n unit).digits := by
  have hdigits : Bare (Nat.toDigits 10 n) := .of_digits fun _ => Numeral.isDigit_of_mem_digits
  refine hdigits.of_subset fun c hc => ?_
  have hrev := List.dropWhile_subset _ (List.mem_reverse.mp hc)
  exact List.mem_reverse.mp hrev

theorem bare_shortest (m : Nat) (e : Int) : Bare (shortest m e).digits := by
  unfold shortest
  dsimp only
  cases h : (List.range' 1 17).findSome? _ with
  | none => exact nofun
  | some d =>
    obtain ⟨count, -, hd⟩ := List.exists_of_findSome?_eq_some h
    obtain ⟨n, -, rfl⟩ := Option.map_eq_some_iff.mp hd
    exact bare_ofGrid n _

theorem bare_write (layout : Layout) {d : Decimal} (h : Bare d.digits) : Bare (d.write layout) := by
  have htake : ∀ k, Bare (d.digits.take k) := fun k => h.of_subset fun _ => List.mem_of_mem_take
  have hdrop : ∀ k, Bare (d.digits.drop k) := fun k => h.of_subset fun _ => List.mem_of_mem_drop
  unfold write
  split
  · unfold positional
    split
    · exact .cons (by decide) (.cons (by decide) ((bare_zeros _).append h))
    · split
      · refine (h.append (bare_zeros _)).append ?_
        split
        · exact .cons (by decide) (.cons (by decide) nofun)
        · exact nofun
      · exact (htake _).append (.cons (by decide) (hdrop _))
  · have hwidth : Bare (Nat.toDigits 10 (d.point - 1).natAbs) :=
      .of_digits fun _ => Numeral.isDigit_of_mem_digits
    unfold scientific
    refine ((htake 1).append ?_).append (.cons (by decide) (.cons ?_ ((bare_zeros _).append hwidth)))
    · split
      · exact nofun
      · exact .cons (by decide) (hdrop 1)
    · split <;> decide

end Decimal

theorem Double.bare_signText (sign : Float.Model.UnpackedFloat.Sign) : Bare (signText sign) := by
  cases sign with
  | positive => exact nofun
  | negative => exact .cons (by decide) nofun

theorem Double.bare_text (x : Float) : Bare (Double.text x).toList := by
  unfold text write
  split
  · simp [Bare]
  · rw [String.toList_ofList]
    exact (bare_signText _).append (by simp [Bare])
  · rw [String.toList_ofList]
    exact (bare_signText _).append (by simp [Bare, Decimal.Layout.number])
  · rw [String.toList_ofList]
    exact (bare_signText _).append (Decimal.bare_write _ (Decimal.bare_shortest _ _))

/-- No number is written with quotation marks or backslashes. -/
theorem Json.bare_numeral (n : Number) : Bare (numeral n) := by
  cases n with
  | int n => exact Numeral.bare_writeInt n
  | float x =>
    have hfloat : numeral (.float x) = if x.isNaN then "NaN".toList
        else if x.isInf then (if x < 0 then "-Infinity" else "Infinity").toList
        else (Double.text x).toList := rfl
    rw [hfloat]
    split
    · simp [Bare]
    · split
      · split <;> simp [Bare]
      · exact Double.bare_text x

end Reckoner
