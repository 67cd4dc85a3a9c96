import Reckoner.Output.Outline
import Reckoner.Proofs.CanonicalNumerals
import Reckoner.Proofs.Parts
import Reckoner.Proofs.Printing
import Reckoner.Proofs.Tags

/-!
# Outlines are faithful

An outline has one line for each part of an expression, in the order in which evaluation comes to
them, and the labels tell the parts apart: an expression is determined by its plain outline. A colored
outline is the plain one with tags in its labels, and these can be taken out where an expression has
been read from text, since neither names nor numerals are escaped.
-/
namespace Reckoner

namespace Outline

/-- The outlines below a label. -/
def parts : Outline → List Outline
  | .node _ parts => parts

/-- The outline at the end of a path. -/
def part? : Outline → List Nat → Option Outline
  | outline, [] => some outline
  | outline, i :: path => outline.parts[i]?.bind fun part => part.part? path

mutual
/-- An outline with other labels. -/
def map (f : String → String) : Outline → Outline
  | .node label parts => .node (f label) (mapAll f parts)
termination_by structural outline => outline

/-- Outlines with other labels. -/
def mapAll (f : String → String) : List Outline → List Outline
  | [] => []
  | outline :: outlines => map f outline :: mapAll f outlines
termination_by structural outlines => outlines
end

theorem mapAll_eq (f : String → String) (outlines : List Outline) :
    mapAll f outlines = outlines.map (map f) := by
  induction outlines with
  | nil => rfl
  | cons outline outlines ih => rw [mapAll, ih, List.map_cons]

end Outline

namespace Expr

variable {a b e s : Expr} {colored : Bool}

/-! ## The shape of an outline -/

theorem outlineAll_eq (colored : Bool) (es : List Expr) :
    outlineAll colored es = es.map (outline colored) := by
  induction es with
  | nil => rfl
  | cons e es ih => rw [outlineAll, ih, List.map_cons]

/-- Below the label of an expression stand the outlines of its operands or arguments. -/
theorem outline_eq (colored : Bool) (e : Expr) :
    e.outline colored = .node (e.label colored) (e.children.map (outline colored)) := by
  cases e with
  | literal n => rfl
  | signed sign e => rfl
  | binary op l r => rfl
  | call name es => rw [outline, outlineAll_eq, children]

/-- An outline has the same paths as the expression, and they lead to the outlines of its parts. -/
theorem part?_outline (colored : Bool) (e : Expr) (path : List Nat) :
    (e.outline colored).part? path = (e.part? path).map (outline colored) := by
  induction path generalizing e with
  | nil => rfl
  | cons i path ih =>
    rw [Outline.part?, outline_eq, Outline.parts, List.getElem?_map, part?_cons]
    cases e.children[i]? with
    | none => rfl
    | some child => exact ih child

/-! ## Plain outlines -/

/-- An expression is made of its form, what it shows besides, and its operands or arguments. -/
theorem eq_of_parts (hform : a.form = b.form) (hdetail : a.detail = b.detail)
    (hchildren : a.children = b.children) : a = b := by
  cases a with
  | literal m =>
    cases b with
    | literal n => rw [Numeral.writeInt_injective hdetail]
    | _ => simp [form] at hform
  | signed s e =>
    cases b with
    | signed t e' =>
      obtain rfl := Sign.text_injective hdetail
      obtain ⟨rfl, -⟩ := List.cons.inj hchildren
      rfl
    | _ => simp [form] at hform
  | binary o l r =>
    cases b with
    | binary p l' r' =>
      obtain rfl := Operator.text_injective hdetail
      obtain ⟨rfl, hright⟩ := List.cons.inj hchildren
      obtain ⟨rfl, -⟩ := List.cons.inj hright
      rfl
    | _ => simp [form] at hform
  | call f as =>
    cases b with
    | call g bs =>
      have hname : f = g := by simpa [detail] using hdetail
      obtain rfl : as = bs := hchildren
      rw [hname]
    | _ => simp [form] at hform

theorem form_no_space (e : Expr) : ' ' ∉ e.form.toList := by
  cases e <;> simp [form]

/-- A plain label is split at its first blank. -/
theorem label_false_inj (h : a.label false = b.label false) :
    a.form = b.form ∧ a.detail = b.detail := by
  have hchars := congrArg String.toList h
  have hlabel : ∀ e : Expr, (e.label false).toList = e.form.toList ++ ' ' :: e.detail.toList := by
    intro e
    simp [label, Markup.brightBlue, Markup.colorize]
  rw [hlabel, hlabel] at hchars
  obtain ⟨hform, hdetail⟩ := Text.append_cons_inj a.form_no_space b.form_no_space hchars
  exact ⟨String.toList_injective hform, String.toList_injective hdetail⟩

theorem eq_of_map_outline {as bs : List Expr}
    (h : ∀ a ∈ as, ∀ b : Expr, a.outline false = b.outline false → a = b)
    (heq : as.map (outline false) = bs.map (outline false)) : as = bs := by
  induction as generalizing bs with
  | nil => exact (List.map_eq_nil_iff.mp heq.symm).symm
  | cons a as ih =>
    obtain ⟨first, others⟩ := List.forall_mem_cons.mp h
    obtain ⟨b, bs', rfl, hb, hbs⟩ := List.map_eq_cons_iff.mp heq.symm
    rw [first b hb.symm, ih others hbs.symm]

/-- **An expression is determined by its plain outline.** -/
theorem outline_false_injective (h : a.outline false = b.outline false) : a = b := by
  induction a using children_induction generalizing b with
  | step a ih =>
    rw [outline_eq, outline_eq] at h
    injection h with hlabel hparts
    obtain ⟨hform, hdetail⟩ := label_false_inj hlabel
    exact eq_of_parts hform hdetail (eq_of_map_outline (fun child hc b => ih child hc) hparts)

/-! ## Colored outlines -/

/-- The tags in colored outlines. -/
def outlineTags : List String :=
  ["[bright_blue]", "[/]"]

theorem isTag_outlineTags : ∀ tag ∈ outlineTags, Markup.IsTag tag := by
  simp only [outlineTags, List.forall_mem_cons]
  exact ⟨⟨"bright_blue", rfl, by decide⟩, ⟨"/", rfl, by decide⟩, List.forall_mem_nil _⟩

theorem inert_form (e : Expr) : Markup.Inert e.form := by
  cases e <;> simp [Markup.Inert, form]

theorem Spellable.inert_detail (h : e.Spellable) : Markup.Inert e.detail := by
  cases h with
  | literal => exact .writeInt _
  | signed sign => cases sign <;> simp [Markup.Inert, detail, Sign.text]
  | binary op => cases op <;> simp [Markup.Inert, detail, Operator.text]
  | call hname =>
    have hinert := Markup.Inert.of_isNamePart (Symbol.isNamePart_of_isName hname)
    exact hinert.append (by simp [Markup.Inert])

theorem Spellable.children (h : e.Spellable) : ∀ child ∈ e.children, child.Spellable := by
  cases h with
  | literal => exact nofun
  | signed _ h => exact List.forall_mem_singleton.mpr h
  | binary _ hl hr => exact List.forall_mem_cons.mpr ⟨hl, List.forall_mem_singleton.mpr hr⟩
  | call _ h => exact h

/-- Neither names nor numerals are changed by colors. -/
theorem Spellable.delete_label (h : e.Spellable) :
    Markup.delete outlineTags (e.label true) = e.label false := by
  have hform : Markup.Fades outlineTags (Markup.brightBlue e.form true)
      (Markup.brightBlue e.form false) :=
    .colorize isTag_outlineTags (by decide) (by decide) e.inert_form
  have hspace : Markup.Fades outlineTags " " " " :=
    .inert isTag_outlineTags (by simp [Markup.Inert])
  have hdetail : Markup.Fades outlineTags (Markup.escape e.detail) e.detail :=
    .escape isTag_outlineTags h.inert_detail
  exact ((hform.append hspace).append hdetail).delete_eq

/-- **Colors add nothing but tags**, at every depth. -/
theorem Spellable.map_outline (h : e.Spellable) :
    (e.outline true).map (Markup.delete outlineTags) = e.outline false := by
  induction e using children_induction with
  | step e ih =>
    have hchildren : (e.children.map (outline true)).map (Outline.map (Markup.delete outlineTags)) =
        e.children.map (outline false) := by
      rw [List.map_map]
      exact List.map_congr_left fun child hc => ih child hc (h.children child hc)
    rw [outline_eq, outline_eq, Outline.map, Outline.mapAll_eq, hchildren, h.delete_label]

/-- **Outlines are faithful.** Expressions with the same plain outline are the same. The colored
outline of an expression that has been read, without its tags, is the plain one. In both of them the
paths are those of the expression, a path leads to the outline of the part that it leads to in the
expression, and below a label stand the outlines of the operands or arguments in the order in which
these are evaluated. -/
theorem outline_faithful :
    (∀ a b : Expr, a.outline false = b.outline false ↔ a = b) ∧
    (∀ text e, parse text = .ok e →
      (e.outline true).map (Markup.delete ["[bright_blue]", "[/]"]) = e.outline false) ∧
    ∀ (e : Expr) (colored : Bool),
      (∀ path, (e.outline colored).part? path = (e.part? path).map (outline colored)) ∧
      e.outline colored = .node (e.label colored) (e.children.map (outline colored)) ∧
      ∀ registry, e.Unknown registry ∨ ∃ combine : List Number → Run Number,
        e.evaluate registry = evaluateAll registry e.children >>= combine := by
  refine ⟨fun a b => ⟨outline_false_injective, congrArg (outline false)⟩,
    fun text e h => (spellable_of_parse h).map_outline, fun e colored => ?_⟩
  exact ⟨part?_outline colored e, outline_eq colored e,
    fun registry => or_iff_not_imp_left.mpr evaluate_children⟩

/-- Below the call of `max` stand its arguments, and the operands of the second one below that. -/
theorem outline_faithful_call :
    let e := call "max" [signed .minus (literal 1), binary .mul (call "x_1" []) (literal 10)]
    parse "max(-1, x_1() * 10)" = .ok e ∧
      (e.outline true).map (Markup.delete ["[bright_blue]", "[/]"]) = e.outline false ∧
      (e.outline true).part? [1, 0] = some (.node "[bright_blue]FunctionCall[/] x_1()" []) := by
  intro e
  have hparse : parse "max(-1, x_1() * 10)" = .ok e := by
    with_unfolding_all rfl
  obtain ⟨-, hread, hshape⟩ := outline_faithful
  exact ⟨hparse, hread _ _ hparse, (hshape e true).1 [1, 0]⟩

end Expr
end Reckoner
