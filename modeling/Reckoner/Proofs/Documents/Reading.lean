import Reckoner.Json.Reader
import Reckoner.Proofs.Documents
import Reckoner.Proofs.Documents.Lexemes

/-!
# Documents are read back

What the reader does with the text of a value depends on nothing in front of it: wherever a value may
come, the reader goes on behind the text with the value completed (`Legible.run_render`). So a whole
document is read back from its text (`read_render`).

This holds for documents of texts, integers, lists and objects without a name given twice. A double
is written with the fewest digits that tell it from the others, and that these are read back is not
shown here.
-/
namespace Reckoner

/-- Distinct names keep their places and values. -/
theorem Assoc.ofList_of_nodup {κ α : Type} [DecidableEq κ] {entries : List (κ × α)}
    (h : (entries.map Prod.fst).Nodup) : ofList entries = entries := by
  have hinsert : ∀ (key : κ) (value : α) (table : List (κ × α)), key ∉ table.map Prod.fst →
      insert key value table = table ++ [(key, value)] := by
    intro key value table fresh
    induction table with
    | nil => rfl
    | cons entry table ih =>
      obtain ⟨hne, hrest⟩ := not_or.mp (List.mem_cons.not.mp fresh)
      rw [insert, if_neg (Ne.symm hne), ih hrest]
      rfl
  induction entries using List.reverseRecOn with
  | nil => rfl
  | append_singleton entries entry ih =>
    rw [List.map_append, List.nodup_append] at h
    obtain ⟨hbefore, -, hfresh⟩ := h
    have hlast : entry.1 ∉ entries.map Prod.fst := fun hmem =>
      hfresh _ hmem _ (by simp) rfl
    have hfold : ofList (entries ++ [entry]) = insert entry.1 entry.2 (ofList entries) := by
      simp [ofList]
    rw [hfold, ih hbefore, hinsert _ _ _ hlast]

namespace Json

open Text

/-- A document of words, integers, texts made of characters, lists, and objects whose names are
distinct. -/
inductive Legible : Json → Prop
  | null : Legible .null
  | bool (b : Bool) : Legible (.bool b)
  | int (n : Int) : Legible (.int n)
  | text (s : String) : Legible (.text s)
  | array {items : List Json} (h : ∀ item ∈ items, Legible item) : Legible (.array items)
  | fields {fs : List (String × Json)} (names : (fs.map Prod.fst).Nodup)
      (values : ∀ f ∈ fs, Legible f.2) : Legible (.fields fs)

variable {limit : Option Nat} {r : Reading} {frames : List Frame} {cs rest : List Char}

namespace Reading

/-! ## One lexeme -/

theorem split?_of_isSpace {c : Char} (h : Lexeme.isSpace c = true) (cs : List Char) :
    Lexeme.split? (c :: cs) = none := by
  have hc : ((c = ' ' ∨ c = '\t') ∨ c = '\n') ∨ c = '\r' := by
    simpa [Lexeme.isSpace] using h
  rcases hc with ((rfl | rfl) | rfl) | rfl <;> rfl

/-- Blanks are skipped. -/
theorem run_space {c : Char} (h : Lexeme.isSpace c = true) (cs : List Char) :
    run limit r (c :: cs) = run limit r cs := by
  rw [run, run, List.dropWhile_cons_of_pos h]

/-- The reader goes on by the lexeme at the start of the text. -/
theorem run_lexeme {l : Lexeme} {r' : Reading} (hsplit : Lexeme.split? cs = some (l, rest))
    (hstep : r.step limit l = .ok r') : run limit r cs = run limit r' rest := by
  have hhere : cs.dropWhile Lexeme.isSpace = cs := by
    cases cs with
    | nil => rfl
    | cons c cs =>
      refine List.dropWhile_cons_of_neg fun space => ?_
      rw [split?_of_isSpace space] at hsplit
      cases hsplit
  have hne : cs ≠ [] := by
    rintro rfl
    cases hsplit
  rw [run]
  simp only [hhere, if_neg hne]
  split
  · rename_i hnone
    rw [hhere, hsplit] at hnone
    cases hnone
  · rename_i l' rest' hsome
    rw [hhere, hsplit] at hsome
    cases hsome
    rw [hstep]

theorem run_nothing (limit : Option Nat) (document : Json) :
    run limit ⟨[], .nothing document⟩ [] = .ok document := by
  simp [run]

/-! ## Places for values and names -/

/-- A place where a value may come, with the lists and objects that are open around the value. -/
inductive Awaits : Reading → List Frame → Prop
  | value (frames : List Frame) : Awaits ⟨frames, .value⟩ frames
  | firstItem (frames : List Frame) : Awaits ⟨frames, .firstItem⟩ (.array [] :: frames)

theorem Awaits.step (h : Awaits r frames) {l : Lexeme} (hl : l ≠ .closeArray) :
    r.step limit l = begin limit frames l := by
  cases h with
  | value => rfl
  | firstItem =>
    unfold Reading.step
    split <;> simp_all

/-- A place where a name may come, behind these fields, which are given last one first. -/
inductive AwaitsName : Reading → List (List Letter × Json) → List Frame → Prop
  | first (frames : List Frame) : AwaitsName ⟨frames, .firstName⟩ [] frames
  | next (frames : List Frame) (found : List (List Letter × Json)) :
      AwaitsName ⟨frames, .name found⟩ found frames

theorem AwaitsName.step {found : List (List Letter × Json)} (h : AwaitsName r found frames)
    (name : List Letter) :
    r.step limit (.string name) = .ok ⟨frames, .colon found name⟩ := by
  cases h <;> rfl

end Reading

open Reading

/-- Wherever a value may come, the text of this value completes it. -/
def ReadBack (value : Json) : Prop :=
  ∀ {r : Reading} {frames : List Frame} {rest : List Char}, Awaits r frames → Closes rest →
    run none r (value.render ++ rest) = run none (complete value frames) rest

/-! ## Lists and objects -/

theorem closes_comma (cs : List Char) : Closes (',' :: cs) := by
  simp [Closes]

theorem closes_array (cs : List Char) : Closes (']' :: cs) := by
  simp [Closes]

theorem closes_object (cs : List Char) : Closes ('\x7d' :: cs) := by
  simp [Closes]

/-- The items of a list are read one by one, behind those that have been found. -/
theorem run_items {item : Json} {items found : List Json} (h : ∀ i ∈ item :: items, i.ReadBack)
    (hr : Awaits r (.array found :: frames)) (rest : List Char) :
    run none r (joined ((item :: items).map render) ++ ']' :: rest) =
      run none (complete (.array (found.reverse ++ item :: items)) frames) rest := by
  induction items generalizing item found r with
  | nil =>
    have hitem : item.ReadBack := h item List.mem_cons_self
    rw [List.map_singleton, joined_single, hitem hr (closes_array rest), run_lexeme rfl rfl,
      List.reverse_cons]
  | cons item' items ih =>
    obtain ⟨hitem, hothers⟩ := List.forall_mem_cons.mp h
    -- behind the comma the reader awaits a value, with one more item in the open list
    have hnext := ih hothers (.value (.array (item :: found) :: frames))
    rw [List.reverse_cons, List.append_assoc] at hnext
    rw [List.map_cons, List.map_cons, joined_cons_cons, List.append_assoc, List.append_assoc,
      List.cons_append, hitem hr (closes_comma _), run_lexeme rfl rfl, List.singleton_append,
      run_space rfl]
    exact hnext

/-- A field is read: its name, the colon and its value. -/
theorem run_field {name : String} {value : Json} {found : List (List Letter × Json)}
    (h : value.ReadBack) (hr : AwaitsName r found frames) (hrest : Closes rest) :
    run none r (renderField (letters name, value) ++ rest) =
      run none ⟨frames, .moreFields ((letters name, value) :: found)⟩ rest := by
  have hvalue := h (.value (.object found (letters name) :: frames)) hrest
  rw [renderField, List.append_assoc, run_lexeme (split?_quoted name _) (hr.step (letters name)),
    List.append_assoc, List.cons_append, run_lexeme rfl rfl, List.singleton_append, run_space rfl]
  exact hvalue

/-- The fields of an object are read one by one, behind those that have been found. -/
theorem run_fields {f : String × Json} {fs : List (String × Json)}
    {found : List (List Letter × Json)} (h : ∀ g ∈ f :: fs, g.2.ReadBack)
    (hr : AwaitsName r found frames) (rest : List Char) :
    run none r (joined ((f :: fs).map fun g => renderField (letters g.1, g.2)) ++ '\x7d' :: rest) =
      run none (complete (objectOf (((f :: fs).map fun g => (letters g.1, g.2)).reverse ++ found))
        frames) rest := by
  induction fs generalizing f found r with
  | nil =>
    have hfield : f.2.ReadBack := h f List.mem_cons_self
    rw [List.map_singleton, joined_single, run_field hfield hr (closes_object rest),
      run_lexeme rfl rfl]
    rfl
  | cons f' fs ih =>
    obtain ⟨hfield, hothers⟩ := List.forall_mem_cons.mp h
    -- behind the comma it awaits a name, with one more field
    have hnext := ih hothers (.next frames ((letters f.1, f.2) :: found))
    rw [List.map_cons, List.map_cons, joined_cons_cons, List.append_assoc, List.append_assoc,
      List.cons_append, run_field hfield hr (closes_comma _), run_lexeme rfl rfl,
      List.singleton_append, run_space rfl, List.map_cons, List.reverse_cons, List.append_assoc]
    exact hnext

/-! ## Documents -/

/-- An object with distinct names is made of the fields that have been read. -/
theorem objectOf_reverse {fs : List (String × Json)} (names : (fs.map Prod.fst).Nodup) :
    objectOf (fs.map fun f => (letters f.1, f.2)).reverse = .fields fs := by
  have hnodup : ((fs.map fun f => (letters f.1, f.2)).map Prod.fst).Nodup := by
    have hletters : (fs.map fun f => (letters f.1, f.2)).map Prod.fst =
        (fs.map Prod.fst).map letters := by
      rw [List.map_map, List.map_map]
      rfl
    rw [hletters]
    exact names.map fun _ _ => letters_injective
  rw [objectOf, List.reverse_reverse, Assoc.ofList_of_nodup hnodup]
  rfl

/-- **Every legible value is read back** wherever a value may come. -/
theorem Legible.readBack {value : Json} (h : value.Legible) : value.ReadBack := by
  induction h with
  | null =>
    intro r frames rest hr _
    exact run_lexeme rfl (hr.step nofun)
  | bool b =>
    intro r frames rest hr _
    cases b with
    | true => exact run_lexeme rfl (hr.step nofun)
    | false => exact run_lexeme rfl (hr.step nofun)
  | int n =>
    intro r frames rest hr hrest
    have hstep : r.step none (.numeral (integerLiteral n)) =
        begin none frames (.numeral (integerLiteral n)) := hr.step nofun
    rw [begin, toNumber_integerLiteral] at hstep
    rw [Json.int, render_number]
    exact run_lexeme (split?_writeInt n hrest) hstep
  | text s =>
    intro r frames rest hr _
    rw [Json.text, render_string]
    exact run_lexeme (split?_quoted s rest) (hr.step nofun)
  | @array items h ih =>
    intro r frames rest hr _
    have hopening : r.step none .openArray = .ok ⟨frames, .firstItem⟩ := hr.step nofun
    rw [render_array, List.append_assoc, List.singleton_append, run_lexeme rfl hopening,
      List.append_assoc, List.singleton_append]
    cases items with
    | nil => exact run_lexeme rfl rfl
    | cons item items => exact run_items ih (.firstItem frames) rest
  | @fields fs names values ih =>
    intro r frames rest hr _
    have hopening : r.step none .openObject = .ok ⟨frames, .firstName⟩ := hr.step nofun
    rw [Json.fields, render_object, List.append_assoc, List.singleton_append,
      run_lexeme rfl hopening, List.append_assoc, List.singleton_append, List.map_map]
    cases fs with
    | nil => exact run_lexeme rfl rfl
    | cons f fs =>
      have hfields := run_fields ih (.first frames) rest
      rw [List.append_nil, objectOf_reverse names] at hfields
      exact hfields

/-- **A legible document is read back from its text**, and from the line that it is printed on. -/
theorem read_render {value : Json} (h : value.Legible) :
    read none value.render = .ok value ∧ read none (value.render ++ ['\n']) = .ok value := by
  have hend : run none (complete value []) ['\n'] = .ok value := by
    rw [run_space rfl]
    exact run_nothing none value
  have hplain : run none ⟨[], .value⟩ (value.render ++ []) = run none (complete value []) [] :=
    h.readBack (.value []) nofun
  have hline : run none ⟨[], .value⟩ (value.render ++ ['\n']) =
      run none (complete value []) ['\n'] :=
    h.readBack (.value []) (by simp [Closes])
  rw [List.append_nil] at hplain
  rw [read, read, hplain, hline, hend]
  exact ⟨run_nothing none value, rfl⟩

end Json
end Reckoner
