import Reckoner.Config.Sections
import Reckoner.Proofs.IntegerClosure
import Reckoner.Proofs.Resolution
import Reckoner.Proofs.Spelling

/-!
# Accepted functions can be used

A configuration is checked before it is used. Its functions pass the check if their names are names
and their bodies can be read; they are usable if each name is one token of the language, which stands
for itself, and a registry can be built from the bodies. Both come to the same, so nothing that has
been accepted fails when it is defined. Once it is defined, the call of a function means the body as
it was read, over the functions in front of it.
-/
namespace Reckoner

open Text

/-! ## Names are tokens -/

/-- The text of a symbol has that symbol as its only token. -/
theorem tokenize_text {s : Symbol} (proper : s.Proper) :
    tokenize s.text = .ok [⟨s, 0⟩, ⟨.finish, s.text.length⟩] := by
  have hcut : Lexeme.cut (s.text.toList ++ []) = (s.text.toList, []) := Symbol.cut_text proper nofun
  have hnext := @Cursor.next_lexeme s [] s.text.toList [] nofun hcut (Symbol.symbol?_text proper) 0
  have hend := @Cursor.next_blank [] nofun s.text.length
  have more : s ≠ .finish := by
    rintro rfl
    exact proper
  simp only [List.nil_append, List.append_nil, List.length_nil, Nat.add_zero, Nat.zero_add,
    String.length_toList] at hnext hend
  rw [tokenize_eq, Cursor.start, Cursor.lex_token hnext more, Cursor.lex_finish hend rfl]
  rfl

/-- A text is a name if and only if its only token is that name. -/
theorem tokenize_eq_name_iff {name : String} :
    tokenize name = .ok [⟨.identifier name, 0⟩, ⟨.finish, name.length⟩] ↔ isName name = true := by
  constructor
  · intro h
    obtain ⟨last, -, heq⟩ := tokenize_eq_ok.mp h
    have hsplit : [⟨.identifier name, 0⟩] ++ [⟨.finish, name.length⟩] =
        (Cursor.start name).lex.1 ++ [last] := heq
    obtain ⟨hbody, -⟩ := List.append_inj' hsplit rfl
    have proper := Cursor.lex_proper (Cursor.start name)
    rw [← hbody, List.forall_mem_singleton] at proper
    exact proper
  · intro h
    exact tokenize_text (s := .identifier name) h

/-- A name with empty parentheses is a call without arguments. -/
theorem parse_bare_call {name : String} (h : isName name = true) :
    parse (name ++ "()") = .ok (.call name []) := by
  have hname : Spelled name.toList [.identifier name] := Spelled.text (s := .identifier name) h
  have hclosing : Spelled [')'] [.closing] := Spelled.mark rfl (@Spelled.blanks [] nofun)
  have hcall := (Grammar.Derives.call name .noArguments).factor_term.term_expression
  refine parse_eq_ok_iff_spelled.mpr ⟨_, ?_, hcall⟩
  rw [String.toList_append]
  exact hname.append_mark rfl hclosing

/-! ## Reading the sections -/

/-- Items are the fields of values exactly if each of them is read as its value. -/
theorem mapM_eq_some_iff {α β : Type} {read : α → Option β} {write : β → α} {good : β → Prop}
    (h : ∀ a b, read a = some b ↔ a = write b ∧ good b) {as : List α} {bs : List β} :
    as.mapM read = some bs ↔ as = bs.map write ∧ ∀ b ∈ bs, good b := by
  induction as generalizing bs with
  | nil => cases bs <;> simp
  | cons a as ih =>
    rw [List.mapM_cons]
    cases bs with
    | nil => cases read a <;> cases as.mapM read <;> simp
    | cons b bs => simp [Option.bind_eq_some_iff, h, ih, and_and_and_comm]

theorem ofLetters?_eq_some {ls : List Letter} {s : String} : ofLetters? ls = some s ↔ ls = letters s := by
  constructor
  · intro h
    have hletter : ∀ l c, Letter.char? l = some c ↔ l = .char c ∧ True := by
      intro l c
      cases l <;> simp [Letter.char?]
    obtain ⟨cs, hcs, rfl⟩ := Option.map_eq_some_iff.mp h
    obtain ⟨rfl, -⟩ := (mapM_eq_some_iff hletter).mp hcs
    rw [letters, String.toList_ofList]
  · rintro rfl
    exact ofLetters?_letters s

/-- The field of a definition. -/
def definitionField (d : String × String) : List Letter × Json :=
  (letters d.1, .text d.2)

theorem isDefinition_iff {name text : String} : isDefinition name text = true ↔
    isName name = true ∧ ∃ body, parse text = .ok body := by
  rw [isDefinition, Bool.and_eq_true]
  cases parse text <;> simp [Except.isOk, Except.toBool]

theorem definition?_eq_some (field : List Letter × Json) (d : String × String) :
    Sections.definition? field = some d ↔
      field = definitionField d ∧ isDefinition d.1 d.2 = true := by
  obtain ⟨name, value⟩ := field
  obtain ⟨n, t⟩ := d
  cases value with
  | string text =>
    simp only [Sections.definition?, Option.bind_eq_bind, Option.bind_eq_some_iff,
      ofLetters?_eq_some, definitionField, Json.text]
    constructor
    · rintro ⟨name', rfl, text', rfl, h⟩
      split at h
      · cases h
        exact ⟨rfl, ‹_›⟩
      · cases h
    · rintro ⟨heq, h⟩
      cases heq
      exact ⟨n, rfl, t, rfl, if_pos h⟩
  | _ => simp [Sections.definition?, definitionField, Json.text]

/-- The section of a configuration is an object with the given fields; a missing one has none. -/
inductive IsSection (config : Fields) (name : String) : Fields → Prop
  | missing (h : config.get? name = none) : IsSection config name []
  | object {fields : Fields} (h : config.get? name = some (.object fields)) :
      IsSection config name fields

theorem object?_eq_some {config fields : Fields} {name : String} :
    Sections.object? config name = some fields ↔ IsSection config name fields := by
  unfold Sections.object?
  constructor
  · intro h
    split at h
    · cases h
      exact .missing ‹_›
    · cases h
      exact .object ‹_›
    · cases h
  · intro h
    cases h with
    | missing h => rw [h]
    | object h => rw [h]

/-- The sections of a configuration in terms of its fields. -/
theorem ofFields?_eq_some {config : Fields} {s : Sections} :
    Sections.ofFields? config = some s ↔
      (∀ field ∈ config, field.1 = letters "defaults" ∨ field.1 = letters "functions") ∧
        IsSection config "defaults" s.defaults ∧
        IsSection config "functions" (s.functions.map definitionField) ∧
        ∀ d ∈ s.functions, isDefinition d.1 d.2 = true := by
  unfold Sections.ofFields?
  split
  · rename_i allowed
    simp only [List.all_eq_true, Bool.or_eq_true, decide_eq_true_eq] at allowed
    simp only [Option.bind_eq_bind, Option.bind_eq_some_iff, Option.pure_def, Option.some.injEq,
      object?_eq_some, mapM_eq_some_iff definition?_eq_some]
    constructor
    · rintro ⟨defaults, hdefaults, fields, hfields, functions, ⟨rfl, hdefinitions⟩, rfl⟩
      exact ⟨allowed, hdefaults, hfields, hdefinitions⟩
    · rintro ⟨-, hdefaults, hfields, hdefinitions⟩
      exact ⟨_, hdefaults, _, hfields, _, ⟨rfl, hdefinitions⟩, rfl⟩
  · rename_i other
    refine ⟨nofun, ?_⟩
    rintro ⟨allowed, -⟩
    exact absurd (by simpa using allowed) other

/-- The bodies of accepted functions can all be read. -/
theorem exists_readAll_of_accepted {config : Fields} {s : Sections}
    (accepted : Sections.ofFields? config = some s) :
    ∃ bodies, readAll s.functions = .ok bodies :=
  readAll_ok_of_forall fun d hd =>
    (isDefinition_iff.mp ((ofFields?_eq_some.mp accepted).2.2.2 d hd)).2

/-! ## Calling what has been accepted -/

/-- Over functions on integers, the call of a defined function has the value of its body, and fails
if the body fails. -/
theorem Registry.Integral.call_defined {registry : Registry} (hr : registry.Integral) (name : String)
    (body : Expr) (j : Journal) :
    (((body.function name registry).call name []).on j).1 =
      ((body.evaluate registry).on j).1.mapError (.failedCall name) := by
  have hbody : body.function name registry [] =
      body.evaluate registry >>= fun value => pure (.number value) := rfl
  have integral := body.evaluate_integral hr j
  rw [Function.call_on, hbody, Run.on_bind]
  rcases hrun : (body.evaluate registry).on j with ⟨fault | value, j'⟩
  · rfl
  · rw [hrun] at integral
    obtain ⟨n, rfl⟩ := integral
    rfl

/-- **Accepted functions can be used.** A configuration is accepted, and gives some sections, if and
only if it has no other fields than theirs, each section that is there is an object, all functions
are texts, each of their names is one token that is this name, and a registry can be built from them.
In an accepted one, take the last definition of a name, which in an object is the only one. With
empty parentheses the name is read as a call, and this call has the value of the body over the
registry of what stands in front of the definition, or fails because the body fails. -/
theorem sections_accepted (config : Fields) (useBuiltins : Bool) :
    (∀ s : Sections, Sections.ofFields? config = some s ↔
      (∀ field ∈ config, field.1 = letters "defaults" ∨ field.1 = letters "functions") ∧
        IsSection config "defaults" s.defaults ∧
        IsSection config "functions" (s.functions.map definitionField) ∧
        (∀ d ∈ s.functions,
          tokenize d.1 = .ok [⟨.identifier d.1, 0⟩, ⟨.finish, d.1.length⟩]) ∧
        ∃ registry journal,
          (Registry.build useBuiltins s.functions).start = (.ok registry, journal)) ∧
    ∀ s : Sections, Sections.ofFields? config = some s →
      ∀ front name text back, s.functions = front ++ (name, text) :: back →
        name ∉ back.map Prod.fst →
        parse (name ++ "()") = .ok (.call name []) ∧
          ∃ registry journal before journal',
            (Registry.build useBuiltins s.functions).start = (.ok registry, journal) ∧
              (Registry.build useBuiltins front).start = (.ok before, journal') ∧
              ∀ j j', ((evaluateText registry (name ++ "()")).on j).1 =
                ((evaluateText before text).on j').1.mapError (.failedCall name) := by
  constructor
  · intro s
    rw [ofFields?_eq_some, Registry.build_ok_iff]
    simp only [isDefinition_iff, tokenize_eq_name_iff, forall_and]
  · intro s hs front name text back hsplit last
    have accepted := (ofFields?_eq_some.mp hs).2.2.2
    have hname : isName name = true :=
      (isDefinition_iff.mp (accepted (name, text) (by simp [hsplit]))).1
    obtain ⟨bodies, hbodies⟩ := exists_readAll_of_accepted hs
    have hcut := hbodies
    rw [hsplit] at hcut
    obtain ⟨before, rest, hbefore, hrest, rfl⟩ := readAll_append_ok.mp hcut
    obtain ⟨body, behind, hbody, hbehind, rfl⟩ := readAll_cons_ok.mp hrest
    rw [← names_of_readAll_ok hbehind] at last
    refine ⟨parse_bare_call hname, _, _, _, _, Registry.build_on hbodies useBuiltins {},
      Registry.build_on hbefore useBuiltins {}, fun j j' => ?_⟩
    have hlookup := Registry.get?_extend_last (Registry.base useBuiltins) before behind body last
    have integral := (Registry.base_integral useBuiltins).extend before
    have uniform := body.evaluate_uniform ((Registry.base_uniform useBuiltins).extend before)
    rw [evaluateText, parse_bare_call hname, evaluateText, hbody]
    simp only [Expr.evaluate_call _ hlookup, Expr.evaluateAll_nil, pure_bind]
    rw [integral.call_defined, uniform.sameOutcome j j']

/-- A definition that calls the builtin function of its own name, and one that uses it. -/
theorem sections_accepted_shadowed :
    Sections.ofFields? [(letters "functions", .object [definitionField ("max", "max(1, 2)"),
        definitionField ("twice", "max() + max()")])] =
      some ⟨[], [("max", "max(1, 2)"), ("twice", "max() + max()")]⟩ ∧
    "max" ∉ ["twice"] ∧
    parse "max()" = .ok (.call "max" []) ∧
    ∃ registry journal before journal',
      (Registry.build true [("max", "max(1, 2)"), ("twice", "max() + max()")]).start =
          (.ok registry, journal) ∧
        (Registry.build true []).start = (.ok before, journal') ∧
        ∀ j j', ((evaluateText registry "max()").on j).1 =
          ((evaluateText before "max(1, 2)").on j').1.mapError (.failedCall "max") := by
  have accepted : Sections.ofFields? [(letters "functions", .object
      [definitionField ("max", "max(1, 2)"), definitionField ("twice", "max() + max()")])] =
      some ⟨[], [("max", "max(1, 2)"), ("twice", "max() + max()")]⟩ := by
    with_unfolding_all rfl
  have last : "max" ∉ ["twice"] := by decide
  have h := (sections_accepted _ true).2 _ accepted [] "max" "max(1, 2)" [("twice", "max() + max()")]
    rfl last
  exact ⟨accepted, last, h⟩

end Reckoner
