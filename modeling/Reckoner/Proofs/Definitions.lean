import Reckoner.Proofs.Run
import Reckoner.Evaluation.Definition

/-!
# The registry of a command

Building a registry reads the bodies of the definitions, one after the other, and leaves one log
line for each. If all bodies can be read (`readAll`), then nothing else can fail, and the registry
is that of the bodies (`Registry.extend`): each of them over the registry that was there before it.
-/
namespace Reckoner

/-- The bodies of several definitions, if all of them can be read. -/
def readAll : List (String × String) → Except SyntaxFault (List (String × Expr))
  | [] => .ok []
  | d :: definitions => do
    let body ← parse d.2
    let bodies ← readAll definitions
    return (d.1, body) :: bodies

theorem readAll_cons_ok {d : String × String} {definitions : List (String × String)}
    {bodies : List (String × Expr)} :
    readAll (d :: definitions) = .ok bodies ↔
      ∃ body rest, parse d.2 = .ok body ∧ readAll definitions = .ok rest ∧
        bodies = (d.1, body) :: rest := by
  rw [readAll]
  cases parse d.2 <;> cases readAll definitions <;>
    simp [bind, Except.bind, pure, Except.pure, eq_comm]

/-- All bodies can be read if each of them can. -/
theorem readAll_ok_of_forall {definitions : List (String × String)}
    (h : ∀ d ∈ definitions, ∃ body, parse d.2 = .ok body) :
    ∃ bodies, readAll definitions = .ok bodies := by
  induction definitions with
  | nil => exact ⟨[], rfl⟩
  | cons d definitions ih =>
    obtain ⟨body, hbody⟩ := h d (by simp)
    obtain ⟨rest, hrest⟩ := ih fun d hd => h d (by simp [hd])
    exact ⟨_, readAll_cons_ok.mpr ⟨body, rest, hbody, hrest, rfl⟩⟩

theorem forall_of_readAll_ok {definitions : List (String × String)} {bodies : List (String × Expr)}
    (h : readAll definitions = .ok bodies) : ∀ d ∈ definitions, ∃ body, parse d.2 = .ok body := by
  induction definitions generalizing bodies with
  | nil => exact nofun
  | cons d definitions ih =>
    obtain ⟨body, rest, hbody, hrest, -⟩ := readAll_cons_ok.mp h
    exact List.forall_mem_cons.mpr ⟨⟨body, hbody⟩, ih hrest⟩

/-- Reading keeps the names. -/
theorem names_of_readAll_ok {definitions : List (String × String)} {bodies : List (String × Expr)}
    (h : readAll definitions = .ok bodies) :
    bodies.map Prod.fst = definitions.map Prod.fst := by
  induction definitions generalizing bodies with
  | nil =>
    cases h
    rfl
  | cons d definitions ih =>
    obtain ⟨body, rest, -, hrest, rfl⟩ := readAll_cons_ok.mp h
    rw [List.map_cons, List.map_cons, ih hrest]

/-- Where a list of definitions is cut in two, so are the bodies. -/
theorem readAll_append_ok {front back : List (String × String)} {bodies : List (String × Expr)} :
    readAll (front ++ back) = .ok bodies ↔
      ∃ before behind, readAll front = .ok before ∧ readAll back = .ok behind ∧
        bodies = before ++ behind := by
  induction front generalizing bodies with
  | nil => simp [readAll]
  | cons d front ih =>
    rw [List.cons_append, readAll_cons_ok]
    constructor
    · rintro ⟨body, rest, hbody, hrest, rfl⟩
      obtain ⟨before, behind, hbefore, hbehind, rfl⟩ := ih.mp hrest
      exact ⟨_, behind, readAll_cons_ok.mpr ⟨body, before, hbody, hbefore, rfl⟩, hbehind, rfl⟩
    · rintro ⟨all, behind, hall, hbehind, rfl⟩
      obtain ⟨body, before, hbody, hbefore, rfl⟩ := readAll_cons_ok.mp hall
      exact ⟨body, _, hbody, ih.mpr ⟨before, behind, hbefore, hbehind, rfl⟩, rfl⟩

namespace Registry

/-- The functions that are there before any definition. -/
def base (useBuiltins : Bool) : Registry :=
  if useBuiltins then builtins else []

/-- A registry with one more function, defined by an expression over the registry so far. -/
def add (registry : Registry) (name : String) (body : Expr) : Registry :=
  registry.insert name (body.function name registry)

/-- A registry with more functions, each defined over the registry before it. -/
def extend (registry : Registry) (bodies : List (String × Expr)) : Registry :=
  bodies.foldl (fun registry b => registry.add b.1 b.2) registry

theorem get?_add (registry : Registry) (name other : String) (body : Expr) :
    (registry.add name body).get? other =
      if name = other then some (body.function name registry) else registry.get? other :=
  Assoc.get?_insert ..

@[simp] theorem extend_nil (registry : Registry) : registry.extend [] = registry := rfl

@[simp] theorem extend_cons (registry : Registry) (name : String) (body : Expr)
    (bodies : List (String × Expr)) :
    registry.extend ((name, body) :: bodies) = (registry.add name body).extend bodies := rfl

theorem extend_concat (registry : Registry) (bodies : List (String × Expr)) (name : String)
    (body : Expr) :
    registry.extend (bodies ++ [(name, body)]) = (registry.extend bodies).add name body := by
  rw [extend, List.foldl_append]
  rfl

theorem extend_append (registry : Registry) (front back : List (String × Expr)) :
    registry.extend (front ++ back) = (registry.extend front).extend back := by
  rw [extend, List.foldl_append]
  rfl

theorem get?_extend_of_not_mem {registry : Registry} {bodies : List (String × Expr)} {name : String}
    (h : name ∉ bodies.map Prod.fst) : (registry.extend bodies).get? name = registry.get? name := by
  induction bodies generalizing registry with
  | nil => rfl
  | cons b bodies ih =>
    rw [List.map_cons, List.mem_cons, not_or] at h
    obtain ⟨hname, hrest⟩ := h
    rw [extend_cons, ih hrest, get?_add, if_neg (Ne.symm hname)]

/-- The last definition of a name is the one that counts, and it sees what stands in front of it. -/
theorem get?_extend_last (registry : Registry) (front back : List (String × Expr)) {name : String}
    (body : Expr) (last : name ∉ back.map Prod.fst) :
    (registry.extend (front ++ (name, body) :: back)).get? name =
      some (body.function name (registry.extend front)) := by
  rw [extend_append, extend_cons, get?_extend_of_not_mem last, get?_add, if_pos rfl]

/-- The log line of a definition. -/
def definitionLine (d : String × String) : String :=
  "Registered function " ++ d.1 ++ "() = " ++ d.2

theorem define_on {registry : Registry} {d : String × String} {body : Expr}
    (h : parse d.2 = .ok body) (j : Journal) :
    (registry.define d.1 d.2).on j =
      (.ok (registry.add d.1 body), { j with log := j.log ++ [definitionLine d] }) := by
  have hf : registry.compile d.1 d.2 = .ok (body.function d.1 registry) := by
    simp [compile, h, bind, Except.bind, pure, Except.pure]
  rw [define, hf]
  simp only [Run.on_bind, Run.on_logLine, Run.on_pure]
  rfl

theorem define_on_error {registry : Registry} {d : String × String} {fault : SyntaxFault}
    (h : parse d.2 = .error fault) (j : Journal) :
    (registry.define d.1 d.2).on j = (.error (.unreadable fault), j) := by
  have hf : registry.compile d.1 d.2 = .error fault := by simp [compile, h, bind, Except.bind]
  rw [define, hf]
  rfl

theorem defineAll_on {definitions : List (String × String)} {bodies : List (String × Expr)}
    (h : readAll definitions = .ok bodies) (registry : Registry) (j : Journal) :
    (registry.defineAll definitions).on j =
      (.ok (registry.extend bodies),
        { j with log := j.log ++ definitions.map definitionLine }) := by
  induction definitions generalizing bodies registry j with
  | nil =>
    cases h
    simp [defineAll]
  | cons d definitions ih =>
    obtain ⟨body, rest, hbody, hrest, rfl⟩ := readAll_cons_ok.mp h
    have hcons : registry.defineAll (d :: definitions) =
        registry.define d.1 d.2 >>= fun r => r.defineAll definitions := List.foldlM_cons ..
    rw [hcons, Run.on_bind, define_on hbody]
    simp [ih hrest]

theorem readAll_of_defineAll {definitions : List (String × String)} {registry result : Registry}
    {j j' : Journal} (h : (registry.defineAll definitions).on j = (.ok result, j')) :
    ∃ bodies, readAll definitions = .ok bodies := by
  induction definitions generalizing registry j with
  | nil => exact ⟨[], rfl⟩
  | cons d definitions ih =>
    have hcons : registry.defineAll (d :: definitions) =
        registry.define d.1 d.2 >>= fun r => r.defineAll definitions := List.foldlM_cons ..
    rw [hcons, Run.on_bind] at h
    cases hbody : parse d.2 with
    | error fault =>
      rw [define_on_error hbody] at h
      cases h
    | ok body =>
      rw [define_on hbody] at h
      obtain ⟨rest, hrest⟩ := ih h
      exact ⟨_, readAll_cons_ok.mpr ⟨body, rest, hbody, hrest, rfl⟩⟩

/-- Building a registry cannot fail once all bodies have been read. -/
theorem build_on {definitions : List (String × String)} {bodies : List (String × Expr)}
    (h : readAll definitions = .ok bodies) (useBuiltins : Bool) (j : Journal) :
    (build useBuiltins definitions).on j =
      (.ok ((base useBuiltins).extend bodies),
        { j with log := j.log ++ definitions.map definitionLine }) :=
  defineAll_on h (base useBuiltins) j

/-- What is built is the registry of the bodies. -/
theorem eq_of_build {definitions : List (String × String)} {bodies : List (String × Expr)}
    (h : readAll definitions = .ok bodies) {useBuiltins : Bool} {registry : Registry}
    {journal : Journal} (hbuild : (build useBuiltins definitions).start = (.ok registry, journal)) :
    registry = (base useBuiltins).extend bodies := by
  have hstart : (.ok registry, journal) = (Except.ok ((base useBuiltins).extend bodies), _) :=
    hbuild.symm.trans (build_on h useBuiltins {})
  exact Except.ok.inj (congrArg Prod.fst hstart)

/-- A registry can be built if and only if all bodies can be read. -/
theorem build_ok_iff {definitions : List (String × String)} {useBuiltins : Bool} :
    (∃ registry journal, (build useBuiltins definitions).start = (.ok registry, journal)) ↔
      ∀ d ∈ definitions, ∃ body, parse d.2 = .ok body := by
  constructor
  · rintro ⟨registry, journal, h⟩
    obtain ⟨bodies, hbodies⟩ := readAll_of_defineAll h
    exact forall_of_readAll_ok hbodies
  · intro h
    obtain ⟨bodies, hbodies⟩ := readAll_ok_of_forall h
    exact ⟨_, _, build_on hbodies useBuiltins {}⟩

end Registry
end Reckoner
