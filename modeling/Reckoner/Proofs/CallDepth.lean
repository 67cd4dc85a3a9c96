import Mathlib.Data.Fintype.Card
import Reckoner.Proofs.Activations

/-!
# No definition is entered twice

The body of a definition sees only the definitions in front of it, whatever names it mentions. So of
two running calls of definitions the inner one stands further in front, and behind a builtin function
nothing else is running. This bounds how deep calls can go, and it shows in every fault: the failed
calls in it are running calls.
-/
namespace Reckoner

variable {useBuiltins : Bool} {bodies : List (String × Expr)} {k : Nat} {e : Expr}

/-- Definitions, of which each one stands in front of the one before it, and perhaps a builtin
function at the end. -/
def Descending (callees : List (Callee bodies)) : Prop :=
  ∃ places : List (Fin bodies.length), places.Pairwise (· > ·) ∧
    (callees = places.map .definition ∨ ∃ b, callees = places.map .definition ++ [.builtin b])

/-- Running calls descend from what can be seen. -/
theorem Running.places {calls : List (Activation bodies)} (h : Running useBuiltins k e calls) :
    ∃ places : List (Fin bodies.length), places.Pairwise (· > ·) ∧ (∀ i ∈ places, i < k) ∧
      (calls.map Activation.callee = places.map .definition ∨
        ∃ b, calls.map Activation.callee = places.map .definition ++ [.builtin b]) := by
  induction h with
  | idle => exact ⟨[], .nil, nofun, .inl rfl⟩
  | @call k e c h =>
    obtain ⟨callee, arguments⟩ := c
    cases h.visible with
    | @definition i seen =>
      exact ⟨[i], List.pairwise_singleton .., List.forall_mem_singleton.mpr seen, .inl rfl⟩
    | @builtin b => exact ⟨[], .nil, nofun, .inr ⟨b, rfl⟩⟩
  | @body k e i calls h _ ih =>
    obtain ⟨places, hpairwise, hbound, hcallees⟩ := ih
    have seen : i < k := by
      cases h.visible with
      | definition seen => exact seen
    refine ⟨i :: places, List.pairwise_cons.mpr ⟨hbound, hpairwise⟩,
      List.forall_mem_cons.mpr ⟨seen, fun i' hi' => Nat.lt_trans (hbound i' hi') seen⟩, ?_⟩
    rcases hcallees with hcallees | ⟨b, hcallees⟩
    · exact .inl (congrArg (_ :: ·) hcallees)
    · exact .inr ⟨b, congrArg (_ :: ·) hcallees⟩

theorem Running.descending {calls : List (Activation bodies)} (h : Running useBuiltins k e calls) :
    Descending (calls.map Activation.callee) := by
  obtain ⟨places, hpairwise, -, hcallees⟩ := h.places
  exact ⟨places, hpairwise, hcallees⟩

namespace Descending

variable {callees : List (Callee bodies)}

/-- What descends is at most one longer than there are definitions. -/
theorem length_le (h : Descending callees) : callees.length ≤ bodies.length + 1 := by
  obtain ⟨places, hpairwise, hcallees⟩ := h
  have distinct : places.Nodup := hpairwise.imp fun hlt => Ne.symm (Fin.ne_of_lt hlt)
  have hplaces : places.length ≤ bodies.length := by
    simpa using distinct.length_le_card
  rcases hcallees with rfl | ⟨b, rfl⟩
  · simp only [List.length_map]
    omega
  · simp only [List.length_append, List.length_map, List.length_singleton]
    omega

/-- What descends never comes back. -/
theorem nodup (h : Descending callees) : callees.Nodup := by
  obtain ⟨places, hpairwise, hcallees⟩ := h
  have distinct : (places.map (@Callee.definition bodies)).Nodup := by
    refine List.Nodup.map (fun i i' h => ?_) (hpairwise.imp fun hlt => Ne.symm (Fin.ne_of_lt hlt))
    cases h
    rfl
  rcases hcallees with rfl | ⟨b, rfl⟩
  · exact distinct
  · refine List.nodup_append.mpr ⟨distinct, List.nodup_singleton _, ?_⟩
    rintro _ hplace _ hbuiltin rfl
    simp_all

end Descending

/-- **No definition is entered twice.** If all bodies can be read, then the registry of a command can
be built. When a text fails over it by a failed call, the failed calls in the fault are running
calls: all but the last one are definitions at places further and further in front, and the last one
is a definition still further in front or a builtin function. So there is at most one more of them
than there are definitions, and none of them occurs twice. The same is true of whatever is running at
any time of any evaluation. -/
theorem evaluateText_descending (useBuiltins : Bool) {definitions : List (String × String)}
    {bodies : List (String × Expr)} (readable : readAll definitions = .ok bodies) :
    ∃ registry journal, (Registry.build useBuiltins definitions).start = (.ok registry, journal) ∧
      (∀ text j name cause,
        ((evaluateText registry text).on j).1 = .error (.failedCall name cause) →
          ∃ e, parse text = .ok e ∧ ∃ failures : List (Failure bodies),
            Failing useBuiltins bodies.length e failures ∧
              failures.map Failure.link = (Fault.failedCall name cause).chain ∧
              Descending (failures.map fun f => f.callee) ∧
              failures.length ≤ definitions.length + 1 ∧
              (failures.map fun f => f.callee).Nodup) ∧
      ∀ (e : Expr) (calls : List (Activation bodies)), Running useBuiltins bodies.length e calls →
        Descending (calls.map Activation.callee) ∧ calls.length ≤ definitions.length + 1 ∧
          (calls.map Activation.callee).Nodup := by
  have hlength : bodies.length = definitions.length := by
    simpa using congrArg List.length (names_of_readAll_ok readable)
  have bounded : ∀ (e : Expr) (calls : List (Activation bodies)),
      Running useBuiltins bodies.length e calls →
        Descending (calls.map Activation.callee) ∧ calls.length ≤ definitions.length + 1 ∧
          (calls.map Activation.callee).Nodup := by
    intro e calls h
    have hle := h.descending.length_le
    rw [List.length_map, hlength] at hle
    exact ⟨h.descending, hle, h.descending.nodup⟩
  refine ⟨_, _, Registry.build_on readable useBuiltins {}, ?_, bounded⟩
  intro text j name cause hfault
  rcases evaluateText_explained useBuiltins bodies text with ⟨_, -, hgives⟩ | ⟨e, he, r, _, hgives, hr⟩
  · rw [hgives j] at hfault
    cases hfault
  · rw [hgives j] at hfault
    obtain rfl : r = .error (.failedCall name cause) := hfault
    obtain ⟨failures, hfailing, hlinks, -⟩ := hr
    have h := bounded e _ hfailing.running
    rw [List.map_map, List.length_map] at h
    exact ⟨e, he, failures, hfailing, hlinks, h⟩

/-- A division by zero, two calls down. -/
theorem evaluateText_descending_nested :
    ∃ bodies, readAll [("ratio", "1 / 0"), ("twice", "ratio() * 2")] = .ok bodies ∧
      ∃ registry journal,
        (Registry.build true [("ratio", "1 / 0"), ("twice", "ratio() * 2")]).start =
            (.ok registry, journal) ∧
          ((evaluateText registry "twice()").on {}).1 =
            .error (.failedCall "twice" (.failedCall "ratio" .divisionByZero)) ∧
          ∃ e, parse "twice()" = .ok e ∧ ∃ failures : List (Failure bodies),
            Failing true bodies.length e failures ∧
              failures.map Failure.link =
                [("twice", .failedCall "ratio" .divisionByZero), ("ratio", .divisionByZero)] ∧
              Descending (failures.map fun f => f.callee) ∧ failures.length ≤ 3 ∧
              (failures.map fun f => f.callee).Nodup := by
  have readable : readAll [("ratio", "1 / 0"), ("twice", "ratio() * 2")] =
      .ok [("ratio", .binary .div (.literal 1) (.literal 0)),
        ("twice", .binary .mul (.call "ratio" []) (.literal 2))] := by
    with_unfolding_all rfl
  obtain ⟨registry, journal, hbuild, hfault, -⟩ := evaluateText_descending true readable
  have hrun : ((evaluateText registry "twice()").on {}).1 =
      .error (.failedCall "twice" (.failedCall "ratio" .divisionByZero)) := by
    rw [Registry.eq_of_build readable hbuild]
    with_unfolding_all rfl
  exact ⟨_, readable, registry, journal, hbuild, hrun, hfault "twice()" {} _ _ hrun⟩

end Reckoner
