import Reckoner.Proofs.Activations
import Reckoner.Proofs.Numerals

/-!
# The log tells the failed calls

A failed call leaves one log line, at the moment when it fails. Nothing else is logged by an
evaluation. Since a fault is passed on from the inside to the outside, the log lists the failed calls
in a fault from its end to its beginning.
-/
namespace Reckoner

/-- **The log tells the failed calls.** If all bodies can be read, then the registry of a command can
be built, and over it a text has an outcome and log lines that do not depend on what was logged
before. If the outcome is not that of a failed call, there are no lines. Otherwise there is one line
for each of the failed calls in the fault, the innermost one first, and it names the function, the
values of its arguments in that call, and what the function failed for. -/
theorem evaluateText_log (useBuiltins : Bool) {definitions : List (String × String)}
    {bodies : List (String × Expr)} (readable : readAll definitions = .ok bodies) (text : String) :
    ∃ registry journal, (Registry.build useBuiltins definitions).start = (.ok registry, journal) ∧
      ∃ outcome lines, (evaluateText registry text).Gives outcome lines ∧
        ((∀ name cause, outcome ≠ .error (.failedCall name cause)) → lines = []) ∧
        ∀ name cause, outcome = .error (.failedCall name cause) →
          ∃ e, parse text = .ok e ∧ ∃ failures : List (Failure bodies),
            Failing useBuiltins bodies.length e failures ∧
              failures.map Failure.link = (Fault.failedCall name cause).chain ∧
              lines = (failures.map Failure.line).reverse := by
  refine ⟨_, _, Registry.build_on readable useBuiltins {}, ?_⟩
  rcases evaluateText_explained useBuiltins bodies text with ⟨fault, -, hgives⟩ |
    ⟨e, he, outcome, lines, hgives, hexplained⟩
  · exact ⟨_, _, hgives, fun _ => rfl, nofun⟩
  · refine ⟨outcome, lines, hgives, fun other => ?_, ?_⟩
    · cases outcome with
      | ok value => exact hexplained.2
      | error fault =>
        obtain ⟨failures, -, hlinks, rfl⟩ := hexplained
        have own : fault.chain = [] := Fault.chain_of_ne fun name cause h =>
          other name cause (congrArg _ h)
        rw [own, List.map_eq_nil_iff] at hlinks
        rw [hlinks]
        rfl
    · rintro name cause rfl
      exact ⟨e, he, hexplained⟩

/-- A builtin function that fails in the body of a definition. -/
theorem evaluateText_log_nested :
    ∃ bodies, readAll [("inverse", "pow(2, 0 - 13)")] = .ok bodies ∧
      ∃ registry journal,
        (Registry.build true [("inverse", "pow(2, 0 - 13)")]).start = (.ok registry, journal) ∧
          ∃ lines, lines = ["Function pow(2, -13) failed: pow exponent must be non-negative",
              "Function inverse() failed: " ++
                "Error calling function pow: pow exponent must be non-negative"] ∧
            (evaluateText registry "1 + inverse()").Gives
              (.error (.failedCall "inverse" (.failedCall "pow" .negativeExponent))) lines ∧
            ∃ e, parse "1 + inverse()" = .ok e ∧ ∃ failures : List (Failure bodies),
              Failing true bodies.length e failures ∧
                failures.map Failure.link =
                  [("inverse", .failedCall "pow" .negativeExponent), ("pow", .negativeExponent)] ∧
                lines = (failures.map Failure.line).reverse := by
  have readable : readAll [("inverse", "pow(2, 0 - 13)")] =
      .ok [("inverse", .call "pow" [.literal 2, .binary .sub (.literal 0) (.literal 13)])] := by
    with_unfolding_all rfl
  have innermost : failureLine "pow" [.int 2, .int (-13)] .negativeExponent =
      "Function pow(2, -13) failed: pow exponent must be non-negative" := by
    -- digits are written in chunks, which do not compute here
    have htext : [Number.int 2, .int (-13)].map Number.text = [toString 2, toString (-13)] :=
      congrArg₂ (fun a b => [a, b]) (Numeral.writeInt_eq 2) (Numeral.writeInt_eq (-13))
    rw [failureLine, htext]
    rfl
  obtain ⟨registry, journal, hbuild, outcome, lines, hgives, -, hfailed⟩ :=
    evaluateText_log true readable "1 + inverse()"
  have hrun : (evaluateText registry "1 + inverse()").on {} =
      (.error (.failedCall "inverse" (.failedCall "pow" .negativeExponent)),
        { log := [failureLine "pow" [.int 2, .int (-13)] .negativeExponent,
            "Function inverse() failed: " ++
              "Error calling function pow: pow exponent must be non-negative"] }) := by
    rw [Registry.eq_of_build readable hbuild]
    with_unfolding_all rfl
  rw [innermost] at hrun
  have hstart := (hgives {}).symm.trans hrun
  obtain rfl := congrArg Prod.fst hstart
  have hlines := congrArg (fun r => r.2.log) hstart
  exact ⟨_, readable, registry, journal, hbuild, lines, hlines, hgives, hfailed _ _ rfl⟩

end Reckoner
