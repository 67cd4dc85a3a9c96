import Mathlib
import Reckoner.CommandLine
import Reckoner.Proofs.Acceptance
import Reckoner.Proofs.LongIntegers
import Reckoner.Proofs.OneLine

/-!
# The evaluation from end to end

An evaluation with accepted functions and without colors prints one line, or prints nothing and
complains about the first thing that is wrong: the output format, the text of the expression, its value.
Nothing else can go wrong. The functions can all be defined, since their bodies have been read before;
the value is an integer, since all functions are made of builtin ones, and what fails is a fault of
evaluation, as is expected there (`Evaluated`); and an integer of any length is written in full, as a
line of its own or in a document of one line.
-/
namespace Reckoner

open Text

/-! ## Lines -/

namespace Json

theorem oneLine_unitEscape (unit : Nat) : OneLine (unitEscape unit) :=
  .cons (by decide) (.cons (by decide) (.hexDigits 4 unit))

/-- Whatever a letter is, it is written with printable characters. -/
theorem oneLine_escape (l : Letter) : OneLine (escape l) := by
  cases l with
  | lone unit => exact oneLine_unitEscape unit
  | char c =>
    unfold escape
    dsimp only
    split
    · rename_i hc
      refine .cons (by decide) (.cons ?_ nofun)
      rcases hc with rfl | rfl <;> decide
    split
    · exact .cons (by decide) (.cons (by decide) nofun)
    split
    · exact .cons (by decide) (.cons (by decide) nofun)
    split
    · exact .cons (by decide) (.cons (by decide) nofun)
    split
    · exact .cons (by decide) (.cons (by decide) nofun)
    split
    · exact .cons (by decide) (.cons (by decide) nofun)
    split
    · rename_i printable
      exact .cons printable nofun
    split
    · exact oneLine_unitEscape _
    · exact (oneLine_unitEscape _).append (oneLine_unitEscape _)

theorem oneLine_quoted (s : List Letter) : OneLine (quoted s) := by
  have hletters : OneLine (s.flatMap escape) := by
    intro c hc
    obtain ⟨l, -, hl⟩ := List.mem_flatMap.mp hc
    exact oneLine_escape l c hl
  exact .cons (by decide) (hletters.append (.cons (by decide) nofun))

end Json

/-! ## Results -/

/-- A document of an expression and its value. -/
def documentLine (expression : String) (n : Int) : String :=
  "\x7b\"expression\": " ++ (String.ofList (Json.quoted (letters expression)) ++
    (", \"result\": " ++ (toString n ++ "\x7d")))

/-- The line for the value of an expression. -/
def resultLine (expression : String) (n : Int) : OutputFormat → String
  | .text => toString n
  | .json => documentLine expression n

theorem oneLine_resultLine (expression : String) (n : Int) (format : OutputFormat) :
    OneLine (resultLine expression n format).toList := by
  have hvalue : OneLine (toString n).toList := Numeral.writeInt_eq n ▸ Numeral.oneLine_writeInt n
  cases format with
  | text => exact hvalue
  | json =>
    have hopening : OneLine "\x7b\"expression\": ".toList := by simp [OneLine]
    have hbetween : OneLine ", \"result\": ".toList := by simp [OneLine]
    have hclosing : OneLine "\x7d".toList := by simp [OneLine]
    rw [resultLine, documentLine]
    simp only [String.toList_append, String.toList_ofList]
    have hend := hbetween.append (hvalue.append hclosing)
    exact hopening.append ((Json.oneLine_quoted _).append hend)

/-- The document for a value is its line. -/
theorem dump_result {text : String} {e : Expr} (h : parse text = .ok e) (n : Int) :
    (Json.fields [("expression", .text text), ("result", .number (.int n))]).dump =
      documentLine text n := by
  have hdump := (Json.Plain.result h (.int n)).dump
  have hnumeral : Json.numeral (.int n) = (toString n).toList := by
    rw [Json.numeral, Numeral.writeInt_eq]
  rw [hdump, documentLine]
  apply String.toList_injective
  simp only [Json.fields, Json.render_object, List.map_cons, List.map_nil, Json.joined_cons_cons,
    Json.joined_single, Json.renderField, Json.text, Json.render_string, Json.render_number,
    hnumeral, String.toList_append, String.toList_ofList]
  simp [Json.quoted, letters, Json.escape]

/-- Without colors the output for a value is its line. -/
theorem prepareResult_int {text : String} {e : Expr} (h : parse text = .ok e) (n : Int)
    (format : OutputFormat) :
    prepareResult text (.int n) format false =
      Operation.lines [resultLine text n format] false := by
  cases format with
  | text =>
    rw [resultLine, ← Numeral.writeInt_eq]
    rfl
  | json =>
    rw [resultLine, ← dump_result h]
    rfl

/-! ## The evaluation -/

/-- What evaluating a text over a registry gives: an integer, or a complaint about the text or about
its value. -/
inductive Evaluated (registry : Registry) (text : String) : Except Complaint Number → Prop
  | unreadable {fault : SyntaxFault} (hparse : parse text = .error fault) :
      Evaluated registry text (.error (.usage fault.message))
  | failed {e : Expr} {fault : Fault} (hparse : parse text = .ok e)
      (hvalue : (e.evaluate registry).start.1 = .error fault) (kind : fault.IsIntegral) :
      Evaluated registry text (.error (.usage fault.message))
  | value {e : Expr} {n : Int} (hparse : parse text = .ok e)
      (hvalue : (e.evaluate registry).start.1 = .ok (.int n)) :
      Evaluated registry text (.ok (.int n))

theorem Evaluated.usage {registry : Registry} {text : String} {complaint : Complaint}
    (h : Evaluated registry text (.error complaint)) : ∃ message, complaint = .usage message := by
  cases h with
  | unreadable => exact ⟨_, rfl⟩
  | failed => exact ⟨_, rfl⟩

/-- Over functions on integers, what fails in an evaluation is a complaint about the use of the
program. -/
theorem Evaluated.of_integral {registry : Registry} (hr : registry.Integral) {text : String}
    {e : Expr} (hparse : parse text = .ok e) :
    Evaluated registry text
      ((e.evaluate registry).start.1.mapError (.ofFault Fault.isEvaluation)) := by
  have integral := e.evaluate_integral hr {}
  cases hvalue : (e.evaluate registry).start.1 with
  | ok value =>
    have hon : ((e.evaluate registry).on {}).1 = .ok value := hvalue
    rw [hon] at integral
    obtain ⟨n, rfl⟩ := integral
    exact .value hparse hvalue
  | error fault =>
    have hon : ((e.evaluate registry).on {}).1 = .error fault := hvalue
    rw [hon] at integral
    have husage : Complaint.ofFault Fault.isEvaluation fault = .usage fault.message :=
      if_pos integral.isEvaluation
    rw [Except.mapError, husage]
    exact .failed hparse hvalue integral

namespace Invocation

/-- What is read before an evaluation: over definitions that can all be read, the expression and
their registry. -/
theorem preparation_on {text : String} {e : Expr} (h : parse text = .ok e)
    {functions : List (String × String)} {bodies : List (String × Expr)}
    (hbodies : readAll functions = .ok bodies) (useBuiltins : Bool) :
    ((preparation text useBuiltins functions).on {}).1 =
      .ok (e, (Registry.base useBuiltins).extend bodies) := by
  have hrun : preparation text useBuiltins functions =
      Registry.build useBuiltins functions >>= fun registry => pure (e, registry) := by
    rw [preparation, h]
  rw [hrun, Run.on_bind, Registry.build_on hbodies]
  rfl

/-- Over definitions that can all be read, an evaluation is that of the expression over their
registry. -/
theorem evaluation_of_readable {a : Arguments} {e : Expr} (h : parse a.expression = .ok e)
    {functions : List (String × String)} {bodies : List (String × Expr)}
    (hbodies : readAll functions = .ok bodies) : (evaluation a functions).1 =
      (e.evaluate ((Registry.base a.useBuiltins).extend bodies)).start.1.mapError
        (.ofFault Fault.isEvaluation) := by
  have uniform := e.evaluate_uniform ((Registry.base_uniform a.useBuiltins).extend bodies)
  have hprepared := preparation_on h hbodies a.useBuiltins
  unfold evaluation
  revert hprepared
  rcases (preparation a.expression a.useBuiltins functions).on {} with ⟨prepared, journal⟩
  rintro (rfl : prepared = _)
  -- the journal that the definitions leave does not matter
  exact congrArg (Except.mapError _) (uniform.sameOutcome journal {})

theorem evaluation_of_unreadable {a : Arguments} {fault : SyntaxFault}
    (h : parse a.expression = .error fault) (functions : List (String × String)) :
    (evaluation a functions).1 = .error (.usage fault.message) := by
  have hrun : preparation a.expression a.useBuiltins functions = throw (.unreadable fault) := by
    rw [preparation, h]
  rw [evaluation, hrun]
  rfl

theorem evaluation_evaluated {functions : List (String × String)} {bodies : List (String × Expr)}
    (hbodies : readAll functions = .ok bodies) (a : Arguments) :
    Evaluated ((Registry.base a.useBuiltins).extend bodies) a.expression
      (evaluation a functions).1 := by
  cases hparse : parse a.expression with
  | error fault =>
    rw [evaluation_of_unreadable hparse]
    exact .unreadable hparse
  | ok e =>
    rw [evaluation_of_readable hparse hbodies]
    exact .of_integral ((Registry.base_integral a.useBuiltins).extend bodies) hparse

end Invocation

/-! ## What a command prints -/

/-- What an evaluation over a registry prints, and its complaint. Either nothing is printed, and the
complaint is about the first of format, text and value that is wrong; or there is no complaint, and
the line for the value is printed. -/
inductive EvalOutcome (registry : Registry) (a : Arguments) : String → Option Complaint → Prop
  | unsupported (hformat : OutputFormat.ofName? a.out = none) :
      EvalOutcome registry a "" (some (.usage (OutputFormat.unsupported a.out)))
  | unreadable {format : OutputFormat} {fault : SyntaxFault}
      (hformat : OutputFormat.ofName? a.out = some format)
      (hparse : parse a.expression = .error fault) :
      EvalOutcome registry a "" (some (.usage fault.message))
  | failed {format : OutputFormat} {e : Expr} {fault : Fault}
      (hformat : OutputFormat.ofName? a.out = some format) (hparse : parse a.expression = .ok e)
      (hvalue : (e.evaluate registry).start.1 = .error fault) (kind : fault.IsIntegral) :
      EvalOutcome registry a "" (some (.usage fault.message))
  | printed {format : OutputFormat} {e : Expr} {n : Int}
      (hformat : OutputFormat.ofName? a.out = some format) (hparse : parse a.expression = .ok e)
      (hvalue : (e.evaluate registry).start.1 = .ok (.int n)) :
      EvalOutcome registry a (resultLine a.expression n format ++ "\n") none

theorem EvalOutcome.oneLine_or_usage {registry : Registry} {a : Arguments} {report : Report}
    (h : EvalOutcome registry a report.output report.complaint?) :
    (∃ line, report.result = .ok (line ++ "\n") ∧ ∀ c ∈ line.toList, ' ' ≤ c ∧ c ≤ '~') ∨
      ∃ text, report.result = .error (.usage text) ∧ report.output = "" := by
  obtain ⟨log, output, complaint?⟩ := report
  cases h with
  | unsupported => exact .inr ⟨_, rfl, rfl⟩
  | unreadable => exact .inr ⟨_, rfl, rfl⟩
  | failed => exact .inr ⟨_, rfl, rfl⟩
  | printed => exact .inl ⟨_, rfl, oneLine_resultLine _ _ _⟩

/-- The functions of a configuration can all be read. -/
theorem Config.exists_readAll_of_load {file : Opened} {config : Config}
    (h : Config.load file = .ok config) : ∃ bodies, readAll config.functions = .ok bodies := by
  unfold load at h
  cases hfields : fields file with
  | error fault =>
    rw [hfields] at h
    cases h
  | ok given =>
    cases hconfig : ofFields? given with
    | none =>
      simp only [hfields, hconfig] at h
      cases h
    | some config' =>
      simp only [hfields, hconfig] at h
      cases h
      obtain ⟨s, accepted, hdefaults⟩ := Option.bind_eq_some_iff.mp hconfig
      obtain ⟨defaults, -, hresult⟩ := Option.bind_eq_some_iff.mp hdefaults
      cases hresult
      exact exists_readAll_of_accepted accepted

/-- Printing finds fault with the output only. -/
theorem Report.printing_uncaught {c : Console} {given : Except Complaint (List Operation) × List String}
    {fault : Fault} (h : (printing c given).complaint? = some (.uncaught fault)) :
    given.1 = .error (.uncaught fault) := by
  obtain ⟨complaint | operations, log⟩ := given
  · exact congrArg Except.error (Option.some.inj h)
  · obtain ⟨refusal, -, hrefusal⟩ := Option.map_eq_some_iff.mp h
    cases hrefusal

namespace Invocation

variable {i : Invocation} {isTerminal : Bool} {format : OutputFormat}
  {functions : List (String × String)}

theorem perform_unsupported (hformat : OutputFormat.ofName? i.arguments.out = none)
    (functions : List (String × String)) (isTerminal : Bool) :
    i.perform functions isTerminal =
      { complaint? := some (.usage (OutputFormat.unsupported i.arguments.out)) } := by
  simp only [perform, hformat]

theorem perform_supported (hformat : OutputFormat.ofName? i.arguments.out = some format)
    (functions : List (String × String)) (isTerminal : Bool) :
    let colored := Console.wantsColor i.arguments.color? isTerminal
    i.perform functions isTerminal =
      .printing ⟨colored⟩ (operations i.command i.arguments functions format colored) := by
  simp only [perform, hformat]

/-- Over accepted functions an evaluation without colors has one of four outcomes. -/
theorem perform_outcome (command : i.command = .eval)
    (colorless : Console.wantsColor i.arguments.color? isTerminal = false)
    {bodies : List (String × Expr)} (hbodies : readAll functions = .ok bodies) :
    EvalOutcome ((Registry.base i.arguments.useBuiltins).extend bodies) i.arguments
      (i.perform functions isTerminal).output (i.perform functions isTerminal).complaint? := by
  cases hformat : OutputFormat.ofName? i.arguments.out with
  | none =>
    rw [perform_unsupported hformat]
    exact .unsupported hformat
  | some format =>
    rw [perform_supported hformat, command, colorless, operations]
    have evaluated := evaluation_evaluated hbodies i.arguments
    revert evaluated
    rcases evaluation i.arguments functions with ⟨result, log⟩
    intro evaluated
    cases evaluated with
    | unreadable hparse => exact .unreadable hformat hparse
    | failed hparse hvalue kind => exact .failed hformat hparse hvalue kind
    | value hparse hvalue =>
      have houtcome := EvalOutcome.printed hformat hparse hvalue
      simpa [Report.printing, Except.map, prepareResult_int hparse, Console.carryOut_lines,
        Console.printed_line] using houtcome

theorem orUsage_error {α ε : Type} {message : ε → String} {result : Except ε α}
    {complaint : Complaint} (h : orUsage message result = .error complaint) :
    ∃ text, complaint = .usage text := by
  cases result with
  | ok a => cases h
  | error fault =>
    cases h
    exact ⟨_, rfl⟩

theorem error_of_map {α : Type} {prepare : α → List Operation} {result : Except Complaint α}
    {complaint : Complaint} (h : result.map prepare = .error complaint) :
    result = .error complaint := by
  cases result with
  | ok a => cases h
  | error fault =>
    cases h
    rfl

/-- Whatever the command, what fails before anything is printed is a complaint about the use of the
program. -/
theorem operations_usage {bodies : List (String × Expr)} (hbodies : readAll functions = .ok bodies)
    {command : Command} {a : Arguments} {colored : Bool} {complaint : Complaint}
    (h : (operations command a functions format colored).1 = .error complaint) :
    ∃ text, complaint = .usage text := by
  cases command with
  | eval =>
    have hresult : (evaluation a functions).1 = .error complaint := error_of_map h
    exact (hresult ▸ evaluation_evaluated hbodies a).usage
  | tokens => exact orUsage_error (error_of_map h)
  | parse => exact orUsage_error (error_of_map h)

/-- **Every fault is expected.** Over the definitions of a configuration that can be loaded, no command
ends with a fault of another kind than the step that fails expects, with or without colors. -/
theorem run_expected {file : Opened} {config : Config} (loaded : Config.load file = .ok config)
    (i : Invocation) (isTerminal : Bool) (fault : Fault) :
    (i.run config isTerminal).complaint? ≠ some (.uncaught fault) := by
  obtain ⟨bodies, hbodies⟩ := Config.exists_readAll_of_load loaded
  rw [run]
  cases hformat : OutputFormat.ofName? i.arguments.out with
  | none =>
    rw [perform_unsupported hformat]
    exact nofun
  | some format =>
    rw [perform_supported hformat]
    intro hcomplaint
    have hfailed := Report.printing_uncaught hcomplaint
    obtain ⟨message, hmessage⟩ := operations_usage hbodies hfailed
    cases hmessage

/-- **All or nothing.** With accepted functions and without colors, the registry of an evaluation can
be built. The evaluation prints a single line, or it prints nothing and complains about the first thing
that is wrong, and then as about a wrong use of the program. -/
theorem perform_eval {config : Fields} {s : Sections}
    (accepted : Sections.ofFields? config = some s)
    {i : Invocation} (command : i.command = .eval) {isTerminal : Bool}
    (colorless : Console.wantsColor i.arguments.color? isTerminal = false) :
    let report := i.perform s.functions isTerminal
    ∃ registry journal,
      (Registry.build i.arguments.useBuiltins s.functions).start = (.ok registry, journal) ∧
      EvalOutcome registry i.arguments report.output report.complaint? ∧
      ((∃ line, report.result = .ok (line ++ "\n") ∧ ∀ c ∈ line.toList, ' ' ≤ c ∧ c ≤ '~') ∨
        ∃ text, report.result = .error (.usage text) ∧ report.output = "") := by
  intro report
  obtain ⟨bodies, hbodies⟩ := exists_readAll_of_accepted accepted
  have outcome : EvalOutcome _ _ report.output report.complaint? :=
    perform_outcome command colorless hbodies
  exact ⟨_, _, Registry.build_on hbodies i.arguments.useBuiltins {}, outcome,
    outcome.oneLine_or_usage⟩

/-- The call of a defined function as a document. -/
theorem perform_eval_document :
    let config : Fields := [(letters "functions", .object [definitionField ("f", "max(1, 2)")])]
    let s : Sections := ⟨[], [("f", "max(1, 2)")]⟩
    let i : Invocation := ⟨false, .eval, ⟨"f() / 2", ".arith.json", none, "json", true⟩⟩
    let report := i.perform s.functions false
    Sections.ofFields? config = some s ∧ i.command = .eval ∧
      Console.wantsColor i.arguments.color? false = false ∧
      ∃ registry journal,
        (Registry.build i.arguments.useBuiltins s.functions).start = (.ok registry, journal) ∧
        EvalOutcome registry i.arguments report.output report.complaint? ∧
        ((∃ line, report.result = .ok (line ++ "\n") ∧ ∀ c ∈ line.toList, ' ' ≤ c ∧ c ≤ '~') ∨
          ∃ text, report.result = .error (.usage text) ∧ report.output = "") := by
  intro config s i report
  have accepted : Sections.ofFields? config = some s := by
    with_unfolding_all rfl
  have command : i.command = .eval := rfl
  have colorless : Console.wantsColor i.arguments.color? false = false := rfl
  exact ⟨accepted, command, colorless, perform_eval accepted command colorless⟩

end Invocation
end Reckoner
