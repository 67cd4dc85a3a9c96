import Reckoner.Output.Markup.Reader
import Reckoner.Output.Operation
import Reckoner.Output.Style.Named

/-!
# Carrying out output

A console shows styles only if it has colors, but reads markup with and without them. Each line of a
text is shown on its own, with its tabs filled up. Outlines are drawn with lines that connect each part
to the ones below it; their labels are markup. A refused operation prints nothing and ends the output,
and what has been printed before it stays.
-/
namespace Reckoner

/-- Where output goes. -/
structure Console where
  /-- Whether styles are shown. -/
  colored : Bool
  deriving DecidableEq, Repr

namespace Console

/-- Whether output has colors: as was asked for, and otherwise if it goes to a terminal. -/
def wantsColor (asked : Option Bool) (isTerminal : Bool) : Bool :=
  asked.getD isTerminal

/-- A run as it is shown. -/
def showRun (c : Console) (run : StyledText.Run) : List Char :=
  if c.colored then run.style.paint run.text else run.text

/-- A line as it is shown. -/
def showLine (c : Console) (line : StyledText (List Char)) : Except Markup.Refusal String := do
  let styled ← line.fillTabs.mapStyles fun style => Markup.orElse {} (Style.ofName style)
  return String.ofList (styled.runs.flatMap c.showRun)

/-- The lines of a text as they are shown. -/
def showLines (c : Console) (text : StyledText (List Char)) :
    Except Markup.Refusal (List String) :=
  text.lines.mapM c.showLine

mutual
/-- The lines of an outline: `first` stands in front of its first line, `next` in front of the
others. -/
def drawAt (c : Console) (first next : String) : Outline → Except Markup.Refusal (List String)
  | .node label parts => do
    let text ← Markup.read label
    let shown ← c.showLines text
    let own := match shown with
      | [] => []
      | line :: lines => (first ++ line) :: lines.map (next ++ ·)
    let below ← drawParts c next parts
    return own ++ below
termination_by structural outline => outline

/-- The lines of several outlines below one label. -/
def drawParts (c : Console) (lead : String) : List Outline → Except Markup.Refusal (List String)
  | [] => .ok []
  | [part] => drawAt c (lead ++ "└── ") (lead ++ "    ") part
  | part :: parts => do
    let here ← drawAt c (lead ++ "├── ") (lead ++ "│   ") part
    let below ← drawParts c lead parts
    return here ++ below
termination_by structural parts => parts
end

/-- The lines of an outline. -/
def draw (c : Console) (outline : Outline) : Except Markup.Refusal (List String) :=
  drawAt c "" "" outline

/-- The lines of one operation. -/
def perform (c : Console) : Operation → Except Markup.Refusal (List String)
  | .write none => .ok []
  | .write (some text) => .ok [text]
  | .print text true => do
    let text ← Markup.read (text.getD "")
    c.showLines text
  | .print text false => c.showLines (.plain (text.getD "").toList)
  | .highlight code => .ok [code]
  | .draw outline => c.draw outline

/-- The lines that a list of operations prints, up to the first operation that is refused. -/
def carryOut (c : Console) : List Operation → List String × Option Markup.Refusal
  | [] => ([], none)
  | operation :: operations =>
    match c.perform operation with
    | .error refusal => ([], some refusal)
    | .ok lines =>
      let (more, refusal?) := c.carryOut operations
      (lines ++ more, refusal?)

/-- Lines as they are printed. -/
def printed (lines : List String) : String :=
  String.join (lines.map (· ++ "\n"))

/-- What a list of operations prints, if none of them is refused. -/
def print (c : Console) (operations : List Operation) : Except Markup.Refusal String :=
  match c.carryOut operations with
  | (lines, none) => .ok (printed lines)
  | (_, some refusal) => .error refusal

/-- What follows operations that are all carried out is carried out behind them. -/
theorem carryOut_append (c : Console) {operations : List Operation}
    (h : (c.carryOut operations).2 = none) (others : List Operation) :
    c.carryOut (operations ++ others) =
      ((c.carryOut operations).1 ++ (c.carryOut others).1, (c.carryOut others).2) := by
  induction operations with
  | nil => rfl
  | cons operation operations ih =>
    cases hlines : c.perform operation with
    | error refusal => simp [carryOut, hlines] at h
    | ok lines =>
      simp only [carryOut, hlines] at h
      simp [carryOut, hlines, ih h]

/-- A refused operation ends the output, and the lines in front of it stay. -/
theorem carryOut_refused (c : Console) {operations : List Operation}
    (h : (c.carryOut operations).2 = none) {operation : Operation} {refusal : Markup.Refusal}
    (refused : c.perform operation = .error refusal) (others : List Operation) :
    c.carryOut (operations ++ operation :: others) =
      ((c.carryOut operations).1, some refusal) := by
  have hend : c.carryOut (operation :: others) = ([], some refusal) := by
    simp only [carryOut, refused]
  rw [c.carryOut_append h, hend, List.append_nil]

/-- Without colors, lines are printed as they are, whatever the console shows. -/
theorem carryOut_lines (c : Console) (texts : List String) :
    c.carryOut (Operation.lines texts false) = (texts, none) := by
  induction texts with
  | nil => rfl
  | cons text texts ih =>
    have hlines : Operation.lines (text :: texts) false =
        .write (some text) :: Operation.lines texts false := rfl
    rw [hlines, carryOut, ih]
    rfl

theorem print_lines (c : Console) (texts : List String) :
    c.print (Operation.lines texts false) = .ok (String.join (texts.map (· ++ "\n"))) := by
  rw [print, carryOut_lines]
  rfl

theorem printed_line (text : String) : printed [text] = text ++ "\n" := by
  simp [printed, String.join]

theorem print_line (c : Console) (text : String) :
    c.print (Operation.lines [text] false) = .ok (text ++ "\n") := by
  rw [print_lines]
  exact congrArg Except.ok (printed_line text)

end Console
end Reckoner
