import Reckoner.Json.Writer
import Reckoner.Output.Format
import Reckoner.Output.Outline
import Reckoner.Token

/-!
# What is printed

Results, tokens and expressions are turned into operations of output, which are carried out later.
With colors, lines become markup and documents are highlighted; without them both are written as they
are.
-/
namespace Reckoner

/-- One step of output. -/
inductive Operation where
  /-- Writes a line as it is; nothing at all without a text. -/
  | write (text : Option String)
  /-- Prints a line, which may be markup; an empty one without a text. -/
  | print (text : Option String) (isMarkup : Bool)
  /-- Prints a document with colors. -/
  | highlight (code : String)
  /-- Prints an outline. -/
  | draw (outline : Outline)
  deriving Repr

namespace Operation

/-- A document. -/
def document (value : Json) (colored : Bool) : List Operation :=
  if colored then [.highlight value.dump] else [.write (some value.dump)]

/-- Lines, which are markup if there are colors. -/
def lines (texts : List String) (colored : Bool) : List Operation :=
  texts.map fun text => if colored then .print (some text) true else .write (some text)

end Operation

/-- The output for the value of an expression. -/
def prepareResult (expression : String) (result : Number) (format : OutputFormat)
    (colored : Bool) : List Operation :=
  match format with
  | .json =>
    Operation.document
      (.fields [("expression", .text expression), ("result", .number result)]) colored
  | .text => Operation.lines [Markup.brightGreen result.text colored] colored

/-- A token as a document. -/
def Token.toJson (t : Token) : Json :=
  .fields [("kind", .text t.kind.name),
    ("value", match t.symbol with
      | .integer n => .int n
      | symbol => .text symbol.text),
    ("offset", .int t.offset)]

/-- A token in a listing with or without colors. -/
def Token.line (t : Token) (colored : Bool) : String :=
  let text := t.symbol.text
  let value := match t.symbol with
    | .finish => []
    | _ => [if colored then Markup.escape text else text]
  " ".intercalate
    (Markup.magenta t.kind.name colored ::
      (value ++ [Markup.dimWhite ("@" ++ toString t.offset) colored]))

/-- The output for a list of tokens. -/
def prepareTokens (tokens : List Token) (format : OutputFormat) (colored : Bool) :
    List Operation :=
  match format with
  | .json => Operation.document (.array (tokens.map Token.toJson)) colored
  | .text => Operation.lines (tokens.map fun t => t.line colored) colored

/-- The output for an expression. -/
def prepareExpr (e : Expr) (format : OutputFormat) (colored : Bool) : List Operation :=
  match format with
  | .json => Operation.document e.toJson colored
  | .text => [.draw (e.outline colored)]

end Reckoner
