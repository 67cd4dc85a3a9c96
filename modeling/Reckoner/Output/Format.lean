import Reckoner.Text.Blank

/-!
# Output formats

Results are printed as text or as documents. The name of a format may be given in any case and with
blanks around it.
-/
namespace Reckoner

/-- The form of what is printed. -/
inductive OutputFormat where
  /-- Plain lines. -/
  | text
  /-- A document. -/
  | json
  deriving DecidableEq, Repr

namespace OutputFormat

/-- All formats, in the order in which they are offered. -/
def all : List OutputFormat :=
  [.text, .json]

/-- The name of a format. -/
def name : OutputFormat → String
  | .text => "text"
  | .json => "json"

/-- A name as it is compared: in lower case, without blanks around it. Only names of ASCII letters
can become the name of a format, so it is enough to change these. -/
def normalize (given : String) : String :=
  String.ofList ((Text.trim given.toList).map Char.toLower)

/-- The format of a given name. -/
def ofName? (given : String) : Option OutputFormat :=
  all.find? (·.name = normalize given)

/-- How a name that is no format is reported. -/
def unsupported (given : String) : String :=
  "Unsupported output format: " ++ given ++ ". Available formats: " ++
    ", ".intercalate (all.map name)

end OutputFormat
end Reckoner
