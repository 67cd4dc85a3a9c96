import Reckoner.Assoc
import Reckoner.Evaluation.Run

/-!
# Registries

A registry holds functions by name.
-/
namespace Reckoner

/-- Functions by name. -/
abbrev Registry : Type :=
  List (String × Function)

namespace Registry

/-- The function of a name. -/
def get? (registry : Registry) (name : String) : Option Function :=
  Assoc.get? name registry

/-- Gives a name its function. -/
def insert (registry : Registry) (name : String) (f : Function) : Registry :=
  Assoc.insert name f registry

/-- Takes the function of a name away. -/
def erase (registry : Registry) (name : String) : Registry :=
  Assoc.erase name registry

/-- The names in alphabetical order. -/
def names (registry : Registry) : List String :=
  (registry.map (·.1)).mergeSort fun a b => a ≤ b

end Registry
end Reckoner
