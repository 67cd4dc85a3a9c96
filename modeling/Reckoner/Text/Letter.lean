/-!
# Letters of a document's text

A document may spell a surrogate code unit that lacks its partner. No character stands for it, so a
text that was read from a document is a list of letters, each a character or such a lone surrogate.
-/
namespace Reckoner.Text

/-- One letter of a document's text. -/
inductive Letter where
  /-- A character. -/
  | char (c : Char)
  /-- A surrogate code unit without its partner. -/
  | lone (unit : Nat)
  deriving DecidableEq, Repr, Inhabited

/-- The letters of a string. -/
def letters (s : String) : List Letter :=
  s.toList.map .char

/-- The character that a letter stands for, if there is one. -/
def Letter.char? : Letter → Option Char
  | .char c => some c
  | .lone _ => none

/-- The string that a list of letters spells, if each of them is a character. -/
def ofLetters? (ls : List Letter) : Option String :=
  (ls.mapM Letter.char?).map String.ofList

theorem letters_injective {s t : String} (h : letters s = letters t) : s = t := by
  have inj : Function.Injective Letter.char := fun a b hab => by cases hab; rfl
  exact String.toList_injective ((List.map_inj_right (fun _ _ hxy => inj hxy)).1 h)

theorem ofLetters?_letters (s : String) : ofLetters? (letters s) = some s := by
  have hchars : ∀ cs : List Char, (cs.map Letter.char).mapM Letter.char? = some cs := by
    intro cs
    induction cs with
    | nil => rfl
    | cons c cs ih => simp [List.mapM_cons, ih, Letter.char?]
  rw [ofLetters?, letters, hchars, Option.map_some, String.ofList_toList]

end Reckoner.Text
