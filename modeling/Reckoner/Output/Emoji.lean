import Reckoner.Output.Emoji.Names
import Reckoner.Text.Blank
import Reckoner.Text.Lower

/-!
# Emoji

The name of an emoji between two colons stands for the emoji. The name may be written in any case, and
may end in `-text` or `-emoji`, which asks for one of two looks. What names no emoji stays as it is.
-/
namespace Reckoner.Emoji

/-- The names in a list of words, each with the word behind it. -/
def pairs : List (List Char) → List (List Char × List Char)
  | name :: emoji :: words => (name, emoji) :: pairs words
  | _ => []

/-- All names and their emoji. -/
def table : List (List Char × List Char) :=
  pairs (Text.words names.toList)

/-- The looks that an emoji can be asked for in, and the character that gives it this look. -/
def looks : List (List Char × Char) :=
  [("-emoji".toList, '\uFE0F'), ("-text".toList, '\uFE0E')]

/-- A code without the look it ends in, and the character for this look. -/
def splitLook (code : List Char) : List Char × List Char :=
  match looks.find? fun look => look.1.isSuffixOf code with
  | some (ending, look) => (code.take (code.length - ending.length), [look])
  | none => (code, [])

/-- The emoji for a code between colons. -/
def ofCode? (code : List Char) : Option (List Char) :=
  let (name, look) := splitLook code
  (table.lookup (Text.lower name)).map (· ++ look)

/-- Whether a code can go on with a character. -/
def inCode (c : Char) : Bool :=
  c ≠ ':' && !Text.isBlank c

/-- The code after a colon and the rest after the next one. -/
def code? (cs : List Char) : Option (List Char × List Char) :=
  match cs.dropWhile inCode with
  | ':' :: rest => some (cs.takeWhile inCode, rest)
  | _ => none

theorem code_shorter {cs code rest : List Char} (h : code? cs = some (code, rest)) :
    rest.length < cs.length := by
  unfold code? at h
  split at h
  · rename_i found
    simp only [Option.some.injEq, Prod.mk.injEq] at h
    have suffix := (List.dropWhile_suffix (l := cs) inCode).length_le
    rw [found] at suffix
    rw [← h.2]
    exact Nat.lt_of_succ_le suffix
  · simp at h

/-- A text with emoji in place of their codes. -/
def fill (cs : List Char) : List Char :=
  match cs with
  | [] => []
  | ':' :: cs =>
    match _found : code? cs with
    | none => ':' :: fill cs
    | some (code, rest) => (ofCode? code).getD (':' :: (code ++ [':'])) ++ fill rest
  | c :: cs => c :: fill cs
termination_by cs.length
decreasing_by
  · exact Nat.lt_succ_self _
  · exact Nat.lt_succ_of_lt (code_shorter _found)
  · exact Nat.lt_succ_self _

end Reckoner.Emoji
