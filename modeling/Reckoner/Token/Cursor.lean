import Reckoner.Text.Quoted
import Reckoner.Token

/-!
# Drawing tokens from a text

A cursor stands somewhere in a text and hands out one token at a time. It skips the blanks in front
of a token. At the end of the text it hands out the end, again and again; in front of a character
that starts no token it fails and stays there, again and again.
-/
namespace Reckoner

/-- A character that starts no token. -/
structure Stray where
  /-- The character. -/
  character : Char
  /-- Where it stands. -/
  offset : Nat
  deriving DecidableEq, Repr

/-- How a stray character is reported. -/
def Stray.message (s : Stray) : String :=
  "Invalid character " ++ Text.quote s.character.toString ++ " at offset " ++ toString s.offset

/-- A place in a text. -/
structure Cursor where
  /-- The text after the place. -/
  rest : List Char
  /-- How many characters stand in front of the place. -/
  offset : Nat
  deriving DecidableEq, Repr

namespace Cursor

/-- The start of a text. -/
def start (text : String) : Cursor :=
  ⟨text.toList, 0⟩

/-- The place after the blanks that follow. -/
def skipBlanks (c : Cursor) : Cursor :=
  ⟨c.rest.dropWhile Text.isBlank, c.offset + (c.rest.takeWhile Text.isBlank).length⟩

/-- The token that starts at a place, and the place after it; or the character there that starts no
token, and the same place. -/
def scan (here : Cursor) : Except Stray Token × Cursor :=
  match here.rest with
  | [] => (.ok ⟨.finish, here.offset⟩, here)
  | c :: cs =>
    match Lexeme.symbol? (Lexeme.cut (c :: cs)).1 with
    | some symbol =>
      (.ok ⟨symbol, here.offset⟩,
        ⟨(Lexeme.cut (c :: cs)).2, here.offset + (Lexeme.cut (c :: cs)).1.length⟩)
    | none => (.error ⟨c, here.offset⟩, here)

/-- The next token, and the place after it; or the character that starts no token, and its place. -/
def next (c : Cursor) : Except Stray Token × Cursor :=
  c.skipBlanks.scan

theorem length_skipBlanks_le (c : Cursor) : c.skipBlanks.rest.length ≤ c.rest.length :=
  (List.dropWhile_suffix Text.isBlank).length_le

/-- A token other than the end takes at least one character. -/
theorem next_shorter {c after : Cursor} {token : Token} (h : c.next = (.ok token, after))
    (more : token.symbol ≠ .finish) : after.rest.length < c.rest.length := by
  refine Nat.lt_of_lt_of_le ?_ (length_skipBlanks_le c)
  unfold next scan at h
  split at h
  · simp only [Prod.mk.injEq, Except.ok.injEq] at h
    rw [← h.1] at more
    exact absurd rfl more
  · rename_i first others here
    rw [here]
    split at h
    · simp only [Prod.mk.injEq, Except.ok.injEq] at h
      rw [← h.2]
      exact Lexeme.cut_shorter first others
    · simp at h

/-- No token gives text back. -/
theorem length_next_le {c after : Cursor} {token : Token} (h : c.next = (.ok token, after)) :
    after.rest.length ≤ c.rest.length := by
  by_cases last : token.symbol = .finish
  · refine Nat.le_trans ?_ (length_skipBlanks_le c)
    unfold next scan at h
    split at h
    · simp only [Prod.mk.injEq] at h
      exact h.2 ▸ Nat.le_refl _
    · rename_i first others here
      rw [here]
      split at h
      · simp only [Prod.mk.injEq] at h
        rw [← h.2]
        exact Nat.le_of_lt (Lexeme.cut_shorter first others)
      · simp at h
  · exact Nat.le_of_lt (next_shorter h last)

/-- Draws tokens up to the end, which comes last; `drawn` holds those so far, last one first. -/
def drainFrom (drawn : List Token) (c : Cursor) : Except Stray (List Token) × Cursor :=
  match _drawn : c.next with
  | (.error stray, after) => (.error stray, after)
  | (.ok token, after) =>
    if _more : token.symbol = .finish then (.ok (token :: drawn).reverse, after)
    else drainFrom (token :: drawn) after
termination_by c.rest.length
decreasing_by exact next_shorter _drawn _more

/-- The tokens that are left, up to and including the end. -/
def drain (c : Cursor) : Except Stray (List Token) × Cursor :=
  drainFrom [] c

end Cursor

/-- The tokens of a text, up to and including the end. -/
def tokenize (text : String) : Except Stray (List Token) :=
  (Cursor.start text).drain.1

end Reckoner
