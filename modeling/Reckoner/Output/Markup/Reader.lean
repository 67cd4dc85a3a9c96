import Reckoner.Output.Markup
import Reckoner.Output.StyledText

/-!
# Reading markup

Markup is read into a styled text. Each tag becomes a span, from where it is opened to where it is
closed or to the end. A tag is closed by name, in any order, so spans may overlap; of two spans the one
that begins later lies on top. A tag that names no style changes nothing but has to be closed like any
other.

What stands between two tags is a piece of its own: no code of an emoji reaches across a tag.
-/
namespace Reckoner.Markup

/-- Why a text is no markup. -/
inductive Refusal where
  /-- A closing tag stands where no tag is open. -/
  | nothingToClose (position : Nat)
  /-- A closing tag names a tag that is not open. -/
  | unmatched (tag : String) (position : Nat)
  /-- A tag mixes a color and leaves out a part of it. -/
  | incompleteColor
  deriving DecidableEq, Repr

/-- How markup that cannot be read is reported. -/
def Refusal.message : Refusal → String
  | .nothingToClose position =>
    "closing tag '[/]' at position " ++ toString position ++ " has nothing to close"
  | .unmatched tag position =>
    "closing tag '[" ++ tag ++ "]' at position " ++ toString position ++
      " doesn't match any open tag"
  | .incompleteColor => "invalid literal for int() with base 10: ''"

/-- What is read from a text that may ask for a style, or `other` if it does not. -/
def orElse {α : Type} (other : α) : Except Color.Defect α → Except Refusal α
  | .ok value => .ok value
  | .error .unknown => .ok other
  | .error .incomplete => .error .incompleteColor

/-- The name by which a closing tag finds its opening tag: the words for its style, so that two ways
to ask for the same style are the same name. -/
def tagName (text : List Char) : Except Refusal (List Char) :=
  orElse (Text.lower (Text.trim text)) ((Style.ofText text).map Style.text)

/-- An open tag. -/
structure OpenTag where
  /-- Where the text that it holds for begins. -/
  start : Nat
  /-- Its name. -/
  name : List Char
  /-- What follows an equality sign in it. -/
  argument? : Option (List Char)
  deriving DecidableEq, Repr

/-- The text by which a tag asks for its style. -/
def OpenTag.style (tag : OpenTag) : List Char :=
  tag.name ++ tag.argument?.elim [] (' ' :: ·)

/-- How far markup has been read. -/
structure Progress where
  /-- The open tags, the one that was opened last first. -/
  tags : List OpenTag := []
  /-- The characters since the last tag, last one first. -/
  pending : List Char := []
  /-- The text before them, last character first. -/
  text : List Char := []
  /-- The spans of the tags that have been closed, last one first. -/
  spans : List (Span (List Char)) := []

namespace Progress

/-- Adds a piece of text. -/
def add (p : Progress) (piece : List Char) : Progress :=
  { p with text := (StyledText.shown piece).reverse ++ p.text }

/-- Ends the piece of text at hand. -/
def flush (p : Progress) : Progress :=
  { p.add p.pending.reverse with pending := [] }

/-- Adds characters to the piece at hand. -/
def hold (p : Progress) (cs : List Char) : Progress :=
  { p with pending := cs.reverse ++ p.pending }

/-- Opens a tag. -/
def openTag (p : Progress) (tag : List Char) : Except Refusal Progress := do
  let name ← tagName (tag.takeWhile (· ≠ '='))
  let argument? := match tag.dropWhile (· ≠ '=') with
    | [] => none
    | _ :: argument => some argument
  return { p with tags := ⟨p.text.length, name, argument?⟩ :: p.tags }

/-- The span of a tag that is closed here. -/
def spanOf (p : Progress) (tag : OpenTag) : Span (List Char) :=
  ⟨tag.start, p.text.length, tag.style⟩

/-- Closes a tag: the last one, or the last one of a given name. -/
def closeTag (p : Progress) (tag : List Char) (position : Nat) : Except Refusal Progress :=
  match Text.trim ((tag.takeWhile (· ≠ '=')).drop 1), p.tags with
  | [], [] => .error (.nothingToClose position)
  | [], last :: tags => .ok { p with tags := tags, spans := p.spanOf last :: p.spans }
  | text, tags => do
    let name ← tagName text
    match tags.find? (·.name = name) with
    | some last =>
      return { p with tags := tags.eraseP (·.name = name), spans := p.spanOf last :: p.spans }
    | none => .error (.unmatched (String.ofList tag) position)

/-- The text that has been read. Tags that are still open end here, the last one first. Spans are in
the order in which they begin, and of those that begin together the one that ends last comes first. -/
def finish (p : Progress) : StyledText (List Char) :=
  let p := p.flush
  let spans := p.tags.foldl (fun spans tag => p.spanOf tag :: spans) p.spans
  ⟨p.text.reverse, spans.mergeSort fun s t => s.start ≤ t.start⟩

end Progress

theorem tag_shorter {cs tag rest : List Char} (h : tag? cs = some (tag, rest)) :
    rest.length < cs.length := by
  unfold tag? at h
  split at h
  · simp at h
  · rename_i c cs
    split at h
    · split at h
      · rename_i found
        simp only [Option.some.injEq, Prod.mk.injEq] at h
        have suffix := (List.dropWhile_suffix (l := cs) fun d => d ≠ ']' ∧ d ≠ '[').length_le
        rw [found] at suffix
        rw [← h.2]
        simp only [List.length_cons] at suffix ⊢
        omega
      · simp at h
    · simp at h

/-- Reads on, after `slashes` backslashes; `position` is that of the next character. -/
def readFrom (p : Progress) (slashes position : Nat) (cs : List Char) :
    Except Refusal Progress :=
  match cs with
  | [] => .ok (p.hold (backslashes slashes))
  | '\\' :: cs => readFrom p (slashes + 1) (position + 1) cs
  | '[' :: cs =>
    match _found : tag? cs with
    | none => readFrom (p.hold (backslashes (slashes - 1) ++ ['['])) 0 (position + 1) cs
    | some (tag, rest) =>
      let p := p.flush.add (backslashes (slashes / 2))
      let after := position + tag.length + 2
      if slashes % 2 = 1 then readFrom (p.add ('[' :: (tag ++ [']']))) 0 after rest
      else
        match if tag.head? = some '/' then p.closeTag tag position else p.openTag tag with
        | .ok p => readFrom p 0 after rest
        | .error refusal => .error refusal
  | c :: cs => readFrom (p.hold (backslashes slashes ++ [c])) 0 (position + 1) cs
termination_by cs.length
decreasing_by
  · exact Nat.lt_succ_self _
  · exact Nat.lt_succ_self _
  · exact Nat.lt_succ_of_lt (tag_shorter _found)
  · exact Nat.lt_succ_of_lt (tag_shorter _found)
  · exact Nat.lt_succ_self _

/-- The styled text of markup; its spans say by which texts they ask for their styles. -/
def read (markup : String) : Except Refusal (StyledText (List Char)) :=
  (readFrom {} 0 0 markup.toList).map Progress.finish

end Reckoner.Markup
