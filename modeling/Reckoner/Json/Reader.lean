import Reckoner.Assoc
import Reckoner.Json.Lexeme

/-!
# Reading a document

The reader keeps a stack of the lists and objects that are still open, so the depth of a document is
not bounded by the depth of any recursion. A name that an object gives twice keeps its first place
and its last value.

A caller may bound the number of digits of an integer. The first fault in the order of the text is
the one that is reported.
-/
namespace Reckoner.Json

open Text

/-- Why a text is refused as a document. -/
inductive Refusal where
  /-- The text is no document. -/
  | malformed
  /-- An integer has more digits than the limit allows. -/
  | oversized (limit digits : Nat)
  deriving DecidableEq, Repr

/-- A list or an object that still lacks a value; what it holds so far is given last one first. -/
inductive Frame where
  /-- A list and its items so far. -/
  | array (items : List Json)
  /-- An object, its fields so far and the name of the next value. -/
  | object (fields : List (List Letter × Json)) (name : List Letter)

/-- What the reader waits for. -/
inductive Wanted where
  /-- A value. -/
  | value
  /-- The first item of a list, or its end. -/
  | firstItem
  /-- A comma after these items, or the end of the list. -/
  | moreItems (items : List Json)
  /-- The first name of an object, or its end. -/
  | firstName
  /-- The name after these fields. -/
  | name (fields : List (List Letter × Json))
  /-- The colon after a name. -/
  | colon (fields : List (List Letter × Json)) (name : List Letter)
  /-- A comma after these fields, or the end of the object. -/
  | moreFields (fields : List (List Letter × Json))
  /-- Nothing: this is the document. -/
  | nothing (document : Json)

/-- The state of the reader. -/
structure Reading where
  /-- The lists and objects that are open around the place, innermost first. -/
  frames : List Frame
  /-- What comes next. -/
  wanted : Wanted

namespace Reading

/-- A value is complete: it goes into the innermost open list or object. -/
def complete (value : Json) : List Frame → Reading
  | [] => ⟨[], .nothing value⟩
  | .array items :: frames => ⟨frames, .moreItems (value :: items)⟩
  | .object fields name :: frames => ⟨frames, .moreFields ((name, value) :: fields)⟩

/-- Begins a value with its first lexeme. -/
def begin (limit : Option Nat) (frames : List Frame) : Lexeme → Except Refusal Reading
  | .openArray => .ok ⟨frames, .firstItem⟩
  | .openObject => .ok ⟨frames, .firstName⟩
  | .string s => .ok (complete (.string s) frames)
  | .word value => .ok (complete value frames)
  | .numeral l =>
    match limit with
    | some most =>
      if l.isInteger ∧ most < l.whole.length then .error (.oversized most l.whole.length)
      else .ok (complete (.number l.toNumber) frames)
    | none => .ok (complete (.number l.toNumber) frames)
  | _ => .error .malformed

/-- The object with these fields, which are given last one first. -/
def objectOf (fields : List (List Letter × Json)) : Json :=
  .object (Assoc.ofList fields.reverse)

/-- Goes on by one lexeme. -/
def step (limit : Option Nat) : Reading → Lexeme → Except Refusal Reading
  | ⟨frames, .value⟩, l => begin limit frames l
  | ⟨frames, .firstItem⟩, .closeArray => .ok (complete (.array []) frames)
  | ⟨frames, .firstItem⟩, l => begin limit (.array [] :: frames) l
  | ⟨frames, .moreItems items⟩, .comma => .ok ⟨.array items :: frames, .value⟩
  | ⟨frames, .moreItems items⟩, .closeArray => .ok (complete (.array items.reverse) frames)
  | ⟨frames, .firstName⟩, .closeObject => .ok (complete (.object []) frames)
  | ⟨frames, .firstName⟩, .string name => .ok ⟨frames, .colon [] name⟩
  | ⟨frames, .name fields⟩, .string name => .ok ⟨frames, .colon fields name⟩
  | ⟨frames, .colon fields name⟩, .colon => .ok ⟨.object fields name :: frames, .value⟩
  | ⟨frames, .moreFields fields⟩, .comma => .ok ⟨frames, .name fields⟩
  | ⟨frames, .moreFields fields⟩, .closeObject => .ok (complete (objectOf fields) frames)
  | _, _ => .error .malformed

/-- Goes on to the end of a text. -/
def run (limit : Option Nat) (reading : Reading) (cs : List Char) : Except Refusal Json :=
  let here := cs.dropWhile Lexeme.isSpace
  if here = [] then
    match reading.wanted with
    | .nothing document => .ok document
    | _ => .error .malformed
  else
    match _found : Lexeme.split? here with
    | none => .error .malformed
    | some (l, rest) =>
      match reading.step limit l with
      | .error refusal => .error refusal
      | .ok reading => run limit reading rest
termination_by cs.length
decreasing_by
  exact Nat.lt_of_lt_of_le (Lexeme.split_shorter _found) (Lexeme.length_dropWhile_le cs)

end Reading

/-- Reads a document, whose integers have at most `limit` digits if a limit is given. -/
def read (limit : Option Nat) (text : List Char) : Except Refusal Json :=
  Reading.run limit ⟨[], .value⟩ text

end Reckoner.Json
