import Reckoner.Output.Style

/-!
# Markup

Markup is text with tags in brackets: `[green]` starts a style and `[/]` ends the one that was
started last. A bracket is only a tag if a small letter or one of `#/@` follows and the bracket is
closed before the next one opens. A backslash in front of a tag takes its meaning away, and two of
them stand for one.

`escape` makes a text safe: no bracket in it is read as a tag.
-/
namespace Reckoner.Markup

/-- Whether a tag can start with a character. -/
def startsTag (c : Char) : Bool :=
  ('a' ≤ c && c ≤ 'z') || c == '#' || c == '/' || c == '@'

/-- The text between the brackets of a tag and the rest, after the opening bracket. -/
def tag? (cs : List Char) : Option (List Char × List Char) :=
  match cs with
  | [] => none
  | c :: cs =>
    if startsTag c then
      match cs.dropWhile fun d => d ≠ ']' ∧ d ≠ '[' with
      | ']' :: rest => some (c :: cs.takeWhile fun d => d ≠ ']' ∧ d ≠ '[', rest)
      | _ => none
    else none

/-- A run of backslashes. -/
def backslashes (n : Nat) : List Char :=
  List.replicate n '\\'

/-- Puts a backslash in front of each tag and doubles those that stand there; `pending` is the number
of backslashes just before. -/
def escapeTags (pending : Nat) : List Char → List Char
  | [] => backslashes pending
  | c :: cs =>
    if c = '\\' then escapeTags (pending + 1) cs
    else if c = '[' ∧ (tag? cs).isSome then
      backslashes (2 * pending + 1) ++ c :: escapeTags 0 cs
    else backslashes pending ++ c :: escapeTags 0 cs

/-- Doubles a single backslash at the end of a text, lest it touch the tag that follows. -/
def closeEnd (cs : List Char) : List Char :=
  match cs.reverse with
  | '\\' :: '\\' :: _ => cs
  | '\\' :: _ => cs ++ ['\\']
  | _ => cs

/-- A text whose brackets mean nothing. -/
def escape (text : String) : String :=
  String.ofList (closeEnd (escapeTags 0 text.toList))

/-- A text in a style, if styles are enabled. -/
def colorize (text style : String) (enabled : Bool) : String :=
  if enabled then "[" ++ style ++ "]" ++ escape text ++ "[/]" else text

/-- The style of results. -/
def brightGreen (text : String) (enabled : Bool) : String :=
  colorize text "bright_green" enabled

/-- The style of the kinds of tokens. -/
def magenta (text : String) (enabled : Bool) : String :=
  colorize text "magenta" enabled

/-- The style of the places of tokens. -/
def dimWhite (text : String) (enabled : Bool) : String :=
  colorize text "dim white" enabled

/-- The style of the forms of expressions. -/
def brightBlue (text : String) (enabled : Bool) : String :=
  colorize text "bright_blue" enabled

end Reckoner.Markup
