import Reckoner.Expr
import Reckoner.Token.Cursor

/-!
# Reading expressions

Addition and subtraction bind loosest and group to the left, multiplication and division bind
tighter and group to the left, and signs bind tightest. A name must be followed by the arguments of
a call.

The parser is a machine. It has one token at hand and knows the constructs that are still open
around it. A token either fits, changes the state and gives way to the next one, or is refused. Since
a token is drawn only after the one before it has been accepted, the first fault in the text is the
one that is reported, be it a token that does not fit or a character that starts no token.
-/
namespace Reckoner

/-- Why a token does not fit. -/
inductive Misfit where
  /-- An operand was expected. -/
  | operand (actual : Kind) (offset : Nat)
  /-- A name stands without arguments; the offset is that of the name. -/
  | bareName (name : String) (actual : Kind) (offset : Nat)
  /-- A token of another kind was expected. -/
  | kind (expected actual : Kind) (offset : Nat)
  /-- The expression was complete. -/
  | trailing (actual : Kind) (offset : Nat)
  deriving DecidableEq, Repr

namespace Misfit

/-- The kind of token that was found. -/
def actual : Misfit → Kind
  | .operand actual _ => actual
  | .bareName _ actual _ => actual
  | .kind _ actual _ => actual
  | .trailing actual _ => actual

/-- The kind of token that was expected, where any operand would do for none. -/
def expected? : Misfit → Option Kind
  | .operand .. => none
  | .bareName .. => some .opening
  | .kind expected .. => some expected
  | .trailing .. => some .finish

/-- The place that is reported. -/
def offset : Misfit → Nat
  | .operand _ offset => offset
  | .bareName _ _ offset => offset
  | .kind _ _ offset => offset
  | .trailing _ offset => offset

/-- What is wrong, without the place. -/
def complaint : Misfit → String
  | .operand actual _ => "Unexpected token " ++ actual.name
  | .bareName name _ _ =>
    "Unexpected identifier " ++ Text.quote name ++ ": variables are not supported"
  | .kind expected actual _ => "Expected " ++ expected.name ++ ", got " ++ actual.name
  | .trailing actual _ =>
    "Unexpected trailing input: expected " ++ Kind.finish.name ++ ", got " ++ actual.name

/-- How a token that does not fit is reported. -/
def message (m : Misfit) : String :=
  m.complaint ++ " at offset " ++ toString m.offset

end Misfit

/-- A construct that still lacks something. -/
inductive Frame where
  /-- A sign that lacks its operand. -/
  | sign (sign : Sign)
  /-- An operator that lacks its right operand. -/
  | operator (op : Operator) (left : Expr)
  /-- A parenthesis that has not been closed. -/
  | group
  /-- A call and its arguments so far, last one first. -/
  | call (name : String) (arguments : List Expr)
  deriving Repr

/-- What a parser waits for. -/
inductive Awaited where
  /-- An operand. -/
  | operand
  /-- The first argument of a call, or its end. -/
  | arguments
  /-- The opening parenthesis after a name. -/
  | opening (name : String) (offset : Nat)
  /-- An operator or an end after a complete operand. -/
  | operator (left : Expr)
  deriving Repr

/-- How far an expression has been read. -/
structure Progress where
  /-- The open constructs, innermost first. -/
  frames : List Frame
  /-- What fits next. -/
  awaited : Awaited
  deriving Repr

namespace Operator

/-- The operator that a symbol stands for. -/
def ofSymbol? : Symbol → Option Operator
  | .plus => some .add
  | .minus => some .sub
  | .times => some .mul
  | .divide => some .div
  | _ => none

/-- Whether an operator binds tighter than addition. -/
def bindsTightly : Operator → Bool
  | .add => false
  | .sub => false
  | .mul => true
  | .div => true

end Operator

namespace Progress

/-- Nothing has been read. -/
def start : Progress :=
  ⟨[], .operand⟩

/-- Completes the signs and operators that bind the operand `e`: all of them, or only those that bind
tightly. -/
def settle (onlyTight : Bool) : List Frame → Expr → List Frame × Expr
  | .sign sign :: frames, e => settle onlyTight frames (.signed sign e)
  | .operator op left :: frames, e =>
    if onlyTight && !op.bindsTightly then (.operator op left :: frames, e)
    else settle onlyTight frames (.binary op left e)
  | frames, e => (frames, e)

/-- Goes on from a place where an operand starts. -/
def operand (frames : List Frame) (t : Token) : Except Misfit Progress :=
  match t.symbol with
  | .integer n => .ok ⟨frames, .operator (.literal n)⟩
  | .identifier name => .ok ⟨frames, .opening name t.offset⟩
  | .plus => .ok ⟨.sign .plus :: frames, .operand⟩
  | .minus => .ok ⟨.sign .minus :: frames, .operand⟩
  | .opening => .ok ⟨.group :: frames, .operand⟩
  | _ => .error (.operand t.kind t.offset)

/-- Goes on after a complete expression within the open constructs. -/
def close (frames : List Frame) (e : Expr) (t : Token) : Except Misfit Progress :=
  match frames, t.symbol with
  | .group :: frames, .closing => .ok ⟨frames, .operator e⟩
  | .call name arguments :: frames, .closing =>
    .ok ⟨frames, .operator (.call name (e :: arguments).reverse)⟩
  | .call name arguments :: frames, .comma => .ok ⟨.call name (e :: arguments) :: frames, .operand⟩
  | [], _ => .error (.trailing t.kind t.offset)
  | _, _ => .error (.kind .closing t.kind t.offset)

/-- Goes on by one token. -/
def advance (p : Progress) (t : Token) : Except Misfit Progress :=
  match p.awaited with
  | .operand => operand p.frames t
  | .arguments =>
    match p.frames, t.symbol with
    | .call name [] :: frames, .closing => .ok ⟨frames, .operator (.call name [])⟩
    | frames, _ => operand frames t
  | .opening name offset =>
    match t.symbol with
    | .opening => .ok ⟨.call name [] :: p.frames, .arguments⟩
    | _ => .error (.bareName name t.kind offset)
  | .operator left =>
    match Operator.ofSymbol? t.symbol with
    | some op =>
      let (frames, left) := settle op.bindsTightly p.frames left
      .ok ⟨.operator op left :: frames, .operand⟩
    | none =>
      let (frames, e) := settle false p.frames left
      close frames e t

/-- The expression that has been read if the text ends here. -/
def finish (p : Progress) (t : Token) : Except Misfit Expr :=
  match p.awaited with
  | .operator left =>
    match settle false p.frames left with
    | ([], e) => .ok e
    | _ => .error (.kind .closing t.kind t.offset)
  | .opening name offset => .error (.bareName name t.kind offset)
  | _ => .error (.operand t.kind t.offset)

end Progress

/-- Why a text is no expression. -/
inductive SyntaxFault where
  /-- A character starts no token. -/
  | stray (s : Stray)
  /-- A token does not fit. -/
  | misfit (m : Misfit)
  deriving DecidableEq, Repr

/-- How a fault in a text is reported. -/
def SyntaxFault.message : SyntaxFault → String
  | .stray s => s.message
  | .misfit m => m.message

/-- A parser has one token at hand. The text behind it may be shared with others. -/
structure Parser where
  /-- The token at hand. -/
  current : Token
  deriving Repr

namespace Parser

/-- A parser for the text after a place; it draws its first token. -/
def start (c : Cursor) : Except Stray Parser × Cursor :=
  match c.next with
  | (.ok token, after) => (.ok ⟨token⟩, after)
  | (.error stray, after) => (.error stray, after)

/-- Goes on to the end of the text. The parser keeps the last token that was drawn. -/
def run (progress : Progress) (p : Parser) (c : Cursor) :
    Except SyntaxFault Expr × Parser × Cursor :=
  if _more : p.current.symbol = .finish then
    (match progress.finish p.current with
      | .ok e => .ok e
      | .error misfit => .error (.misfit misfit), p, c)
  else
    match progress.advance p.current with
    | .error misfit => (.error (.misfit misfit), p, c)
    | .ok progress =>
      match _drawn : c.next with
      | (.error stray, after) => (.error (.stray stray), p, after)
      | (.ok token, after) => run progress ⟨token⟩ after
termination_by c.rest.length + if p.current.symbol = .finish then 0 else 1
decreasing_by
  rw [if_neg _more]
  by_cases last : token.symbol = .finish
  · rw [if_pos last]
    exact Nat.lt_succ_of_le (Cursor.length_next_le _drawn)
  · rw [if_neg last]
    exact Nat.succ_lt_succ (Cursor.next_shorter _drawn last)

/-- Reads an expression from the token at hand to the end of the text. -/
def parse (p : Parser) (c : Cursor) : Except SyntaxFault Expr × Parser × Cursor :=
  run .start p c

/-- Hands out the token at hand if it is of a given kind, and draws the next one. -/
def eat (kind : Kind) (p : Parser) (c : Cursor) : Except SyntaxFault Token × Parser × Cursor :=
  if p.current.kind = kind then
    match c.next with
    | (.ok token, after) => (.ok p.current, ⟨token⟩, after)
    | (.error stray, after) => (.error (.stray stray), p, after)
  else (.error (.misfit (.kind kind p.current.kind p.current.offset)), p, c)

end Parser

/-- The expression that a text spells. -/
def parse (text : String) : Except SyntaxFault Expr :=
  match Parser.start (Cursor.start text) with
  | (.ok p, c) => (p.parse c).1
  | (.error stray, _) => .error (.stray stray)

end Reckoner
