import Reckoner.Expr.Parser

/-!
# Many readers of one text

One text can be read by several readers in turns: directly, through iterators and through parsers.
They share one cursor, so every token is handed out once. An iterator is finished when it has handed
out the end, or when it has failed; the cursor is not.
-/
namespace Reckoner

/-- An iterator over the tokens of a shared text. -/
structure TokenIterator where
  /-- Whether there is nothing more to come. -/
  finished : Bool := false
  deriving DecidableEq, Repr

/-- A text and its readers. -/
structure Session where
  /-- The place up to which the text has been read. -/
  cursor : Cursor
  /-- The iterators, in the order of their creation. -/
  iterators : List TokenIterator := []
  /-- The parsers, in the order of their creation. -/
  parsers : List Parser := []

/-- What can be asked of a session. -/
inductive Request where
  /-- The next token. -/
  | draw
  /-- All tokens that are left. -/
  | drain
  /-- A new iterator. -/
  | openIterator
  /-- The next token of an iterator. -/
  | iterate (index : Nat)
  /-- A new parser, which draws its first token. -/
  | openParser
  /-- An expression up to the end of the text. -/
  | parse (index : Nat)
  /-- The token at hand, if it is of a given kind. -/
  | eat (index : Nat) (kind : Kind)
  deriving DecidableEq, Repr

/-- What a session answers. -/
inductive Answer where
  /-- A token. -/
  | token (t : Token)
  /-- Several tokens. -/
  | tokens (ts : List Token)
  /-- The iterator is finished. -/
  | stopped
  /-- The index of a new iterator. -/
  | iterator (index : Nat)
  /-- The index of a new parser. -/
  | parser (index : Nat)
  /-- An expression. -/
  | expression (e : Expr)
  /-- The text is at fault. -/
  | failed (fault : SyntaxFault)
  /-- There is no reader of that index. -/
  | absent
  deriving Repr

namespace Session

/-- A session over a text that nobody has read yet. -/
def start (text : String) : Session :=
  ⟨Cursor.start text, [], []⟩

/-- Asks an iterator for its next token. -/
def iterate (s : Session) (index : Nat) : Answer × Session :=
  match s.iterators[index]? with
  | none => (.absent, s)
  | some ⟨true⟩ => (.stopped, s)
  | some ⟨false⟩ =>
    match s.cursor.next with
    | (.ok token, after) =>
      (.token token,
        ⟨after, s.iterators.set index ⟨token.symbol = .finish⟩, s.parsers⟩)
    | (.error stray, after) =>
      (.failed (.stray stray), ⟨after, s.iterators.set index ⟨true⟩, s.parsers⟩)

/-- Asks a parser for something. -/
def consult {α : Type} (s : Session) (index : Nat) (answer : α → Answer)
    (ask : Parser → Cursor → Except SyntaxFault α × Parser × Cursor) : Answer × Session :=
  match s.parsers[index]? with
  | none => (.absent, s)
  | some p =>
    let (result, p, after) := ask p s.cursor
    (match result with
      | .ok a => answer a
      | .error fault => .failed fault,
      ⟨after, s.iterators, s.parsers.set index p⟩)

/-- Answers one request. -/
def step (s : Session) : Request → Answer × Session
  | .draw =>
    match s.cursor.next with
    | (.ok token, after) => (.token token, { s with cursor := after })
    | (.error stray, after) => (.failed (.stray stray), { s with cursor := after })
  | .drain =>
    match s.cursor.drain with
    | (.ok tokens, after) => (.tokens tokens, { s with cursor := after })
    | (.error stray, after) => (.failed (.stray stray), { s with cursor := after })
  | .openIterator =>
    (.iterator s.iterators.length, { s with iterators := s.iterators ++ [{}] })
  | .iterate index => s.iterate index
  | .openParser =>
    match Parser.start s.cursor with
    | (.ok p, after) =>
      (.parser s.parsers.length, { s with cursor := after, parsers := s.parsers ++ [p] })
    | (.error stray, after) => (.failed (.stray stray), { s with cursor := after })
  | .parse index => s.consult index .expression Parser.parse
  | .eat index kind => s.consult index .token (Parser.eat kind)

end Session
end Reckoner
