import Reckoner.Numeral
import Reckoner.Text.Blank

/-!
# Tokens

An expression is written in tokens: numerals, names, the four operator signs, parentheses, commas,
and the end of the text. A *lexeme* is the text of one token. Three classes of characters decide
where a lexeme ends: digits, the characters of names, and all others, which stand alone.

Lexemes are maximal: `Lexeme.cut` takes as many digits, or as many characters of a name, as there
are, and nothing else is lost (`Lexeme.cut_append`).
-/
namespace Reckoner

/-- What a token is, and what it carries. -/
inductive Symbol where
  /-- A numeral. -/
  | integer (n : Nat)
  /-- A name. -/
  | identifier (name : String)
  /-- The sign of addition. -/
  | plus
  /-- The sign of subtraction. -/
  | minus
  /-- The sign of multiplication. -/
  | times
  /-- The sign of division. -/
  | divide
  /-- An opening parenthesis. -/
  | opening
  /-- A closing parenthesis. -/
  | closing
  /-- A comma. -/
  | comma
  /-- The end of the text. -/
  | finish
  deriving DecidableEq, Repr

/-- The kinds of tokens. -/
inductive Kind where
  /-- A numeral. -/
  | integer
  /-- A name. -/
  | identifier
  /-- The sign of addition. -/
  | plus
  /-- The sign of subtraction. -/
  | minus
  /-- The sign of multiplication. -/
  | times
  /-- The sign of division. -/
  | divide
  /-- An opening parenthesis. -/
  | opening
  /-- A closing parenthesis. -/
  | closing
  /-- A comma. -/
  | comma
  /-- The end of the text. -/
  | finish
  deriving DecidableEq, Repr

namespace Kind

/-- The name of a kind in listings and messages. -/
def name : Kind → String
  | .integer => "INTEGER"
  | .identifier => "IDENTIFIER"
  | .plus => "PLUS"
  | .minus => "MINUS"
  | .times => "MUL"
  | .divide => "DIV"
  | .opening => "LPAREN"
  | .closing => "RPAREN"
  | .comma => "COMMA"
  | .finish => "EOF"

/-- All kinds. -/
def all : List Kind :=
  [.integer, .plus, .minus, .times, .divide, .opening, .closing, .identifier, .comma, .finish]

/-- The kind of a given name. -/
def ofName? (name : String) : Option Kind :=
  all.find? (·.name = name)

theorem name_injective {k l : Kind} (h : k.name = l.name) : k = l := by
  revert h
  cases k <;> cases l <;> decide

end Kind

namespace Symbol

/-- The kind of a symbol. -/
def kind : Symbol → Kind
  | .integer _ => .integer
  | .identifier _ => .identifier
  | .plus => .plus
  | .minus => .minus
  | .times => .times
  | .divide => .divide
  | .opening => .opening
  | .closing => .closing
  | .comma => .comma
  | .finish => .finish

/-- The text of a symbol; that of a numeral has no needless zeros. -/
def text : Symbol → String
  | .integer n => Numeral.writeInt n
  | .identifier name => name
  | .plus => "+"
  | .minus => "-"
  | .times => "*"
  | .divide => "/"
  | .opening => "("
  | .closing => ")"
  | .comma => ","
  | .finish => ""

/-- The symbol that a single character stands for. -/
def ofMark? : Char → Option Symbol
  | '+' => some .plus
  | '-' => some .minus
  | '*' => some .times
  | '/' => some .divide
  | '(' => some .opening
  | ')' => some .closing
  | ',' => some .comma
  | _ => none

end Symbol

namespace Lexeme

/-- Whether a name can start with a character. -/
def isNameStart (c : Char) : Bool :=
  c.isAlpha || c == '_'

/-- Whether a name can go on with a character. -/
def isNamePart (c : Char) : Bool :=
  isNameStart c || c.isDigit

/-- Splits a text after its first lexeme: a run of digits, a name, or a single character. -/
def cut : List Char → List Char × List Char
  | [] => ([], [])
  | c :: cs =>
    if c.isDigit then (c :: cs.takeWhile Char.isDigit, cs.dropWhile Char.isDigit)
    else if isNameStart c then (c :: cs.takeWhile isNamePart, cs.dropWhile isNamePart)
    else ([c], cs)

/-- The symbol that a lexeme stands for. -/
def symbol? : List Char → Option Symbol
  | [] => none
  | c :: cs =>
    if c.isDigit then some (.integer (Numeral.read (c :: cs)))
    else if isNameStart c then some (.identifier (String.ofList (c :: cs)))
    else Symbol.ofMark? c

theorem cut_append (cs : List Char) : (cut cs).1 ++ (cut cs).2 = cs := by
  unfold cut
  split
  · rfl
  · split
    · simp
    · split <;> simp

theorem cut_shorter (c : Char) (cs : List Char) : (cut (c :: cs)).2.length < (c :: cs).length := by
  have parts := congrArg List.length (cut_append (c :: cs))
  have : 0 < (cut (c :: cs)).1.length := by
    unfold cut
    dsimp only
    split
    · simp
    · split <;> simp
  simp only [List.length_append] at parts
  omega

end Lexeme

/-- Whether a text is a name. -/
def isName (name : String) : Bool :=
  match name.toList with
  | [] => false
  | c :: cs => Lexeme.isNameStart c && cs.all Lexeme.isNamePart

/-- A symbol and the place where it starts, in characters from the start of the text. -/
structure Token where
  /-- What the token is. -/
  symbol : Symbol
  /-- Where the token starts. -/
  offset : Nat
  deriving DecidableEq, Repr

namespace Token

/-- The kind of a token. -/
def kind (t : Token) : Kind :=
  t.symbol.kind

/-- A token in a listing. -/
def text (t : Token) : String :=
  match t.symbol with
  | .finish => t.kind.name ++ " @" ++ toString t.offset
  | symbol => t.kind.name ++ " " ++ symbol.text ++ " @" ++ toString t.offset

end Token
end Reckoner
