import Reckoner.Text.Hex
import Reckoner.Text.Letter
import Reckoner.Text.Printable

/-!
# Quoted text

Messages and log lines show a text between quotation marks and in printable characters only. The
mark is the single one unless the text holds single marks and no double ones. The mark, the
backslash and the three common controls are escaped by a backslash; every other character without a
visible form is given by its code point.
-/
namespace Reckoner.Text.Quoted

/-- The single quotation mark. -/
def single : Char := '\x27'

/-- The double quotation mark. -/
def double : Char := '\x22'

/-- The mark that surrounds a text. -/
def markOf (ls : List Letter) : Char :=
  if ls.contains (.char single) && !ls.contains (.char double) then double else single

/-- A code point in the shortest escape that holds it: two, four or eight hexadecimal digits. -/
def codePoint (n : Nat) : List Char :=
  if n < 0x100 then '\\' :: 'x' :: hexDigits 2 n
  else if n < 0x10000 then '\\' :: 'u' :: hexDigits 4 n
  else '\\' :: 'U' :: hexDigits 8 n

/-- One letter as it stands between two marks. -/
def escape (mark : Char) : Letter → List Char
  | .lone unit => codePoint unit
  | .char c =>
    if c = mark ∨ c = '\\' then ['\\', c]
    else if c = '\n' then ['\\', 'n']
    else if c = '\r' then ['\\', 'r']
    else if c = '\t' then ['\\', 't']
    else if isPrintable c then [c]
    else codePoint c.toNat

/-- A list of letters in quotation marks. -/
def ofLetters (ls : List Letter) : String :=
  let mark := markOf ls
  String.ofList (mark :: (ls.flatMap (escape mark) ++ [mark]))

end Quoted

/-- A string in quotation marks. -/
def quote (s : String) : String :=
  Quoted.ofLetters (letters s)

end Reckoner.Text
