import Reckoner.Json
import Reckoner.Text.Hex

/-!
# The text of a document

Documents are written on one line in ASCII, with a blank after each comma and colon. Integers are
written in full.

A document can be written at once only if none of its integers has too many digits (`encode?`). The
text of any document is reached by a detour (`dump?`): an integer that is too long for one chunk of
digits first gives way to a marker, a text that starts with the NUL character, and the digits take the
place of the quoted marker afterwards. What is written at once then holds just the integers that are
not long (`integers_setAside`), so that the detour always leads to a text (`dump`).
-/
namespace Reckoner.Json

open Text

/-- A UTF-16 code unit by its number. -/
def unitEscape (unit : Nat) : List Char :=
  '\\' :: 'u' :: hexDigits 4 unit

/-- The two surrogates of a code point beyond the first plane. -/
def surrogates (code : Nat) : Nat × Nat :=
  (0xD800 + (code - 0x10000) / 0x400, 0xDC00 + (code - 0x10000) % 0x400)

/-- One letter as it stands between quotation marks. -/
def escape : Letter → List Char
  | .lone unit => unitEscape unit
  | .char c =>
    if c = '\x22' ∨ c = '\\' then ['\\', c]
    else if c = '\n' then ['\\', 'n']
    else if c = '\r' then ['\\', 'r']
    else if c = '\t' then ['\\', 't']
    else if c = '\x0C' then ['\\', 'f']
    else if c = '\x08' then ['\\', 'b']
    else if ' ' ≤ c ∧ c ≤ '~' then [c]
    else if c.toNat < 0x10000 then unitEscape c.toNat
    else unitEscape (surrogates c.toNat).1 ++ unitEscape (surrogates c.toNat).2

/-- A text between quotation marks. -/
def quoted (s : List Letter) : List Char :=
  '\x22' :: (s.flatMap escape ++ ['\x22'])

/-- A number; the doubles that are no decimals have names. -/
def numeral : Number → List Char
  | .int n => (Numeral.writeInt n).toList
  | .float x =>
    if x.isNaN then "NaN".toList
    else if x.isInf then (if x < 0 then "-Infinity" else "Infinity").toList
    else (Double.text x).toList

mutual
/-- A value, in front of the text `rest`. -/
def write : Json → List Char → List Char
  | .null, rest => "null".toList ++ rest
  | .bool true, rest => "true".toList ++ rest
  | .bool false, rest => "false".toList ++ rest
  | .number n, rest => numeral n ++ rest
  | .string s, rest => quoted s ++ rest
  | .array items, rest => '[' :: writeItems items (']' :: rest)
  | .object fields, rest => '{' :: writeFields fields ('}' :: rest)
termination_by structural value => value

/-- The items of a list, in front of the text `rest`. -/
def writeItems : List Json → List Char → List Char
  | [], rest => rest
  | [item], rest => write item rest
  | item :: items, rest => write item (',' :: ' ' :: writeItems items rest)
termination_by structural items => items

/-- The fields of an object, in front of the text `rest`. -/
def writeFields : List (List Letter × Json) → List Char → List Char
  | [], rest => rest
  | [(name, value)], rest => quoted name ++ ':' :: ' ' :: write value rest
  | (name, value) :: fields, rest =>
    quoted name ++ ':' :: ' ' :: write value (',' :: ' ' :: writeFields fields rest)
termination_by structural fields => fields
end

/-- The text of a document, with every integer in full. -/
def render (value : Json) : List Char :=
  write value []

mutual
/-- The integers of a value, from left to right. -/
def integers : Json → List Int
  | .number (.int n) => [n]
  | .array items => itemIntegers items
  | .object fields => fieldIntegers fields
  | _ => []
termination_by structural value => value

/-- The integers in the items of a list. -/
def itemIntegers : List Json → List Int
  | [] => []
  | item :: items => integers item ++ itemIntegers items
termination_by structural items => items

/-- The integers in the fields of an object. -/
def fieldIntegers : List (List Letter × Json) → List Int
  | [] => []
  | (_, value) :: fields => integers value ++ fieldIntegers fields
termination_by structural fields => fields
end

/-- The text of a document that is written at once, unless one of its integers has too many digits
for that. -/
def encode? (value : Json) : Option (List Char) :=
  if value.integers.all Numeral.isConvertible then some value.render else none

/-- The marker that stands for the long integer number `n`. -/
def marker (n : Nat) : List Letter :=
  letters (String.ofList ('\x00' :: ("long-integer:".toList ++ Numeral.digits n)))

mutual
/-- Puts markers in place of the long integers of a value and collects these, last one first. -/
def setAside : Json → List Int → Json × List Int
  | .number (.int n), found =>
    if Numeral.isLong n then (.string (marker found.length), n :: found)
    else (.number (.int n), found)
  | .array items, found =>
    let (items, found) := setAsideItems items found
    (.array items, found)
  | .object fields, found =>
    let (fields, found) := setAsideFields fields found
    (.object fields, found)
  | value, found => (value, found)
termination_by structural value => value

/-- Puts markers in place of the long integers in the items of a list. -/
def setAsideItems : List Json → List Int → List Json × List Int
  | [], found => ([], found)
  | item :: items, found =>
    let (item, found) := setAside item found
    let (items, found) := setAsideItems items found
    (item :: items, found)
termination_by structural items => items

/-- Puts markers in place of the long integers in the fields of an object. -/
def setAsideFields : List (List Letter × Json) → List Int → List (List Letter × Json) × List Int
  | [], found => ([], found)
  | (name, value) :: fields, found =>
    let (value, found) := setAside value found
    let (fields, found) := setAsideFields fields found
    ((name, value) :: fields, found)
termination_by structural fields => fields
end

/-- Puts `new` in place of the first occurrence of `what` in a text; `before` is the text in front of
it, last character first. -/
def replaceFirst (what new : List Char) (before : List Char) : List Char → List Char
  | [] => before.reverse
  | c :: cs =>
    if what.isPrefixOf (c :: cs) then before.reverse ++ (new ++ (c :: cs).drop what.length)
    else replaceFirst what new (c :: before) cs

/-- Puts the digits of the integers in place of their markers, which are numbered from `n` on. -/
def putBack (n : Nat) : List Int → List Char → List Char
  | [], text => text
  | long :: longs, text =>
    putBack (n + 1) longs
      (replaceFirst (quoted (marker n)) (Numeral.writeInt long).toList [] text)

/-- The text of a document, with the long integers written last, if the rest of it can be written at
once. -/
def dump? (value : Json) : Option String := do
  let (short, longs) := setAside value []
  let text ← encode? short
  return String.ofList (putBack 0 longs.reverse text)

mutual
/-- Just the integers that are not long stay in their places. -/
theorem integers_setAside : ∀ (value : Json) (found : List Int),
    (setAside value found).1.integers = value.integers.filter fun n => !Numeral.isLong n
  | .number (.int n), found => by
    by_cases hlong : Numeral.isLong n = true <;> simp [setAside, integers, hlong]
  | .array items, found => itemIntegers_setAside items found
  | .object fields, found => fieldIntegers_setAside fields found
  | .number (.float _), _ | .null, _ | .bool _, _ | .string _, _ => rfl

theorem itemIntegers_setAside : ∀ (items : List Json) (found : List Int),
    itemIntegers (setAsideItems items found).1 =
      (itemIntegers items).filter fun n => !Numeral.isLong n
  | [], _ => rfl
  | item :: items, found => by
    rw [setAsideItems, itemIntegers, itemIntegers, List.filter_append, integers_setAside,
      itemIntegers_setAside]

theorem fieldIntegers_setAside : ∀ (fields : List (List Letter × Json)) (found : List Int),
    fieldIntegers (setAsideFields fields found).1 =
      (fieldIntegers fields).filter fun n => !Numeral.isLong n
  | [], _ => rfl
  | (name, value) :: fields, found => by
    rw [setAsideFields, fieldIntegers, fieldIntegers, List.filter_append, integers_setAside,
      fieldIntegers_setAside]
end

/-- No integer that stays in its place is long. -/
theorem isLong_setAside {value : Json} {found : List Int} {n : Int}
    (h : n ∈ (setAside value found).1.integers) : Numeral.isLong n = false := by
  rw [integers_setAside] at h
  simpa using (List.mem_filter.mp h).2

/-- Once its long integers have been set aside, every document can be written. -/
theorem dump?_eq (value : Json) : value.dump? =
    some (String.ofList (putBack 0 (setAside value []).2.reverse (setAside value []).1.render)) := by
  have short : (setAside value []).1.integers.all Numeral.isConvertible = true :=
    List.all_eq_true.mpr fun _ hn => Numeral.isConvertible_of_isLong (isLong_setAside hn)
  have hencode : (setAside value []).1.encode? = some (setAside value []).1.render := if_pos short
  simp [dump?, hencode]

/-- The text of a document, with the long integers written last. -/
def dump (value : Json) : String :=
  value.dump?.get (by rw [dump?_eq]; rfl)

theorem dump?_eq_dump (value : Json) : value.dump? = some value.dump :=
  (Option.some_get _).symm

end Reckoner.Json
