import Mathlib
import Reckoner.Config
import Reckoner.Proofs.Documents.Limit
import Reckoner.Proofs.Utf8

/-!
# How loading a configuration can fail

A configuration that cannot be used is malformed, with three exceptions: its path holds the NUL
character, its bytes are no UTF-8, or one of its integers has too many digits. `Escapes` lists them.
Everything else that a file may be or hold, a directory as well as an unknown option, gives a
configuration or is malformed.
-/
namespace Reckoner

/-! ## Paths -/

/-- What is not in the separator is in joined lists if and only if it is in one of them. -/
theorem mem_intercalate {α : Type} {a : α} {separator : List α} (h : a ∉ separator)
    (parts : List (List α)) : a ∈ separator.intercalate parts ↔ ∃ part ∈ parts, a ∈ part := by
  induction parts with
  | nil => simp
  | cons part parts ih =>
    cases parts with
    | nil => simp
    | cons next parts =>
      rw [List.intercalate_cons_cons, List.mem_append, List.mem_append, ih]
      simp [h]

namespace Path

/-- Only slashes and dots are lost when a path is simplified. -/
theorem mem_normalize {c : Char} (slash : c ≠ '/') (dot : c ≠ '.') (path : String) :
    c ∈ (normalize path).toList ↔ c ∈ path.toList := by
  have hkept : ∀ parts : List String, c ∈ ("/".intercalate parts).toList ↔
      ∃ part ∈ parts, c ∈ part.toList := by
    intro parts
    rw [String.toList_intercalate, mem_intercalate (by simpa using slash)]
    simp
  have hparts : c ∈ path.toList ↔ ∃ part ∈ parts path, c ∈ part.toList := by
    have hsplit : ['/'].intercalate (path.toList.splitOn '/') = path.toList :=
      List.intercalate_splitOn '/'
    conv => lhs; rw [← hsplit]
    rw [mem_intercalate (by simpa using slash)]
    simp [parts]
  -- the parts that are left out are empty or a dot, and so hold no other character
  have hfilter :
      (∃ part ∈ (parts path).filter fun part => part ≠ "" ∧ part ≠ ".", c ∈ part.toList) ↔
        ∃ part ∈ parts path, c ∈ part.toList := by
    constructor
    · rintro ⟨part, hpart, hc⟩
      exact ⟨part, (List.mem_filter.mp hpart).1, hc⟩
    · rintro ⟨part, hpart, hc⟩
      refine ⟨part, List.mem_filter.mpr ⟨hpart, ?_⟩, hc⟩
      have nonempty : part ≠ "" := by
        rintro rfl
        simp at hc
      have nodot : part ≠ "." := by
        rintro rfl
        simp [dot] at hc
      simp [nonempty, nodot]
  have h : c ∈ path.toList ↔
      c ∈ ("/".intercalate ((parts path).filter fun part => part ≠ "" ∧ part ≠ ".")).toList := by
    rw [hparts, hkept, hfilter]
  rw [h, normalize]
  generalize "/".intercalate ((parts path).filter fun part => part ≠ "" ∧ part ≠ ".") = kept
  by_cases absolute : isAbsolute path = true
  · simp [absolute, slash]
  · by_cases none : kept = ""
    · simp [absolute, none, dot]
    · simp [absolute, none]

end Path

/-- A path cannot be opened exactly if it holds the NUL character. -/
theorem FileTree.open?_impossible {t : FileTree} {path : String} :
    t.open? path = .impossible ↔ '\x00' ∈ path.toList := by
  by_cases nul : '\x00' ∈ path.toList
  · simp [open?, nul]
  · have hopen : t.open? path ≠ .impossible := by
      simp only [open?, List.contains_iff_mem, nul, if_false]
      split
      · nofun
      · split
        · nofun
        · split <;> nofun
    exact iff_of_false hopen nul

namespace Config

/-! ## The faults of a file -/

/-- The faults of files that count as something else than malformed. -/
inductive Escapes : Opened → Fault → Prop
  | impossible : Escapes .impossible .impossiblePath
  | undecodable {content : List UInt8} {fault : Utf8.Fault}
      (found : Utf8.decode content = .error fault) (garbage : ∀ text, content ≠ Utf8.encode text) :
      Escapes (.bytes content) (.undecodable fault)
  | oversized {text : List Char} {digits : Nat}
      (long : Json.Overlong Numeral.digitLimit digits ⟨[], .value⟩ text) :
      Escapes (.bytes (Utf8.encode text)) (.oversized Numeral.digitLimit digits)

/-- Where there is an object, only what it says can be wrong. -/
theorem load_of_fields {file : Opened} {config : Fields} (h : fields file = .ok config) :
    (∃ c, load file = .ok c) ∨ load file = .error .malformed := by
  simp only [load, h]
  cases ofFields? config with
  | some c => exact .inl ⟨c, rfl⟩
  | none => exact .inr rfl

/-- The faults of a file that is no object are those of reading it. -/
theorem load_of_fault {file : Opened} {fault : Fault} (h : fields file = .error fault) :
    load file = .error fault := by
  rw [load, h]

/-- The bytes of a text hold an object, are malformed, or have an integer that is too long. -/
theorem fields_encode (text : List Char) :
    (∃ config, fields (.bytes (Utf8.encode text)) = .ok config) ∨
      fields (.bytes (Utf8.encode text)) = .error .malformed ∨
      ∃ digits, fields (.bytes (Utf8.encode text)) = .error (.oversized Numeral.digitLimit digits) ∧
        Json.Overlong Numeral.digitLimit digits ⟨[], .value⟩ text := by
  have hdecode : Utf8.decode (Utf8.encode text) = .ok text := Utf8.decode_eq_ok_iff.mpr rfl
  simp only [fields, hdecode]
  cases hread : Json.read (some Numeral.digitLimit) text with
  | ok document =>
    cases document with
    | object config => exact .inl ⟨config, rfl⟩
    | _ => exact .inr (.inl rfl)
  | error refusal =>
    cases refusal with
    | malformed => exact .inr (.inl rfl)
    | oversized limit digits =>
      obtain ⟨rfl, long⟩ := Json.read_oversized_iff.mp hread
      exact .inr (.inr ⟨digits, rfl, long⟩)

/-- A file that escapes has that fault, and it is not malformed. -/
theorem Escapes.load_eq {file : Opened} {fault : Fault} (h : Escapes file fault) :
    fault ≠ .malformed ∧ load file = .error fault := by
  cases h with
  | impossible => exact ⟨nofun, rfl⟩
  | undecodable found garbage =>
    refine ⟨nofun, load_of_fault ?_⟩
    simp only [fields, found]
  | @oversized text digits long =>
    refine ⟨nofun, load_of_fault ?_⟩
    have hdecode : Utf8.decode (Utf8.encode text) = .ok text := Utf8.decode_eq_ok_iff.mpr rfl
    have hread := Json.read_oversized_iff.mpr ⟨rfl, long⟩
    simp only [fields, hdecode, hread]

/-- A file gives a configuration, is malformed, or escapes. -/
theorem load_cases (file : Opened) : (∃ config, load file = .ok config) ∨
    load file = .error .malformed ∨ ∃ fault, Escapes file fault := by
  cases file with
  | missing =>
    rcases load_of_fields (show fields .missing = .ok [] from rfl) with hok | hmalformed
    · exact .inl hok
    · exact .inr (.inl hmalformed)
  | unreadable => exact .inr (.inl (load_of_fault rfl))
  | impossible => exact .inr (.inr ⟨_, .impossible⟩)
  | bytes content =>
    cases hdecode : Utf8.decode content with
    | error fault =>
      have garbage : ∀ text, content ≠ Utf8.encode text := by
        intro text encoded
        rw [Utf8.decode_eq_ok_iff.mpr encoded] at hdecode
        cases hdecode
      exact .inr (.inr ⟨_, .undecodable hdecode garbage⟩)
    | ok text =>
      obtain rfl := Utf8.decode_eq_ok_iff.mp hdecode
      rcases fields_encode text with ⟨config, hfields⟩ | hmalformed | ⟨digits, _, long⟩
      · rcases load_of_fields hfields with hok | hmalformed
        · exact .inl hok
        · exact .inr (.inl hmalformed)
      · exact .inr (.inl (load_of_fault hmalformed))
      · exact .inr (.inr ⟨_, .oversized long⟩)

/-- **A file gives a configuration or is malformed, unless it escapes.** It escapes exactly with the
faults that are not malformed, and its path is impossible exactly if the name on the command line
holds the NUL character. -/
theorem load_closed (t : FileTree) (commandLine : List String) :
    (t.open? (Path.normalize (nameOf commandLine)) = .impossible ↔
      '\x00' ∈ (nameOf commandLine).toList) ∧
    ∀ file : Opened,
      ((∃ config, load file = .ok config) ∨ load file = .error .malformed ↔
        ∀ fault, ¬ Escapes file fault) ∧
      ∀ fault, fault ≠ .malformed ∧ load file = .error fault ↔ Escapes file fault := by
  constructor
  · rw [FileTree.open?_impossible, Path.mem_normalize (by decide) (by decide)]
  intro file
  constructor
  · constructor
    · rintro (⟨config, hok⟩ | hmalformed) fault escapes
      · rw [escapes.load_eq.2] at hok
        cases hok
      · rw [escapes.load_eq.2] at hmalformed
        cases hmalformed
        exact escapes.load_eq.1 rfl
    · intro none
      rcases load_cases file with hok | hmalformed | ⟨fault, escapes⟩
      · exact .inl hok
      · exact .inr hmalformed
      · exact absurd escapes (none fault)
  · intro fault
    constructor
    · rintro ⟨other, hfault⟩
      rcases load_cases file with ⟨config, hok⟩ | hmalformed | ⟨fault', escapes⟩
      · rw [hfault] at hok
        cases hok
      · rw [hfault] at hmalformed
        cases hmalformed
        exact absurd rfl other
      · have hsame := escapes.load_eq.2
        rw [hfault] at hsame
        cases hsame
        exact escapes
    · exact Escapes.load_eq

/-- A tree whose default configuration is a byte that starts no character. -/
def strayTree : FileTree :=
  ⟨[], [([defaultName], [0xFF])]⟩

/-- The default configuration of that tree is neither loaded nor malformed. -/
theorem load_closed_stray :
    let file := strayTree.open? (Path.normalize (nameOf ["reckoner"]))
    load file = .error (.undecodable ⟨.start, 0, 0xFF, 1⟩) ∧
      ¬ ((∃ config, load file = .ok config) ∨ load file = .error .malformed) := by
  have hopen : strayTree.open? (Path.normalize (nameOf ["reckoner"])) = .bytes [0xFF] := by
    decide +kernel
  have hload : load (.bytes [0xFF]) = .error (.undecodable ⟨.start, 0, 0xFF, 1⟩) := rfl
  simp [hopen, hload]

end Config
end Reckoner
