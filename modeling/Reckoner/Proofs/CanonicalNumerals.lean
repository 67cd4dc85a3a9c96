import Mathlib
import Reckoner.Proofs.Numerals

/-!
# Canonical numerals

A numeral is canonical if it starts with zero only where it is the numeral of zero. Each number has
exactly one canonical numeral (`IsNumeral.unique`), and it is the one that is written. Reading digits
and writing the number again takes the leading zeros away and changes nothing else
(`digits_value`), however the chunks of the reader and those of the writer lie. For digits count by
their places, and a run of them may be cut and read in parts (`read_flatten`).
-/
namespace Reckoner.Numeral

/-- The number that digits denote: each of them counts a power of ten that is given by its place. -/
def placeValue (ds : List Char) : ℕ :=
  Nat.ofDigits 10 (ds.reverse.map fun d => d.toNat - '0'.toNat)

/-- A canonical numeral of a number. -/
structure IsNumeral (ds : List Char) (n : ℕ) : Prop where
  /-- There is at least one digit. -/
  nonempty : ds ≠ []
  /-- There are only digits. -/
  digits : ∀ d ∈ ds, d.isDigit = true
  /-- A leading zero stands alone. -/
  lead : ds.head? = some '0' → ds = ['0']
  /-- The digits denote the number. -/
  denotes : placeValue ds = n

/-- Digits without their leading zeros; a zero is left where there is nothing else. -/
def stripped (ds : List Char) : List Char :=
  match ds.dropWhile (· == '0') with
  | [] => ['0']
  | d :: ds => d :: ds

variable {ds zeros : List Char} {d : Char} {n : ℕ}

/-! ## Values -/

theorem value_concat (ds : List Char) (d : Char) :
    value (ds ++ [d]) = 10 * value ds + (d.toNat - '0'.toNat) := by
  rw [value, Nat.ofDigitChars_append, Nat.ofDigitChars_cons, Nat.ofDigitChars_nil]
  rfl

theorem value_eq_placeValue (ds : List Char) : value ds = placeValue ds := by
  induction ds using List.reverseRecOn with
  | nil => rfl
  | append_singleton ds d ih =>
    rw [value_concat, ih, placeValue, placeValue, List.reverse_concat, List.map_cons,
      Nat.ofDigits_cons, Nat.add_comm]

/-- Leading zeros count nothing. -/
theorem value_zeros (h : ∀ d ∈ zeros, d = '0') (ds : List Char) :
    value (zeros ++ ds) = value ds := by
  induction zeros with
  | nil => rfl
  | cons z zeros ih =>
    obtain ⟨rfl, others⟩ := List.forall_mem_cons.mp h
    exact ih others

/-- A digit is the numeral of its value. -/
theorem digits_digit (h : d.isDigit = true) :
    d.toNat - '0'.toNat < 10 ∧ digits (d.toNat - '0'.toNat) = [d] := by
  have hd : 48 ≤ d.toNat ∧ d.toNat ≤ 57 := by
    simpa [Char.isDigit, UInt32.le_iff_toNat_le] using h
  have hall : ∀ k < 10, digits k = [Char.ofNat (48 + k)] := by decide
  have hzero : '0'.toNat = 48 := rfl
  have hlt : d.toNat - '0'.toNat < 10 := by omega
  refine ⟨hlt, ?_⟩
  rw [hall _ hlt, hzero, Nat.add_sub_cancel' hd.1, Char.ofNat_toNat]

/-! ## Leading zeros -/

/-- Digits without a leading zero are the numeral of their value. -/
theorem digits_value_of_lead (nonempty : ds ≠ []) (all : ∀ d ∈ ds, d.isDigit = true)
    (lead : ds.head? ≠ some '0') : digits (value ds) = ds := by
  -- on the last digit, which does not change what the digits start with
  induction ds using List.reverseRecOn with
  | nil => exact absurd rfl nonempty
  | append_singleton ds d ih =>
    obtain ⟨hds, hd⟩ := List.forall_mem_append.mp all
    obtain ⟨hlt, hdigit⟩ := digits_digit (hd d List.mem_cons_self)
    rw [value_concat]
    by_cases first : ds = []
    · have hnil : value [] = 0 := rfl
      rw [first, hnil, Nat.mul_zero, Nat.zero_add, List.nil_append]
      exact hdigit
    · have lead' : ds.head? ≠ some '0' := by
        rwa [List.head?_append_of_ne_nil _ first] at lead
      have hfront := ih first hds lead'
      have hpos : 0 < value ds := by
        refine Nat.pos_of_ne_zero fun hzero => lead' ?_
        rw [← hfront, hzero]
        rfl
      rw [← digits_append_digit hpos hlt, hfront, hdigit]

theorem head?_dropWhile_zeros (ds : List Char) :
    (ds.dropWhile (· == '0')).head? ≠ some '0' := by
  have hhead := List.head?_dropWhile_not (· == '0') ds
  intro hzero
  rw [hzero] at hhead
  cases hhead

/-- **Writing what has been read** takes the leading zeros away. -/
theorem digits_value (all : ∀ d ∈ ds, d.isDigit = true) : digits (value ds) = stripped ds := by
  have hzeros : ∀ d ∈ ds.takeWhile (· == '0'), d = '0' := by
    intro d hd
    simpa using List.all_eq_true.mp List.all_takeWhile d hd
  have hvalue : value ds = value (ds.dropWhile (· == '0')) := by
    conv_lhs => rw [← List.takeWhile_append_dropWhile (p := (· == '0')) (l := ds)]
    exact value_zeros hzeros _
  rw [hvalue, stripped]
  cases hrest : ds.dropWhile (· == '0') with
  | nil => rfl
  | cons d rest =>
    have hall : ∀ x ∈ d :: rest, x.isDigit = true := by
      rw [← hrest]
      exact fun x hx => all x ((List.dropWhile_suffix _).subset hx)
    have hlead := head?_dropWhile_zeros ds
    rw [hrest] at hlead
    exact digits_value_of_lead (List.cons_ne_nil _ _) hall hlead

theorem stripped_lead (h : (stripped ds).head? = some '0') : stripped ds = ['0'] := by
  have hlead := head?_dropWhile_zeros ds
  unfold stripped at h ⊢
  cases hrest : ds.dropWhile (· == '0') with
  | nil => rfl
  | cons d rest =>
    rw [hrest] at h hlead
    exact absurd h hlead

/-! ## The canonical numeral -/

theorem isNumeral_digits (n : ℕ) : IsNumeral (digits n) n where
  nonempty := digits_ne_nil n
  digits _ := isDigit_of_mem_digits
  lead h := by
    have hstripped := digits_value fun _ => isDigit_of_mem_digits (n := n)
    rw [value_digits] at hstripped
    rw [hstripped] at h ⊢
    exact stripped_lead h
  denotes := by rw [← value_eq_placeValue, value_digits]

theorem IsNumeral.eq_digits (h : IsNumeral ds n) : ds = Numeral.digits n := by
  obtain ⟨nonempty, all, lead, rfl⟩ := h
  rw [← value_eq_placeValue]
  by_cases hzero : ds.head? = some '0'
  · rw [lead hzero]
    rfl
  · rw [digits_value_of_lead nonempty all hzero]

/-- A number has one canonical numeral. -/
theorem IsNumeral.unique {ds ds' : List Char} (h : IsNumeral ds n) (h' : IsNumeral ds' n) :
    ds = ds' := by
  rw [h.eq_digits, h'.eq_digits]

/-- The text of an integer determines the integer. -/
theorem writeInt_injective : Function.Injective writeInt := by
  intro m n h
  have hchars := congrArg String.toList h
  rw [toList_writeInt, toList_writeInt] at hchars
  -- a minus sign is no digit
  have hminus : ∀ k, '-' ∉ digits k := fun k hmem => by
    have hdigit := isDigit_of_mem_digits hmem
    cases hdigit
  have hvalue : digits m.natAbs = digits n.natAbs → m.natAbs = n.natAbs := fun hdigits => by
    rw [← value_digits m.natAbs, hdigits, value_digits]
  by_cases hm : m < 0 <;> by_cases hn : n < 0
  · rw [if_pos hm, if_pos hn] at hchars
    have habs := hvalue (List.cons.inj hchars).2
    omega
  · rw [if_pos hm, if_neg hn] at hchars
    exact absurd (hchars ▸ List.mem_cons_self) (hminus n.natAbs)
  · rw [if_neg hm, if_pos hn] at hchars
    exact absurd (hchars ▸ List.mem_cons_self) (hminus m.natAbs)
  · rw [if_neg hm, if_neg hn] at hchars
    have habs := hvalue hchars
    omega

/-- **Numerals are exact in both directions**, whatever their length. An integer is written as its one
canonical numeral, behind a minus sign exactly if it is negative, and these digits are read as its
absolute value. What has been read from digits is written as those digits without their leading
zeros. So no two integers have the same text, and every natural number is read from some digits. -/
theorem writeInt_read_exact :
    (∀ n : ℤ, ∃ ds, (writeInt n).toList = (if n < 0 then '-' :: ds else ds) ∧
      IsNumeral ds n.natAbs ∧ (∀ ds', IsNumeral ds' n.natAbs → ds' = ds) ∧
      read ds = n.natAbs) ∧
    (∀ ds : List Char, ds ≠ [] → (∀ d ∈ ds, d.isDigit = true) →
      (writeInt (read ds)).toList = stripped ds) ∧
    Function.Injective writeInt ∧
    ∀ n : ℕ, ∃ ds : List Char, ds ≠ [] ∧ (∀ d ∈ ds, d.isDigit = true) ∧ read ds = n := by
  refine ⟨fun n => ?_, fun ds _ all => ?_, writeInt_injective, fun n => ?_⟩
  · exact ⟨digits n.natAbs, toList_writeInt n, isNumeral_digits _,
      fun ds' h => h.unique (isNumeral_digits _), read_digits _⟩
  · rw [toList_writeInt_natCast, read_eq_value, digits_value all]
  · exact ⟨digits n, digits_ne_nil n, fun _ => isDigit_of_mem_digits, read_digits n⟩

/-- The least number that takes two chunks, with a leading zero by which the chunks of the reader and
those of the writer come to lie differently. -/
theorem writeInt_read_exact_padded :
    let ds := '0' :: '1' :: List.replicate 500 '0'
    ds ≠ [] ∧ (∀ d ∈ ds, d.isDigit = true) ∧
      (writeInt (read ds)).toList = '1' :: List.replicate 500 '0' := by
  intro ds
  have all : ∀ d ∈ ds, d.isDigit = true := by
    refine List.forall_mem_cons.mpr ⟨rfl, List.forall_mem_cons.mpr ⟨rfl, fun d hd => ?_⟩⟩
    rw [List.eq_of_mem_replicate hd]
    rfl
  exact ⟨nofun, all, writeInt_read_exact.2.1 ds nofun all⟩

/-! ## Chunks -/

/-- Whatever has been read before, and however many digits are read at a time, the digits that are
left count by their places. -/
theorem readChunks_eq_read (size : ℕ) (pos : 0 < size) (n : ℕ) (ds : List Char) :
    readChunks size pos n ds = n * 10 ^ ds.length + read ds := by
  rw [readChunks_eq, read_eq_value, Nat.pow_eq]

theorem read_append (s u : List Char) : read (s ++ u) = read s * 10 ^ u.length + read u := by
  rw [read_eq_value, read_eq_value, read_eq_value, value_append, Nat.pow_eq]

theorem read_digitChar (k : Fin 10) : read [Nat.digitChar k] = k := by
  rw [← digits_of_lt k.isLt, read_digits]

/-- Digits may be cut anywhere, and as often as one likes. -/
theorem read_flatten (chunks : List (List Char)) :
    read chunks.flatten =
      chunks.foldl (fun n chunk => n * 10 ^ chunk.length + read chunk) 0 := by
  -- on the last chunk, which is the last one to be added
  induction chunks using List.reverseRecOn with
  | nil => rw [List.flatten_nil, read_eq_value]; rfl
  | append_singleton chunks chunk ih =>
    rw [List.flatten_concat, read_append, ih, List.foldl_concat]

/-- **Digits are read by their places.** A run of digits that is cut in two is the first part, moved by
the length of the second one, and the second one; a single digit is its own value, and no digits are
zero. So chunks may be of any sizes and lie in any way: what is read is the value of the digits by
their places, and a loop that takes any positive number of digits at a time reads the same. -/
theorem read_by_places :
    (∀ s u : List Char, read (s ++ u) = read s * 10 ^ u.length + read u) ∧
    (∀ k : Fin 10, read [Nat.digitChar k] = k) ∧ read [] = 0 ∧
    (∀ chunks : List (List Char), read chunks.flatten =
      chunks.foldl (fun n chunk => n * 10 ^ chunk.length + read chunk) 0) ∧
    (∀ ds, read ds = placeValue ds) ∧
    ∀ (size : ℕ) (pos : 0 < size) (n : ℕ) (ds : List Char),
      readChunks size pos n ds = n * 10 ^ ds.length + read ds := by
  refine ⟨read_append, read_digitChar, ?_, read_flatten, fun ds => ?_, readChunks_eq_read⟩
  · rw [read_eq_value]
    rfl
  · rw [read_eq_value, value_eq_placeValue]

/-- Three digits at a time, with a shorter chunk at the end. -/
theorem read_by_places_shorter :
    0 < 3 ∧ readChunks 3 (by decide) 12 ['3', '4', '5', '6', '7'] = 1234567 := by
  obtain ⟨-, -, -, -, places, chunks⟩ := read_by_places
  refine ⟨by decide, ?_⟩
  rw [chunks, places]
  decide

end Reckoner.Numeral
