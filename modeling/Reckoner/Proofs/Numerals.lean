import Reckoner.Numeral

/-!
# Numerals do not depend on the chunks

Numbers are written chunk by chunk, and all chunks but the first are padded with zeros. What comes
out is the numeral without leading zeros, whatever the size of the chunks, and reading a numeral
gives the number back. Each step converts a single chunk, which is short enough for that
(`steps_convertible`).
-/
namespace Reckoner.Numeral

theorem digits_ne_nil (n : Nat) : digits n ≠ [] :=
  List.ne_nil_of_length_pos Nat.length_toDigits_pos

theorem isDigit_of_mem_digits {n : Nat} {c : Char} (h : c ∈ digits n) : c.isDigit = true :=
  Nat.isDigit_of_mem_toDigits (by decide) (by decide) h

theorem digits_starts (n : Nat) : ∃ c cs, digits n = c :: cs ∧ c.isDigit = true := by
  obtain ⟨c, cs, hcs⟩ := List.exists_cons_of_ne_nil (digits_ne_nil n)
  exact ⟨c, cs, hcs, isDigit_of_mem_digits (n := n) (by simp [hcs])⟩

theorem digits_of_lt {d : Nat} (h : d < 10) : digits d = [d.digitChar] :=
  Nat.toDigits_of_lt_base h

theorem digits_of_le {n : Nat} (h : 10 ≤ n) : digits n = digits (n / 10) ++ digits (n % 10) := by
  rw [digits_of_lt (Nat.mod_lt n (by decide))]
  exact Nat.toDigits_of_base_le (by decide) h

theorem digits_append_digit {q d : Nat} (hq : 0 < q) (hd : d < 10) :
    digits q ++ digits d = digits (10 * q + d) :=
  Nat.toDigits_append_toDigits (by decide) hq hd

/-- Digits behind others add as many powers of ten as there are digits. -/
theorem digits_append {q : Nat} (hq : 0 < q) (r : Nat) :
    digits q ++ digits r = digits (q * Nat.pow 10 (digits r).length + r) := by
  -- on the last digit of `r`: it goes behind the digits of `q` and the others
  induction r using Nat.strongRecOn with
  | ind r ih =>
    by_cases small : r < 10
    · rw [digits_append_digit hq small, digits_of_lt small]
      simp [Nat.mul_comm]
    · have hr : 10 ≤ r := Nat.not_lt.mp small
      have hfront : 0 < q * Nat.pow 10 (digits (r / 10)).length :=
        Nat.mul_pos hq (Nat.pow_pos (by decide))
      have hlength : (digits r).length = (digits (r / 10)).length + 1 := by
        rw [digits_of_le hr, digits_of_lt (Nat.mod_lt r (by decide)), List.length_append]
        rfl
      have hvalue : 10 * (q * Nat.pow 10 (digits (r / 10)).length + r / 10) + r % 10 =
          q * Nat.pow 10 (digits r).length + r := by
        rw [hlength, Nat.pow_eq, Nat.pow_eq, Nat.pow_succ, ← Nat.mul_assoc]
        omega
      rw [← hvalue, ← digits_append_digit (by omega) (Nat.mod_lt r (by decide)),
        ← ih (r / 10) (by omega), List.append_assoc, ← digits_of_le hr]

theorem digits_append_zeros {q : Nat} (hq : 0 < q) (k : Nat) :
    digits q ++ List.replicate k '0' = digits (q * Nat.pow 10 k) := by
  induction k with
  | zero => simp
  | succ k ih =>
    have hfront : 0 < q * Nat.pow 10 k := Nat.mul_pos hq (Nat.pow_pos (by decide))
    have hvalue : 10 * (q * Nat.pow 10 k) + 0 = q * Nat.pow 10 (k + 1) := by
      simp only [Nat.pow_eq, Nat.pow_succ]
      ac_rfl
    rw [List.replicate_succ', ← List.append_assoc, ih, ← hvalue,
      ← digits_append_digit hfront (by decide)]
    rfl

/-- A padded chunk continues a numeral. -/
theorem digits_append_padded {size q r : Nat} (pos : 0 < size) (hq : 0 < q)
    (hr : r < Nat.pow 10 size) :
    digits q ++ padded size r = digits (q * Nat.pow 10 size + r) := by
  -- the padding multiplies by as many tens as the digits fall short of the chunk
  have hlength : (digits r).length ≤ size := (Nat.length_toDigits_le_iff (by decide) pos).mpr hr
  have hfront : 0 < q * Nat.pow 10 (size - (digits r).length) :=
    Nat.mul_pos hq (Nat.pow_pos (by decide))
  have hsize : Nat.pow 10 (size - (digits r).length) * Nat.pow 10 (digits r).length =
      Nat.pow 10 size := by
    rw [Nat.pow_eq, Nat.pow_eq, ← Nat.pow_add, Nat.sub_add_cancel hlength]
    rfl
  rw [padded, ← List.append_assoc, digits_append_zeros hq, digits_append hfront, Nat.mul_assoc,
    hsize]

/-- The size of the chunks does not show in the numeral. -/
theorem writeChunks_eq (size : Nat) (pos : 0 < size) (n : Nat) (rest : List Char) :
    writeChunks size pos n rest = digits n ++ rest := by
  fun_induction writeChunks size pos n rest with
  | case1 => rfl
  | case2 n rest large ih =>
    have hbase : 0 < Nat.pow 10 size := Nat.pow_pos (by decide)
    have hq : 0 < n / Nat.pow 10 size := Nat.div_pos (Nat.not_lt.mp large) hbase
    rw [ih, ← List.append_assoc, digits_append_padded pos hq (Nat.mod_lt n hbase),
      Nat.div_add_mod']

theorem write_eq (n : Nat) : write n = digits n := by
  rw [write, writeChunks_eq, List.append_nil]

theorem read_eq_value (ds : List Char) : read ds = value ds := by
  rw [read, readChunks_eq, Nat.zero_mul, Nat.zero_add]

theorem value_digits (n : Nat) : value (digits n) = n :=
  Nat.ofDigitChars_ten_toDigits

/-- A numeral denotes the number that it was written for. -/
theorem read_digits (n : Nat) : read (digits n) = n := by
  rw [read_eq_value, value_digits]

theorem toList_writeInt (n : Int) :
    (writeInt n).toList = if n < 0 then '-' :: digits n.natAbs else digits n.natAbs := by
  rw [writeInt, write_eq, String.toList_ofList]

theorem toList_writeInt_natCast (n : Nat) : (writeInt n).toList = digits n := by
  rw [toList_writeInt, if_neg (by omega), Int.natAbs_natCast]

/-- Integers are written in their canonical form. -/
theorem writeInt_eq (n : Int) : writeInt n = toString n := by
  apply String.toList_injective
  rw [toList_writeInt]
  cases n with
  | ofNat n =>
    rw [if_neg (by simp)]
    exact (Nat.toList_repr).symm
  | negSucc n =>
    rw [if_pos (Int.negSucc_lt_zero n)]
    have hrepr : toString (Int.negSucc n) = "-" ++ (n + 1).repr := rfl
    rw [hrepr, String.toList_append, Nat.toList_repr]
    rfl

/-! ## Steps -/

section Steps

variable {size : Nat} {pos : 0 < size}

/-- The chunks in which digits are read, one after the other. -/
def chunks (size : Nat) (pos : 0 < size) (ds : List Char) : List (List Char) :=
  if ds = [] then [] else ds.take size :: chunks size pos (ds.drop size)
termination_by ds.length
decreasing_by
  have : 0 < ds.length := List.length_pos_iff.2 ‹_›
  simp only [List.length_drop]
  omega

/-- The chunks in which a number is written: those that are padded, the last one first, and the one in
front of them. -/
def cut (size : Nat) (pos : 0 < size) (n : Nat) : List Nat × Nat :=
  if n < Nat.pow 10 size then
    ([], n)
  else
    let front := cut size pos (n / Nat.pow 10 size)
    (n % Nat.pow 10 size :: front.1, front.2)
termination_by n
decreasing_by
  have one_lt : 1 < Nat.pow 10 size := Nat.one_lt_pow (by omega) (by omega)
  exact Nat.div_lt_self (by omega) one_lt

/-- Reading converts the chunks, one in each step. -/
theorem readChunks_eq_foldl (size : Nat) (pos : 0 < size) (n : Nat) (ds : List Char) :
    readChunks size pos n ds = (chunks size pos ds).foldl
      (fun n chunk => n * Nat.pow 10 chunk.length + value chunk) n := by
  fun_induction readChunks size pos n ds with
  | case1 n => rw [chunks, if_pos rfl, List.foldl_nil]
  | case2 n ds nonempty ih => rw [chunks, if_neg nonempty, List.foldl_cons, ih]

/-- Writing converts the chunks, one in each step. -/
theorem writeChunks_eq_foldl (size : Nat) (pos : 0 < size) (n : Nat) (rest : List Char) :
    writeChunks size pos n rest = digits (cut size pos n).2 ++
      (cut size pos n).1.foldl (fun rest chunk => padded size chunk ++ rest) rest := by
  fun_induction writeChunks size pos n rest with
  | case1 n rest small => rw [cut, if_pos small, List.foldl_nil]
  | case2 n rest large ih =>
    rw [cut, if_neg large]
    exact ih

/-- A chunk that is read has at most `size` digits. -/
theorem length_of_mem_chunks {ds chunk : List Char} (h : chunk ∈ chunks size pos ds) :
    chunk.length ≤ size := by
  fun_induction chunks size pos ds with
  | case1 => cases h
  | case2 ds nonempty ih =>
    rcases List.mem_cons.mp h with rfl | later
    · exact List.length_take_le size ds
    · exact ih later

/-- A chunk that is written has at most `size` digits. -/
theorem length_of_mem_cut {n chunk : Nat}
    (h : chunk ∈ (cut size pos n).2 :: (cut size pos n).1) : (digits chunk).length ≤ size := by
  suffices hlt : chunk < Nat.pow 10 size from (Nat.length_toDigits_le_iff (by decide) pos).mpr hlt
  fun_induction cut size pos n with
  | case1 n small => rwa [List.mem_singleton.mp h]
  | case2 n large front ih =>
    obtain hlead | hpadded := List.mem_cons.mp h
    · exact ih (List.mem_cons.mpr (.inl hlead))
    · obtain rfl | earlier := List.mem_cons.mp hpadded
      · exact Nat.mod_lt n (Nat.pow_pos (by decide))
      · exact ih (List.mem_cons_of_mem _ earlier)

end Steps

/-- **No step converts too much.** Digits are read, and numbers are written, by converting chunks of no
more digits than may be converted at once. -/
theorem steps_convertible :
    (∀ ds, read ds = (chunks chunkSize (by decide) ds).foldl
        (fun n chunk => n * Nat.pow 10 chunk.length + value chunk) 0 ∧
      ∀ chunk ∈ chunks chunkSize (by decide) ds,
        chunk.length ≤ chunkSize ∧ chunk.length ≤ digitLimit) ∧
    ∀ n, write n = digits (cut chunkSize (by decide) n).2 ++
        (cut chunkSize (by decide) n).1.foldl
          (fun rest chunk => padded chunkSize chunk ++ rest) [] ∧
      ∀ chunk ∈ (cut chunkSize (by decide) n).2 :: (cut chunkSize (by decide) n).1,
        (digits chunk).length ≤ chunkSize ∧ (digits chunk).length ≤ digitLimit := by
  refine ⟨fun ds => ⟨readChunks_eq_foldl _ _ 0 ds, fun chunk hchunk => ?_⟩,
    fun n => ⟨writeChunks_eq_foldl _ _ n [], fun chunk hchunk => ?_⟩⟩
  · have hlength := length_of_mem_chunks hchunk
    exact ⟨hlength, Nat.le_trans hlength chunkSize_le_digitLimit⟩
  · have hlength := length_of_mem_cut hchunk
    exact ⟨hlength, Nat.le_trans hlength chunkSize_le_digitLimit⟩

end Reckoner.Numeral
