/-!
# Decimal numerals of any length

A numeral is read and written a fixed number of digits at a time, so that no single step handles
more than one chunk of digits, and so never more than may be converted at once. The chunk size
changes neither the number that is read (`readChunks_eq`) nor the text that is written; it only
decides which integers count as *long*.
-/
namespace Reckoner.Numeral

/-- The number that a run of decimal digits denotes, most significant digit first. -/
def value (digits : List Char) : Nat :=
  Nat.ofDigitChars 10 digits 0

/-- The digits of a number, without leading zeros. -/
def digits (n : Nat) : List Char :=
  Nat.toDigits 10 n

/-- Reads digits `size` at a time; `n` is the number that the digits so far denote. -/
def readChunks (size : Nat) (pos : 0 < size) (n : Nat) (ds : List Char) : Nat :=
  if ds = [] then
    n
  else
    readChunks size pos (n * Nat.pow 10 (ds.take size).length + value (ds.take size)) (ds.drop size)
termination_by ds.length
decreasing_by
  have : 0 < ds.length := List.length_pos_iff.2 ‹_›
  simp only [List.length_drop]
  omega

/-- A number below `10 ^ size` as exactly `size` digits, padded with zeros in front. -/
def padded (size n : Nat) : List Char :=
  List.replicate (size - (digits n).length) '0' ++ digits n

/-- Writes a number `size` digits at a time, in front of the text `rest`. -/
def writeChunks (size : Nat) (pos : 0 < size) (n : Nat) (rest : List Char) : List Char :=
  if n < Nat.pow 10 size then
    digits n ++ rest
  else
    writeChunks size pos (n / Nat.pow 10 size) (padded size (n % Nat.pow 10 size) ++ rest)
termination_by n
decreasing_by
  have one_lt : 1 < Nat.pow 10 size := Nat.one_lt_pow (by omega) (by omega)
  exact Nat.div_lt_self (by omega) one_lt

/-- How many digits are converted in one step. -/
def chunkSize : Nat := 500

/-- The least number that does not fit into one chunk. -/
def chunkBase : Nat := Nat.pow 10 chunkSize

/-- The number that a run of digits denotes, read chunk by chunk. -/
def read (ds : List Char) : Nat :=
  readChunks chunkSize (by decide) 0 ds

/-- The numeral of a natural number, written chunk by chunk. -/
def write (n : Nat) : List Char :=
  writeChunks chunkSize (by decide) n []

/-- The numeral of an integer: a minus sign exactly before a negative one. -/
def writeInt (n : Int) : String :=
  String.ofList (if n < 0 then '-' :: write n.natAbs else write n.natAbs)

/-- An integer is long if its digits do not fit into one chunk. -/
def isLong (n : Int) : Bool :=
  chunkBase ≤ n.natAbs

/-- How many digits may be converted at once. Only so many may a document or a shown value give to
one integer. -/
def digitLimit : Nat := 4300

/-- Whether an integer has no more digits than may be converted at once. -/
def isConvertible (n : Int) : Bool :=
  n.natAbs < Nat.pow 10 digitLimit

/-- The least integer that has too many digits to be converted at once. -/
def overlong : Int :=
  Int.ofNat (Nat.pow 10 digitLimit)

theorem isConvertible_overlong : isConvertible overlong = false := by
  rw [isConvertible, decide_eq_false_iff_not, Nat.not_lt]
  exact Nat.le_of_eq (Int.natAbs_natCast _).symm

/-- One chunk of digits may be converted at once. -/
theorem chunkSize_le_digitLimit : chunkSize ≤ digitLimit := by decide

/-- Integers that are not long can be converted at once. -/
theorem isConvertible_of_isLong {n : Int} (short : isLong n = false) : isConvertible n = true := by
  have hpow : ∀ k l, k ≤ l → Nat.pow 10 k ≤ Nat.pow 10 l := fun k l =>
    Nat.pow_le_pow_right (by decide)
  have hchunk : n.natAbs < chunkBase := Nat.not_le.mp (of_decide_eq_false short)
  unfold chunkBase at hchunk
  rw [isConvertible, decide_eq_true_eq]
  exact Nat.lt_of_lt_of_le hchunk (hpow _ _ chunkSize_le_digitLimit)

theorem value_append (s t : List Char) :
    value (s ++ t) = value s * Nat.pow 10 t.length + value t := by
  rw [value, Nat.ofDigitChars_append, Nat.ofDigitChars_eq_ofDigitChars_zero, Nat.mul_comm]
  rfl

theorem readChunks_eq (size : Nat) (pos : 0 < size) (n : Nat) (ds : List Char) :
    readChunks size pos n ds = n * Nat.pow 10 ds.length + value ds := by
  fun_induction readChunks size pos n ds with
  | case1 n => simp [value, Nat.ofDigitChars_nil]
  | case2 n ds nonempty ih =>
    rw [ih]
    simp only [Nat.pow_eq]
    conv => rhs; rw [← List.take_append_drop size ds, value_append, List.length_append,
      Nat.pow_eq, Nat.pow_add]
    rw [Nat.add_mul, Nat.mul_assoc, Nat.add_assoc]

end Reckoner.Numeral
