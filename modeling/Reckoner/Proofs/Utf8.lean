import Reckoner.Text.Utf8

/-!
# Decoding undoes encoding

The decoder goes through the bytes one at a time. A first byte says what its character still lacks
(`lead?_eq_some`), and the bytes that supply it make the character complete (`Completes`). A first
byte together with such bytes is the encoding of one character, and every encoding is of this form.
So decoding succeeds on the encodings of texts and on nothing else (`decode_eq_ok_iff`).
-/
namespace Reckoner.Utf8

/-- The bytes of a text. -/
def encode (cs : List Char) : List UInt8 :=
  cs.flatMap String.utf8EncodeChar

theorem encode_cons (c : Char) (cs : List Char) :
    encode (c :: cs) = String.utf8EncodeChar c ++ encode cs :=
  List.flatMap_cons

/-- What a character lacks behind one more of its bytes. -/
def Lead.after (owed : Lead) (b : UInt8) : Lead :=
  ⟨owed.tails - 1, 0x80, 0xBF, owed.bits * 0x40 + b.toNat % 0x40⟩

/-- The bytes are all that a character lacks, and make it the one with the code point `n`. -/
inductive Completes : Lead → List UInt8 → Nat → Prop
  | nothing {owed : Lead} {n : Nat} (h : owed.tails = 0) (bits : owed.bits = n) :
      Completes owed [] n
  | tail {owed : Lead} {b : UInt8} {bytes : List UInt8} {n : Nat} (h : owed.tails ≠ 0)
      (range : owed.low ≤ b.toNat ∧ b.toNat ≤ owed.high) (others : Completes (owed.after b) bytes n) :
      Completes owed (b :: bytes) n

namespace Completes

variable {owed : Lead} {bytes : List UInt8} {n k : Nat}

theorem of_zero (h : Completes owed bytes n) (done : owed.tails = 0) :
    bytes = [] ∧ owed.bits = n := by
  cases h with
  | nothing _ bits => exact ⟨rfl, bits⟩
  | tail more => exact absurd done more

theorem of_succ (h : Completes owed bytes n) (more : owed.tails = k + 1) :
    ∃ b others, bytes = b :: others ∧ (owed.low ≤ b.toNat ∧ b.toNat ≤ owed.high) ∧
      Completes (owed.after b) others n := by
  cases h with
  | nothing done => omega
  | tail _ range others => exact ⟨_, _, rfl, range, others⟩

end Completes

/-! ## One character -/

/-- What a first byte says, by the number of bytes that follow it. -/
theorem lead?_eq_some {b : Nat} {lead : Lead} : lead? b = some lead ↔
    b < 0x80 ∧ lead = ⟨0, 0x80, 0xBF, b⟩ ∨
    (0xC2 ≤ b ∧ b < 0xE0) ∧ lead = ⟨1, 0x80, 0xBF, b % 0x20⟩ ∨
    (0xE0 ≤ b ∧ b < 0xF0) ∧ lead =
      ⟨2, if b = 0xE0 then 0xA0 else 0x80, if b = 0xED then 0x9F else 0xBF, b % 0x10⟩ ∨
    (0xF0 ≤ b ∧ b < 0xF5) ∧ lead =
      ⟨3, if b = 0xF0 then 0x90 else 0x80, if b = 0xF4 then 0x8F else 0xBF, b % 0x08⟩ := by
  unfold lead?
  grind

theorem eq_ofNat {b : UInt8} {n : Nat} (h : b.toNat = n) : b = UInt8.ofNat n := by
  rw [← h, UInt8.ofNat_toNat]

/-- A code point is that of a character, unless it is a surrogate or too large. -/
theorem toNat_val_ofNat {n : Nat} (valid : n < 0xD800 ∨ 0xDFFF < n ∧ n < 0x110000) :
    (Char.ofNat n).val.toNat = n := by
  have hvalid : n.isValidChar := valid
  rw [Char.ofNat, dif_pos hvalid]
  rfl

/-- The first byte of an encoding is a first byte, and the others complete its character. -/
theorem completes_encode (c : Char) : ∃ b bytes lead, String.utf8EncodeChar c = b :: bytes ∧
    lead? b.toNat = some lead ∧ Completes lead bytes c.toNat := by
  have valid : c.val.toNat < 0xD800 ∨ 0xDFFF < c.val.toNat ∧ c.val.toNat < 0x110000 := c.valid
  have hn : c.toNat = c.val.toNat := rfl
  rw [String.utf8EncodeChar, hn]
  generalize c.val.toNat = n at valid
  have hbyte : ∀ m < 256, (UInt8.ofNat m).toNat = m := fun _ => UInt8.toNat_ofNat_of_lt'
  -- every byte but the first holds six bits of the code point
  have htail : ∀ m, (UInt8.ofNat (m % 64 + 128)).toNat = m % 64 + 128 :=
    fun m => hbyte _ (by omega)
  split
  · have hfirst : (UInt8.ofNat n).toNat = n := hbyte _ (by omega)
    refine ⟨_, _, _, rfl, lead?_eq_some.mpr (.inl ⟨?_, rfl⟩), .nothing rfl hfirst⟩
    omega
  split
  · have hfirst : (UInt8.ofNat (n / 64 % 32 + 192)).toNat = n / 64 % 32 + 192 :=
      hbyte _ (by omega)
    refine ⟨_, _, _, rfl, lead?_eq_some.mpr (.inr (.inl ⟨?_, rfl⟩)),
      .tail Nat.one_ne_zero ?_ (.nothing rfl ?_)⟩
    · omega
    · simp only [htail]
      omega
    · simp only [Lead.after, hfirst, htail]
      omega
  split
  · have hfirst : (UInt8.ofNat (n / 4096 % 16 + 224)).toNat = n / 4096 % 16 + 224 :=
      hbyte _ (by omega)
    refine ⟨_, _, _, rfl, lead?_eq_some.mpr (.inr (.inr (.inl ⟨?_, rfl⟩))),
      .tail (Nat.succ_ne_zero 1) ?_ (.tail Nat.one_ne_zero ?_ (.nothing rfl ?_))⟩
    · omega
    · simp only [hfirst, htail]
      split <;> split <;> omega
    · simp only [Lead.after, htail]
      omega
    · simp only [Lead.after, hfirst, htail]
      omega
  · have hfirst : (UInt8.ofNat (n / 262144 % 8 + 240)).toNat = n / 262144 % 8 + 240 :=
      hbyte _ (by omega)
    refine ⟨_, _, _, rfl, lead?_eq_some.mpr (.inr (.inr (.inr ⟨?_, rfl⟩))),
      .tail (Nat.succ_ne_zero 2) ?_ (.tail (Nat.succ_ne_zero 1) ?_ (.tail Nat.one_ne_zero ?_
        (.nothing rfl ?_)))⟩
    · omega
    · simp only [hfirst, htail]
      split <;> split <;> omega
    · simp only [Lead.after, htail]
      omega
    · simp only [Lead.after, htail]
      omega
    · simp only [Lead.after, hfirst, htail]
      omega

/-- A first byte and the bytes that complete its character are the encoding of the character. -/
theorem eq_encode {b : UInt8} {bytes : List UInt8} {lead : Lead} {n : Nat}
    (hlead : lead? b.toNat = some lead) (h : Completes lead bytes n) :
    b :: bytes = String.utf8EncodeChar (Char.ofNat n) := by
  obtain ⟨one, rfl⟩ | ⟨two, rfl⟩ | ⟨three, rfl⟩ | ⟨four, rfl⟩ := lead?_eq_some.mp hlead
  · obtain ⟨rfl, rfl⟩ := h.of_zero rfl
    have hn := toNat_val_ofNat (n := b.toNat) (by omega)
    rw [String.utf8EncodeChar, hn, if_pos (by omega), UInt8.ofNat_toNat]
  · obtain ⟨d, bytes, rfl, hd, h⟩ := h.of_succ rfl
    obtain ⟨rfl, bits⟩ := h.of_zero rfl
    simp only [Lead.after] at hd bits
    have hn := toNat_val_ofNat (n := n) (by omega)
    rw [String.utf8EncodeChar, hn, if_neg (by omega), if_pos (by omega)]
    have hfirst : b = UInt8.ofNat (n / 64 % 32 + 192) := eq_ofNat (by omega)
    have hlast : d = UInt8.ofNat (n % 64 + 128) := eq_ofNat (by omega)
    rw [← hfirst, ← hlast]
  · obtain ⟨d, bytes, rfl, hd, h⟩ := h.of_succ rfl
    obtain ⟨e, bytes, rfl, he, h⟩ := h.of_succ rfl
    obtain ⟨rfl, bits⟩ := h.of_zero rfl
    simp only [Lead.after] at hd he bits
    -- the second byte keeps out what has a shorter encoding, and the surrogates
    have hlow : b.toNat = 0xE0 → 0xA0 ≤ d.toNat := fun first => by simpa [first] using hd.1
    have hhigh : b.toNat = 0xED → d.toNat ≤ 0x9F := fun first => by simpa [first] using hd.2
    have htail : 0x80 ≤ d.toNat ∧ d.toNat ≤ 0xBF := by split at hd <;> split at hd <;> omega
    have hn := toNat_val_ofNat (n := n) (by omega)
    rw [String.utf8EncodeChar, hn, if_neg (by omega), if_neg (by omega), if_pos (by omega)]
    have hfirst : b = UInt8.ofNat (n / 4096 % 16 + 224) := eq_ofNat (by omega)
    have hsecond : d = UInt8.ofNat (n / 64 % 64 + 128) := eq_ofNat (by omega)
    have hlast : e = UInt8.ofNat (n % 64 + 128) := eq_ofNat (by omega)
    rw [← hfirst, ← hsecond, ← hlast]
  · obtain ⟨d, bytes, rfl, hd, h⟩ := h.of_succ rfl
    obtain ⟨e, bytes, rfl, he, h⟩ := h.of_succ rfl
    obtain ⟨f, bytes, rfl, hf, h⟩ := h.of_succ rfl
    obtain ⟨rfl, bits⟩ := h.of_zero rfl
    simp only [Lead.after] at hd he hf bits
    -- the second byte keeps out what has a shorter encoding, and what is too large
    have hlow : b.toNat = 0xF0 → 0x90 ≤ d.toNat := fun first => by simpa [first] using hd.1
    have hhigh : b.toNat = 0xF4 → d.toNat ≤ 0x8F := fun first => by simpa [first] using hd.2
    have htail : 0x80 ≤ d.toNat ∧ d.toNat ≤ 0xBF := by split at hd <;> split at hd <;> omega
    have hn := toNat_val_ofNat (n := n) (by omega)
    rw [String.utf8EncodeChar, hn, if_neg (by omega), if_neg (by omega), if_neg (by omega)]
    have hfirst : b = UInt8.ofNat (n / 262144 % 8 + 240) := eq_ofNat (by omega)
    have hsecond : d = UInt8.ofNat (n / 4096 % 64 + 128) := eq_ofNat (by omega)
    have hthird : e = UInt8.ofNat (n / 64 % 64 + 128) := eq_ofNat (by omega)
    have hlast : f = UInt8.ofNat (n % 64 + 128) := eq_ofNat (by omega)
    rw [← hfirst, ← hsecond, ← hthird, ← hlast]

/-! ## All characters -/

section Decode

variable {position : Nat} {owed : Lead} {seen : UInt8 × Nat} {found cs : List Char}
  {bytes : List UInt8}

/-- The characters so far, with the one at hand if it lacks nothing. -/
def Lead.push (owed : Lead) (found : List Char) : List Char :=
  if owed.tails = 0 then Char.ofNat owed.bits :: found else found

theorem decodeFrom_first {b : UInt8} {lead : Lead} (h : owed.tails = 0)
    (hlead : lead? b.toNat = some lead) :
    decodeFrom position owed seen found (b :: bytes) =
      decodeFrom (position + 1) lead (b, 1) (lead.push found) bytes := by
  rw [decodeFrom, if_pos h, hlead]
  rfl

theorem decodeFrom_tail {b : UInt8} (more : owed.tails ≠ 0)
    (range : owed.low ≤ b.toNat ∧ b.toNat ≤ owed.high) :
    decodeFrom position owed seen found (b :: bytes) =
      decodeFrom (position + 1) (owed.after b) (seen.1, seen.2 + 1) ((owed.after b).push found)
        bytes := by
  have hlast : owed.tails = 1 ↔ (owed.after b).tails = 0 := by
    simp only [Lead.after]
    omega
  rw [decodeFrom, if_neg more, if_pos range]
  simp only [hlast]
  rfl

/-- Bytes that complete a character take the decoder behind it. -/
theorem decodeFrom_completes {n : Nat} (h : Completes owed bytes n) (position : Nat)
    (seen : UInt8 × Nat) (found : List Char) (rest : List UInt8) :
    ∃ position' owed' seen', owed'.tails = 0 ∧
      decodeFrom position owed seen (owed.push found) (bytes ++ rest) =
        decodeFrom position' owed' seen' (Char.ofNat n :: found) rest := by
  induction h generalizing position seen with
  | @nothing owed n h bits =>
    refine ⟨position, owed, seen, h, ?_⟩
    rw [Lead.push, if_pos h, bits, List.nil_append]
  | @tail owed b bytes n more range _ ih =>
    rw [Lead.push, if_neg more, List.cons_append, decodeFrom_tail more range]
    exact ih _ _

/-- Where decoding within a character succeeds, the next bytes complete it. -/
theorem completes_of_decodeFrom
    (h : decodeFrom position owed seen (owed.push found) bytes = .ok cs) :
    ∃ front rest n, bytes = front ++ rest ∧ Completes owed front n ∧
      ∃ position' owed' seen', owed'.tails = 0 ∧
        decodeFrom position' owed' seen' (Char.ofNat n :: found) rest = .ok cs := by
  induction bytes generalizing position owed seen with
  | nil =>
    by_cases last : owed.tails = 0
    · rw [Lead.push, if_pos last] at h
      exact ⟨[], [], owed.bits, rfl, .nothing last rfl, position, owed, seen, last, h⟩
    · simp [decodeFrom, last] at h
  | cons b bytes ih =>
    by_cases last : owed.tails = 0
    · rw [Lead.push, if_pos last] at h
      exact ⟨[], b :: bytes, owed.bits, rfl, .nothing last rfl, position, owed, seen, last, h⟩
    · by_cases range : owed.low ≤ b.toNat ∧ b.toNat ≤ owed.high
      · rw [Lead.push, if_neg last, decodeFrom_tail last range] at h
        obtain ⟨front, rest, n, rfl, hfront, hrest⟩ := ih h
        exact ⟨b :: front, rest, n, rfl, .tail last range hfront, hrest⟩
      · rw [decodeFrom, if_neg last, if_neg range] at h
        cases h

/-- Between two characters, decoding succeeds exactly if the encoding of a text follows. -/
theorem decodeFrom_eq_ok (h : owed.tails = 0) : decodeFrom position owed seen found bytes = .ok cs ↔
    ∃ ds, bytes = encode ds ∧ cs = found.reverse ++ ds := by
  constructor
  · intro hok
    induction hlength : bytes.length using Nat.strongRecOn
      generalizing bytes position owed seen found with
    | ind k ih =>
      cases bytes with
      | nil =>
        rw [decodeFrom, if_pos h] at hok
        cases hok
        exact ⟨[], rfl, (List.append_nil _).symm⟩
      | cons b bytes =>
        cases hlead : lead? b.toNat with
        | none =>
          rw [decodeFrom, if_pos h, hlead] at hok
          cases hok
        | some lead =>
          rw [decodeFrom_first h hlead] at hok
          obtain ⟨front, rest, n, rfl, hfront, _, _, _, hborder, hrest⟩ :=
            completes_of_decodeFrom hok
          -- the first byte and those that complete it are gone, so the rest is shorter
          have hshorter : rest.length < k := by
            rw [← hlength, List.length_cons, List.length_append]
            omega
          obtain ⟨ds, rfl, rfl⟩ := ih _ hshorter hborder hrest rfl
          refine ⟨Char.ofNat n :: ds, ?_, by simp⟩
          rw [encode_cons, ← eq_encode hlead hfront, List.cons_append]
  · rintro ⟨ds, rfl, rfl⟩
    induction ds generalizing position owed seen found with
    | nil => simp [encode, decodeFrom, h]
    | cons c ds ih =>
      obtain ⟨b, bytes, lead, hc, hlead, hbytes⟩ := completes_encode c
      obtain ⟨_, _, _, hborder, hstep⟩ :=
        decodeFrom_completes hbytes (position + 1) (b, 1) found (encode ds)
      rw [encode_cons, hc, List.cons_append, decodeFrom_first h hlead, hstep, Char.ofNat_toNat,
        ih hborder]
      simp

end Decode

/-- **Bytes are decoded to a text if and only if they are its encoding.** -/
theorem decode_eq_ok_iff {bytes : List UInt8} {cs : List Char} :
    decode bytes = .ok cs ↔ bytes = encode cs := by
  rw [decode, decodeFrom_eq_ok rfl]
  simp

end Reckoner.Utf8
