import Mathlib.Algebra.BigOperators.Group.List
import Mathlib.Tactic.Ring

/-!
# Little-endian fields and the masks of the codec

Every descriptor field is written with Python's `struct.pack("<…")`: a fixed number of bytes,
least significant first, after the source masks the value to the field's width. This module
models that writer, the reader the diagnoser relies on (a little-endian quadlet at a byte
offset), and the arithmetic meaning of the masks the source applies.

* `leBytes w n` and `ofLE`, with `ofLE_leBytes` (reading back gives `n % 256 ^ w`).
* `quadlets ws`, a run of 32-bit words, and `quadletAt_quadlets_append`: quadlet `k` of the run
  reads back as `ws[k] % 2 ^ 32`, whatever follows it.
* `land_0xFFFF`, `land_0xF`, `land_0xFFFFFFF0`: the masks as `%` and `/`.
-/

namespace ItDmaProgram

/-! ## Writing and reading fields -/

/-- The `w` little-endian bytes of `n`, as `struct.pack` writes a `w`-byte field; bits above
`8 * w` are dropped. -/
def leBytes : Nat → Nat → List UInt8
  | 0, _ => []
  | w + 1, n => UInt8.ofNat n :: leBytes w (n / 256)

/-- The number whose little-endian bytes these are. -/
def ofLE : List UInt8 → Nat
  | [] => 0
  | b :: bs => b.toNat + 256 * ofLE bs

/-- The little-endian quadlet at byte offset `off` of `bs` (`struct.unpack_from("<I", bs, off)`
when four bytes are there). -/
def quadletAt (bs : List UInt8) (off : Nat) : Nat := ofLE ((bs.drop off).take 4)

@[simp] theorem length_leBytes (w n : Nat) : (leBytes w n).length = w := by
  induction w generalizing n with
  | zero => rfl
  | succ w ih => simp [leBytes, ih]

theorem ofLE_leBytes (w n : Nat) : ofLE (leBytes w n) = n % 256 ^ w := by
  induction w generalizing n with
  | zero => simp [leBytes, ofLE, Nat.mod_one]
  | succ w ih =>
    have hb : (UInt8.ofNat n).toNat = n % 256 := rfl
    rw [leBytes, ofLE, ih, hb, pow_succ', Nat.mod_mul]

/-- Bytes of a field depend on the value only modulo the field's range. -/
theorem leBytes_congr {w a b : Nat} (h : a % 256 ^ w = b % 256 ^ w) : leBytes w a = leBytes w b := by
  induction w generalizing a b with
  | zero => rfl
  | succ w ih =>
    have h0 : (UInt8.ofNat a).toNat = (UInt8.ofNat b).toNat := by
      have := congrArg (· % 256) h
      simpa only [pow_succ', Nat.mod_mul_right_mod] using this
    have h1 : a / 256 % 256 ^ w = b / 256 % 256 ^ w := by
      rw [pow_succ', Nat.mod_mul, Nat.mod_mul, show a % 256 = b % 256 from h0] at h
      simpa using h
    rw [leBytes, leBytes, ih h1, UInt8.toNat.inj h0]

/-- A wide field is its low bytes followed by its high bytes. -/
theorem leBytes_add (m n x : Nat) : leBytes (m + n) x = leBytes m x ++ leBytes n (x / 256 ^ m) := by
  induction m generalizing x with
  | zero => simp [leBytes]
  | succ m ih =>
    rw [Nat.add_right_comm, leBytes, leBytes, ih, Nat.div_div_eq_div_mul, ← pow_succ']
    rfl

/-- Two 16-bit fields side by side are one 32-bit field (`"<HH"` is `"<I"` of `lo | hi << 16`). -/
theorem leBytes_two_append_two (lo hi : Nat) :
    leBytes 2 lo ++ leBytes 2 hi = leBytes 4 (lo % 65536 + 65536 * (hi % 65536)) := by
  rw [show 4 = 2 + 2 from rfl, leBytes_add]
  have h : (256 : Nat) ^ 2 = 65536 := rfl
  congr 1 <;> apply leBytes_congr <;> rw [h] <;> omega

@[simp] theorem leBytes_two_mod (n : Nat) : leBytes 2 (n % 65536) = leBytes 2 n :=
  leBytes_congr (Nat.mod_mod n _)

@[simp] theorem leBytes_four_mod (n : Nat) : leBytes 4 (n % 4294967296) = leBytes 4 n :=
  leBytes_congr (Nat.mod_mod n _)

theorem quadletAt_append_length (p bs : List UInt8) (off : Nat) :
    quadletAt (p ++ bs) (p.length + off) = quadletAt bs off := by
  simp [quadletAt, List.drop_append_eq_append_drop, List.drop_eq_nil_of_le]

/-! ## Runs of quadlets -/

/-- The bytes of consecutive little-endian quadlets (`struct.pack("<I…I", …)`). -/
def quadlets (ws : List Nat) : List UInt8 := (ws.map (leBytes 4)).flatten

@[simp] theorem quadlets_nil : quadlets [] = [] := rfl

@[simp] theorem quadlets_cons (w : Nat) (ws : List Nat) :
    quadlets (w :: ws) = leBytes 4 w ++ quadlets ws := rfl

@[simp] theorem length_quadlets (ws : List Nat) : (quadlets ws).length = 4 * ws.length := by
  induction ws with
  | nil => rfl
  | cons w ws ih => simp only [quadlets_cons, List.length_append, ih, length_leBytes,
      List.length_cons]; ring

/-- Quadlet `k` of a run of quadlets, whatever follows the run. -/
theorem quadletAt_quadlets_append (ws : List Nat) (rest : List UInt8) {k : Nat}
    (hk : k < ws.length) : quadletAt (quadlets ws ++ rest) (4 * k) = ws[k] % 4294967296 := by
  induction ws generalizing k with
  | nil => simp at hk
  | cons w ws ih =>
    cases k with
    | zero =>
      have hw : ((leBytes 4 w ++ (quadlets ws ++ rest)).drop 0).take 4 = leBytes 4 w := by
        simp [List.take_append_of_le_length]
      rw [quadlets_cons, List.append_assoc, Nat.mul_zero, quadletAt, hw, ofLE_leBytes]
      rfl
    | succ k =>
      rw [quadlets_cons, List.append_assoc, show 4 * (k + 1) = (leBytes 4 w).length + 4 * k by
        simp only [length_leBytes]; ring, quadletAt_append_length, ih (by simpa using hk)]
      rfl

/-- A quadlet read at `off + 4 * k` in bytes that hold a run of quadlets from `off`. -/
theorem quadletAt_of_drop_quadlets {ws : List Nat} {bs : List UInt8} {off k w : Nat}
    (h : quadlets ws <+: bs.drop off) (hk : ws[k]? = some w) :
    quadletAt bs (off + 4 * k) = w % 4294967296 := by
  obtain ⟨rest, hrest⟩ := h
  obtain ⟨hlt, rfl⟩ := List.getElem?_eq_some_iff.mp hk
  rw [← quadletAt_quadlets_append ws rest hlt, hrest, quadletAt, quadletAt, List.drop_drop]

/-! ## The masks -/

@[simp] theorem land_0xFFFF (n : Nat) : n &&& 0xFFFF = n % 65536 := by
  simpa using Nat.and_pow_two_sub_one_eq_mod n 16

@[simp] theorem land_0xFFFFFFFF (n : Nat) : n &&& 0xFFFFFFFF = n % 4294967296 := by
  simpa using Nat.and_pow_two_sub_one_eq_mod n 32

@[simp] theorem land_0xF (n : Nat) : n &&& 0xF = n % 16 := by
  simpa using Nat.and_pow_two_sub_one_eq_mod n 4

@[simp] theorem land_0xFF (n : Nat) : n &&& 0xFF = n % 256 := by
  simpa using Nat.and_pow_two_sub_one_eq_mod n 8

theorem land_0x7 (n : Nat) : n &&& 0x7 = n % 8 := by
  simpa using Nat.and_pow_two_sub_one_eq_mod n 3

theorem land_0x3 (n : Nat) : n &&& 0x3 = n % 4 := by
  simpa using Nat.and_pow_two_sub_one_eq_mod n 2

theorem land_0x3F (n : Nat) : n &&& 0x3F = n % 64 := by
  simpa using Nat.and_pow_two_sub_one_eq_mod n 6

/-- Or-ing in a value that fits below the low zero bits of the other adds it. -/
theorem or_eq_add_of_lt {a b k : Nat} (ha : a % 2 ^ k = 0) (hb : b < 2 ^ k) : a ||| b = a + b := by
  have h : a = 2 ^ k * (a / 2 ^ k) := by
    have := Nat.div_add_mod a (2 ^ k)
    omega
  rw [h, ← Nat.mul_add_lt_is_or hb]

/-- The address mask `& 0xFFFFFFF0` keeps bits 31..4. -/
theorem land_0xFFFFFFF0 (n : Nat) : n &&& 0xFFFFFFF0 = n % 4294967296 / 16 * 16 := by
  apply Nat.eq_of_testBit_eq
  intro i
  have hmask : (0xFFFFFFF0 : Nat) = 2 ^ 4 * (2 ^ 28 - 1) := rfl
  rw [Nat.testBit_and, hmask, Nat.mul_comm (n % 4294967296 / 16), show (16 : Nat) = 2 ^ 4 from rfl,
    Nat.testBit_mul_pow_two, Nat.testBit_mul_pow_two, Nat.testBit_two_pow_sub_one,
    ← Nat.shiftRight_eq_div_pow, Nat.testBit_shiftRight, show (4294967296 : Nat) = 2 ^ 32 from rfl,
    Nat.testBit_mod_two_pow]
  by_cases h : 4 ≤ i
  · have h28 : decide (i - 4 < 28) = decide (i < 32) := by simp only [decide_eq_decide]; omega
    simp [h, h28, show 4 + (i - 4) = i by omega, Bool.and_comm]
  · simp [h]

/-! ## Hexadecimal text -/

/-- The `{:X}` format: upper-case hexadecimal digits. -/
def hexUpper (n : Nat) : String := String.mk ((Nat.toDigits 16 n).map Char.toUpper)

/-- The `{:0wX}` format: upper-case hexadecimal digits, padded with zeros to `width`. -/
def hexPad (width n : Nat) : String :=
  String.mk (List.replicate (width - (hexUpper n).length) '0') ++ hexUpper n

end ItDmaProgram
