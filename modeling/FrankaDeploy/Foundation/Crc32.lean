import FrankaDeploy.Foundation.ByteLayout
import Mathlib.Data.BitVec
import Mathlib.Logic.Function.Iterate

/-! # The reflected CRC-32

The checksum as a shift register: `crcShift` consumes one bit, eight of them one byte. Since the
register is linear over exclusive or, the eight shifts of a byte can be read from a table, which
is how libraries compute it; `crcBits_eq_crcStep` is that step. -/

namespace FrankaDeploy.Foundation

def crcPolynomial : BitVec 32 := 0xEDB88320#32

/-- **One bit of the shift register.** -/
def crcShift (crc : BitVec 32) : BitVec 32 :=
  (crc >>> 1) ^^^ (if crc.getLsbD 0 then crcPolynomial else 0#32)

/-! ## Linearity -/

theorem crcShift_xor (x y : BitVec 32) : crcShift (x ^^^ y) = crcShift x ^^^ crcShift y := by
  have hshift : (x ^^^ y) >>> 1 = (x >>> 1) ^^^ (y >>> 1) := BitVec.ushiftRight_xor_distrib x y 1
  have hswap : ∀ a b p : BitVec 32, (a ^^^ p) ^^^ (b ^^^ p) = a ^^^ b := by
    intro a b p
    rw [show (a ^^^ p) ^^^ (b ^^^ p) = (a ^^^ b) ^^^ (p ^^^ p) by ac_rfl, BitVec.xor_self,
      BitVec.xor_zero]
  unfold crcShift
  rw [hshift, BitVec.getLsbD_xor]
  cases x.getLsbD 0 <;> cases y.getLsbD 0
  · simp
  · simp [BitVec.xor_assoc]
  · simp only [Bool.xor_false, if_true, Bool.false_eq_true, if_false, BitVec.xor_zero]
    ac_rfl
  · simp [hswap]

theorem crcShift_iterate_xor (n : ℕ) (x y : BitVec 32) :
    crcShift^[n] (x ^^^ y) = crcShift^[n] x ^^^ crcShift^[n] y := by
  induction n generalizing x y with
  | zero => rfl
  | succ n ih => rw [Function.iterate_succ_apply, crcShift_xor, ih,
      Function.iterate_succ_apply, Function.iterate_succ_apply]

theorem crcShift_iterate_of_low_zero (n : ℕ) (x : BitVec 32)
    (h : ∀ i, i < n → x.getLsbD i = false) : crcShift^[n] x = x >>> n := by
  induction n with
  | zero => simp
  | succ n ih =>
    have hlow : (x >>> n).getLsbD 0 = false := by
      rw [BitVec.getLsbD_ushiftRight]
      exact h n (Nat.lt_succ_self n)
    rw [Function.iterate_succ_apply', ih fun i hi => h i (Nat.lt_succ_of_lt hi), crcShift, hlow]
    simp [BitVec.shiftRight_add]

/-! ## Bytes -/

/-- **One byte, bit by bit**: it is added to the low end of the register and shifted out. -/
def crcBits (crc : BitVec 32) (byte : UInt8) : BitVec 32 :=
  crcShift^[8] (crc ^^^ byte.toBitVec.setWidth 32)

/-- **The table of a byte.** -/
def crcTable (index : BitVec 8) : BitVec 32 := crcShift^[8] (index.setWidth 32)

def crcStep (crc : BitVec 32) (byte : UInt8) : BitVec 32 :=
  crcTable ((crc ^^^ byte.toBitVec.setWidth 32).setWidth 8) ^^^ (crc >>> 8)

theorem register_split (x : BitVec 32) :
    x = ((x >>> 8) <<< 8) ^^^ (x.setWidth 8).setWidth 32 := by
  apply BitVec.eq_of_getLsbD_eq
  intro i hi
  by_cases hlow : i < 8
  · simp [hi, hlow]
  · simp [hi, hlow, show 8 + (i - 8) = i by omega]

/-- **A byte shifted in bit by bit is one look into the table.** -/
theorem crcBits_eq_crcStep (crc : BitVec 32) (byte : UInt8) :
    crcBits crc byte = crcStep crc byte := by
  let x : BitVec 32 := crc ^^^ byte.toBitVec.setWidth 32
  have hhigh : crcShift^[8] ((x >>> 8) <<< 8) = ((x >>> 8) <<< 8) >>> 8 := by
    refine crcShift_iterate_of_low_zero 8 _ ?_
    intro i hi
    simp [hi]
  have hrest : ((x >>> 8) <<< 8) >>> 8 = crc >>> 8 := by
    apply BitVec.eq_of_getLsbD_eq
    intro i hi
    by_cases hin : 8 + i < 32
    · simp [x, hin]
    · simp [hin, BitVec.getLsbD_of_ge crc (8 + i) (by omega)]
  show crcShift^[8] x = crcTable (x.setWidth 8) ^^^ (crc >>> 8)
  conv_lhs => rw [register_split x]
  rw [crcShift_iterate_xor, hhigh, hrest, BitVec.xor_comm]
  rfl

/-! ## Checksums -/

/-- **The checksum of a byte string**, one table entry a byte. -/
def crc32 (data : Bytes) : BitVec 32 := ~~~ data.foldl crcStep 0xFFFFFFFF#32

theorem crc32_eq_bits (data : Bytes) : crc32 data = ~~~ data.foldl crcBits 0xFFFFFFFF#32 := by
  have hstep : crcBits = crcStep := by
    funext crc byte
    exact crcBits_eq_crcStep crc byte
  rw [crc32, hstep]

/-! ## Errors in one byte

The top bit of the polynomial tells from the shifted register which bit was shifted out, so the
register forgets nothing: two registers that differ stay different under the same input. -/

theorem eq_zero_of_crcShift_eq_zero {x : BitVec 32} (h : crcShift x = 0#32) : x = 0#32 := by
  have hlow : x.getLsbD 0 = false := by
    -- the shifted register has no top bit of its own
    have htop := congrArg (fun y => y.getLsbD 31) h
    cases hbit : x.getLsbD 0 with
    | false => rfl
    | true =>
      rw [crcShift, hbit] at htop
      simp [crcPolynomial, BitVec.getLsbD_of_ge] at htop
  have hrest : x >>> 1 = 0#32 := by
    rw [crcShift, hlow] at h
    simpa using h
  apply BitVec.eq_of_getLsbD_eq
  intro i hi
  cases i with
  | zero => simpa using hlow
  | succ i =>
    have hbit := congrArg (fun y => y.getLsbD i) hrest
    simp only [BitVec.getLsbD_ushiftRight] at hbit
    rw [Nat.add_comm, hbit]
    simp

theorem crcShift_injective : Function.Injective crcShift := by
  intro x y h
  have hzero : crcShift (x ^^^ y) = 0#32 := by
    rw [crcShift_xor, h, BitVec.xor_self]
  exact BitVec.xor_eq_zero_iff.mp (eq_zero_of_crcShift_eq_zero hzero)

theorem crcBits_left_injective (byte : UInt8) : Function.Injective fun crc => crcBits crc byte := by
  intro x y h
  exact (BitVec.xor_left_inj _).mp (crcShift_injective.iterate 8 h)

theorem crcBits_right_injective (crc : BitVec 32) : Function.Injective (crcBits crc) := by
  intro x y h
  have hwide := (BitVec.xor_right_inj _).mp (crcShift_injective.iterate 8 h)
  refine UInt8.toBitVec_inj.mp (BitVec.eq_of_getLsbD_eq fun i hi => ?_)
  have hbit := congrArg (fun z => z.getLsbD i) hwide
  simpa [hi, show i < 32 by omega] using hbit

theorem foldl_crcBits_injective (data : Bytes) :
    Function.Injective fun crc => data.foldl crcBits crc := by
  induction data with
  | nil => exact fun _ _ h => h
  | cons byte data ih => exact ih.comp (crcBits_left_injective byte)

theorem foldl_crcBits_set_ne {data : Bytes} {n : ℕ} {byte : UInt8} (hn : n < data.length)
    (hbyte : byte ≠ data.getD n 0) (crc : BitVec 32) :
    (data.set n byte).foldl crcBits crc ≠ data.foldl crcBits crc := by
  induction data generalizing n crc with
  | nil => exact absurd hn (Nat.not_lt_zero n)
  | cons first data ih =>
    cases n with
    | zero =>
      intro h
      exact hbyte (crcBits_right_injective crc (foldl_crcBits_injective data h))
    | succ n => exact ih (Nat.lt_of_succ_lt_succ hn) hbyte (crcBits crc first)

/-- **A replaced byte changes the checksum**, whatever the string's length is. -/
theorem crc32_set_ne {data : Bytes} {n : ℕ} {byte : UInt8} (hn : n < data.length)
    (hbyte : byte ≠ data.getD n 0) : crc32 (data.set n byte) ≠ crc32 data := by
  rw [crc32_eq_bits, crc32_eq_bits]
  intro h
  exact foldl_crcBits_set_ne hn hbyte _ (BitVec.not_inj.mp h)

/-- The check value of the nine digits. -/
example : crc32 [0x31, 0x32, 0x33, 0x34, 0x35, 0x36, 0x37, 0x38, 0x39] = 0xCBF43926#32 := by
  decide +kernel

end FrankaDeploy.Foundation
