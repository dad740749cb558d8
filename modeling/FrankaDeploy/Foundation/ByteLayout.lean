import Mathlib.Data.Int.Basic
import Mathlib.Data.List.Forall2
import Mathlib.Data.Nat.Basic
import Mathlib.Tactic.Common
import Mathlib.Tactic.Ring

/-! # Values at fixed places of a byte string

A wire format without padding puts one value after the other, each little-endian in a fixed number
of bytes. A `Layout` is the list of the types in order; `pack` writes values that fit their types
and `unpack` reads them back. The two are inverse to each other: `unpack_pack` on values that
fit and `pack_unpack` on byte strings of the layout's size. -/

namespace FrankaDeploy.Foundation

abbrev Bytes := List UInt8

/-! ## Little-endian numbers -/

/-- The `width` least significant bytes of a number, the lowest first. -/
def leBytes : ℕ → ℕ → Bytes
  | 0, _ => []
  | width + 1, n => UInt8.ofNat (n % 256) :: leBytes width (n / 256)

def leValue : Bytes → ℕ
  | [] => 0
  | b :: bs => b.toNat + 256 * leValue bs

@[simp] theorem length_leBytes (width n : ℕ) : (leBytes width n).length = width := by
  induction width generalizing n with
  | zero => rfl
  | succ width ih => simp only [leBytes, List.length_cons, ih]

theorem leValue_leBytes (width n : ℕ) : leValue (leBytes width n) = n % 256 ^ width := by
  induction width generalizing n with
  | zero => simp [leBytes, leValue, Nat.mod_one]
  | succ width ih =>
    have hbyte : (UInt8.ofNat (n % 256)).toNat = n % 256 := by
      rw [UInt8.toNat_ofNat']
      omega
    rw [leBytes, leValue, ih, hbyte, pow_succ', Nat.mod_mul]

theorem leValue_leBytes_of_lt {width n : ℕ} (h : n < 256 ^ width) :
    leValue (leBytes width n) = n := by
  rw [leValue_leBytes, Nat.mod_eq_of_lt h]

theorem leValue_lt (b : Bytes) : leValue b < 256 ^ b.length := by
  induction b with
  | nil => simp [leValue]
  | cons x b ih =>
    have hx := x.toNat_lt
    rw [leValue, List.length_cons, pow_succ]
    omega

theorem leBytes_leValue (b : Bytes) : leBytes b.length (leValue b) = b := by
  induction b with
  | nil => rfl
  | cons x b ih =>
    have hx := x.toNat_lt
    have hlow : (x.toNat + 256 * leValue b) % 256 = x.toNat := by omega
    have hhigh : (x.toNat + 256 * leValue b) / 256 = leValue b := by omega
    rw [List.length_cons, leValue, leBytes, hlow, hhigh, ih, UInt8.ofNat_toNat]

/-! ## Two's complement -/

/-- The unsigned number with the two's complement bytes of `z`. -/
def signedResidue (width : ℕ) (z : ℤ) : ℕ := (z % (256 ^ width : ℕ)).toNat

/-- The signed number whose two's complement bytes are those of `n`. -/
def signedValue (width n : ℕ) : ℤ := if 2 * n < 256 ^ width then n else n - (256 ^ width : ℕ)

def SignedRange (width : ℕ) (z : ℤ) : Prop :=
  -((256 ^ width : ℕ) : ℤ) ≤ 2 * z ∧ 2 * z < (256 ^ width : ℕ)

instance (width : ℕ) (z : ℤ) : Decidable (SignedRange width z) :=
  inferInstanceAs (Decidable (_ ∧ _))

theorem signedResidue_lt (width : ℕ) (z : ℤ) : signedResidue width z < 256 ^ width := by
  have hpos : 0 < 256 ^ width := Nat.pow_pos (by omega)
  unfold signedResidue
  generalize 256 ^ width = m at *
  have hnonneg := Int.emod_nonneg z (b := m) (by omega)
  have hlt := Int.emod_lt_of_pos z (b := m) (by omega)
  omega

theorem signedValue_signedResidue {width : ℕ} {z : ℤ} (h : SignedRange width z) :
    signedValue width (signedResidue width z) = z := by
  obtain ⟨hlow, hhigh⟩ := h
  unfold signedValue signedResidue
  generalize 256 ^ width = m at *
  -- the residue is the number itself, or one modulus above a negative number
  by_cases hz : 0 ≤ z
  · rw [Int.emod_eq_of_lt hz (by omega), if_pos (by omega)]
    omega
  · rw [← Int.add_emod_right, Int.emod_eq_of_lt (by omega) (by omega), if_neg (by omega)]
    omega

theorem signedRange_signedValue {width n : ℕ} (h : n < 256 ^ width) :
    SignedRange width (signedValue width n) := by
  unfold SignedRange signedValue
  generalize 256 ^ width = m at *
  split_ifs with hsmall <;> constructor <;> omega

theorem signedResidue_signedValue {width n : ℕ} (h : n < 256 ^ width) :
    signedResidue width (signedValue width n) = n := by
  unfold signedResidue signedValue
  generalize 256 ^ width = m at *
  split_ifs with hsmall
  · rw [Int.emod_eq_of_lt (by omega) (by omega), Int.toNat_natCast]
  · rw [Int.sub_emod_right, Int.emod_eq_of_lt (by omega) (by omega), Int.toNat_natCast]

/-! ## Types and values -/

/-- **The type of one value**, with its width in bytes. -/
inductive WireType where
  | unsigned (width : ℕ)
  | signed (width : ℕ)
  | float (width : ℕ)
  | raw (width : ℕ)
deriving DecidableEq, Repr

def WireType.width : WireType → ℕ
  | .unsigned width | .signed width | .float width | .raw width => width

/-- **A value on the wire.** -/
inductive WireValue where
  | unsigned (n : ℕ)
  | signed (z : ℤ)
  | float (bits : ℕ)
  | raw (bytes : Bytes)
deriving DecidableEq, Repr

def WireType.Fits : WireType → WireValue → Prop
  | .unsigned width, .unsigned n => n < 256 ^ width
  | .signed width, .signed z => SignedRange width z
  | .float width, .float bits => bits < 256 ^ width
  | .raw width, .raw bytes => bytes.length = width
  | _, _ => False

instance WireType.Fits.decidable : (t : WireType) → (v : WireValue) → Decidable (t.Fits v)
  | .unsigned width, .unsigned n => inferInstanceAs (Decidable (n < 256 ^ width))
  | .signed width, .signed z => inferInstanceAs (Decidable (SignedRange width z))
  | .float width, .float bits => inferInstanceAs (Decidable (bits < 256 ^ width))
  | .raw width, .raw bytes => inferInstanceAs (Decidable (bytes.length = width))
  | .unsigned _, .signed _ | .unsigned _, .float _ | .unsigned _, .raw _
  | .signed _, .unsigned _ | .signed _, .float _ | .signed _, .raw _
  | .float _, .unsigned _ | .float _, .signed _ | .float _, .raw _
  | .raw _, .unsigned _ | .raw _, .signed _ | .raw _, .float _ => .isFalse id

def WireType.put (t : WireType) : WireValue → Bytes
  | .unsigned n => leBytes t.width n
  | .signed z => leBytes t.width (signedResidue t.width z)
  | .float bits => leBytes t.width bits
  | .raw bytes => bytes

def WireType.get : WireType → Bytes → WireValue
  | .unsigned _, b => .unsigned (leValue b)
  | .signed width, b => .signed (signedValue width (leValue b))
  | .float _, b => .float (leValue b)
  | .raw _, b => .raw b

theorem WireType.length_put {t : WireType} {v : WireValue} (h : t.Fits v) :
    (t.put v).length = t.width := by
  cases t <;> cases v <;> simp_all [WireType.Fits, WireType.put, WireType.width]

theorem WireType.get_put {t : WireType} {v : WireValue} (h : t.Fits v) : t.get (t.put v) = v := by
  cases t with
  | unsigned width =>
    cases v with
    | unsigned n => exact congrArg WireValue.unsigned (leValue_leBytes_of_lt h)
    | _ => exact h.elim
  | float width =>
    cases v with
    | float bits => exact congrArg WireValue.float (leValue_leBytes_of_lt h)
    | _ => exact h.elim
  | raw width =>
    cases v with
    | raw bytes => rfl
    | _ => exact h.elim
  | signed width =>
    cases v with
    | signed z =>
      have hread : leValue (leBytes width (signedResidue width z)) = signedResidue width z :=
        leValue_leBytes_of_lt (signedResidue_lt width z)
      show WireValue.signed (signedValue width (leValue (leBytes width
        (signedResidue width z)))) = _
      rw [hread, signedValue_signedResidue h]
    | _ => exact h.elim

theorem WireType.fits_get {t : WireType} {b : Bytes} (h : b.length = t.width) :
    t.Fits (t.get b) := by
  have hlt := leValue_lt b
  rw [h] at hlt
  cases t with
  | unsigned width => exact hlt
  | float width => exact hlt
  | raw width => exact h
  | signed width => exact signedRange_signedValue hlt

theorem WireType.put_get {t : WireType} {b : Bytes} (h : b.length = t.width) :
    t.put (t.get b) = b := by
  have hlt := leValue_lt b
  rw [h] at hlt
  have hback : leBytes t.width (leValue b) = b := by rw [← h, leBytes_leValue]
  cases t with
  | unsigned width => exact hback
  | float width => exact hback
  | raw width => rfl
  | signed width =>
    show leBytes width (signedResidue width (signedValue width (leValue b))) = b
    have hres : signedResidue width (signedValue width (leValue b)) = leValue b :=
      signedResidue_signedValue hlt
    rw [hres]
    exact hback

theorem WireType.fits_unsigned {width : ℕ} {v : WireValue} (h : (unsigned width).Fits v) :
    ∃ n, n < 256 ^ width ∧ v = .unsigned n := by
  cases v with
  | unsigned n => exact ⟨n, h, rfl⟩
  | _ => exact h.elim

theorem WireType.fits_raw {width : ℕ} {v : WireValue} (h : (raw width).Fits v) :
    ∃ bytes : Bytes, bytes.length = width ∧ v = .raw bytes := by
  cases v with
  | raw bytes => exact ⟨bytes, h, rfl⟩
  | _ => exact h.elim

/-! ## Layouts -/

/-- **The types of the values, in the order of the bytes.** -/
abbrev Layout := List WireType

namespace Layout

def size (L : Layout) : ℕ := (L.map WireType.width).sum

def Fits (L : Layout) (vs : List WireValue) : Prop := List.Forall₂ WireType.Fits L vs

instance (L : Layout) (vs : List WireValue) : Decidable (L.Fits vs) :=
  inferInstanceAs (Decidable (List.Forall₂ WireType.Fits L vs))

def pack : Layout → List WireValue → Bytes
  | t :: L, v :: vs => t.put v ++ pack L vs
  | _, _ => []

def unpack : Layout → Bytes → List WireValue
  | [], _ => []
  | t :: L, b => t.get (b.take t.width) :: unpack L (b.drop t.width)

def placed (start : ℕ) : Layout → List (ℕ × WireType)
  | [] => []
  | t :: L => (start, t) :: placed (start + t.width) L

theorem pack_cons (t : WireType) (L : Layout) (v : WireValue) (vs : List WireValue) :
    pack (t :: L) (v :: vs) = t.put v ++ pack L vs := rfl

theorem unpack_cons (t : WireType) (L : Layout) (b : Bytes) :
    unpack (t :: L) b = t.get (b.take t.width) :: unpack L (b.drop t.width) := rfl

@[simp] theorem size_cons (t : WireType) (L : Layout) : size (t :: L) = t.width + size L := by
  simp [size]

@[simp] theorem size_append (L M : Layout) : size (L ++ M) = size L + size M := by
  simp [size]

theorem length_pack {L : Layout} {vs : List WireValue} (h : L.Fits vs) :
    (pack L vs).length = size L := by
  induction h with
  | nil => rfl
  | cons hv _ ih => rw [pack_cons, List.length_append, WireType.length_put hv, ih, size_cons]

/-- **Values that fit are read back**, whatever bytes follow. -/
theorem unpack_pack {L : Layout} {vs : List WireValue} (h : L.Fits vs) (rest : Bytes) :
    unpack L (pack L vs ++ rest) = vs := by
  induction h with
  | nil => rfl
  | @cons t v L vs hv _ ih =>
    have hlen : (t.put v).length = t.width := WireType.length_put hv
    rw [pack_cons, unpack_cons, List.append_assoc, List.take_left' hlen, List.drop_left' hlen,
      WireType.get_put hv, ih]

theorem fits_unpack {L : Layout} {b : Bytes} (h : size L ≤ b.length) : L.Fits (unpack L b) := by
  induction L generalizing b with
  | nil => exact List.Forall₂.nil
  | cons t L ih =>
    rw [size_cons] at h
    refine List.Forall₂.cons (WireType.fits_get ?_) (ih ?_)
    · rw [List.length_take]
      omega
    · rw [List.length_drop]
      omega

/-- **Bytes are written back**: packing what was read gives the leading bytes. -/
theorem pack_unpack {L : Layout} {b : Bytes} (h : size L ≤ b.length) :
    pack L (unpack L b) = b.take (size L) := by
  induction L generalizing b with
  | nil => rfl
  | cons t L ih =>
    rw [size_cons] at h
    have htake : (b.take t.width).length = t.width := by
      rw [List.length_take]
      omega
    rw [unpack_cons, pack_cons, WireType.put_get htake, ih (by rw [List.length_drop]; omega),
      size_cons, List.take_add]

theorem pack_unpack_self {L : Layout} {b : Bytes} (h : b.length = size L) :
    pack L (unpack L b) = b := by
  rw [pack_unpack h.ge, List.take_of_length_le h.le]

theorem pack_append {L : Layout} {vs : List WireValue} (h : L.length = vs.length) (M : Layout)
    (ws : List WireValue) : pack (L ++ M) (vs ++ ws) = pack L vs ++ pack M ws := by
  induction L generalizing vs with
  | nil =>
    cases vs with
    | nil => rfl
    | cons v vs => cases h
  | cons t L ih =>
    cases vs with
    | nil => cases h
    | cons v vs =>
      rw [List.cons_append, List.cons_append, pack_cons, pack_cons, ih (Nat.succ.inj h),
        List.append_assoc]

theorem unpack_append (L M : Layout) (b : Bytes) :
    unpack (L ++ M) b = unpack L b ++ unpack M (b.drop (size L)) := by
  induction L generalizing b with
  | nil => rfl
  | cons t L ih =>
    rw [List.cons_append, unpack_cons, unpack_cons, ih, List.drop_drop, size_cons, List.cons_append]

end Layout

/-! ## Named fields -/

/-- **A field of a record**: an array of values of one type. -/
structure WireField where
  name : String
  type : WireType
  count : ℕ
deriving DecidableEq, Repr

def Layout.ofFields (fields : List WireField) : Layout :=
  fields.flatMap fun f => List.replicate f.count f.type

/-! ## Overwriting -/

def overwrite (offset : ℕ) (patch b : Bytes) : Bytes :=
  b.take offset ++ patch ++ b.drop (offset + patch.length)

theorem overwrite_append {front old patch : Bytes} (h : old.length = patch.length) (back : Bytes) :
    overwrite front.length patch (front ++ (old ++ back)) = front ++ (patch ++ back) := by
  unfold overwrite
  rw [List.take_left' rfl, ← List.append_assoc front old back,
    List.drop_left' (by rw [List.length_append, h]), List.append_assoc]

end FrankaDeploy.Foundation
