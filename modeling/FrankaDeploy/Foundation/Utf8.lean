import Mathlib.Data.UInt
import Mathlib.Tactic.Common

/-! # UTF-8

The encoding of a scalar value is `String.utf8EncodeChar`. What a decoder needs is the converse:
which bytes are an encoding, and of which value. The encodings of one to four bytes are
characterised here by ranges of the bytes and by the value the payloads spell, so that a decoder
written with masks and minimum values can be compared with them by linear arithmetic. -/

namespace FrankaDeploy.Foundation.Utf8

/-- **The encoding** of a sequence of scalar values. -/
def encode (text : List Char) : List UInt8 := text.flatMap String.utf8EncodeChar

def IsContinuation (b : UInt8) : Prop := 128 ≤ b.toNat ∧ b.toNat < 192

def IsScalar (v : ℕ) : Prop := v < 0xd800 ∨ 0xdfff < v ∧ v < 0x110000

theorem isScalar_toNat (c : Char) : IsScalar c.toNat := c.valid

theorem exists_char {v : ℕ} (h : IsScalar v) : ∃ c : Char, c.toNat = v :=
  ⟨Char.ofNatAux v h, rfl⟩

@[simp] theorem encode_nil : encode [] = [] := rfl

@[simp] theorem encode_cons (c : Char) (text : List Char) :
    encode (c :: text) = String.utf8EncodeChar c ++ encode text := rfl

theorem utf8EncodeChar_ne_nil (c : Char) : String.utf8EncodeChar c ≠ [] := by
  rw [← List.length_pos_iff, String.length_utf8EncodeChar]
  exact c.utf8Size_pos

/-! ## The four forms -/

theorem utf8EncodeChar_eq_one_iff {c : Char} {a : UInt8} :
    String.utf8EncodeChar c = [a] ↔ a.toNat < 128 ∧ c.toNat = a.toNat := by
  have hc : c.val.toNat = c.toNat := rfl
  have ha := a.toNat_lt
  unfold String.utf8EncodeChar
  simp only [hc]
  split_ifs with h₁ h₂ h₃
  · simp only [List.cons.injEq, and_true, ← UInt8.toNat_inj, UInt8.toNat_ofNat']
    omega
  all_goals
    simp only [List.cons.injEq, reduceCtorEq, and_false, false_iff]
    omega

theorem utf8EncodeChar_eq_two_iff {c : Char} {a b : UInt8} :
    String.utf8EncodeChar c = [a, b] ↔ (192 ≤ a.toNat ∧ a.toNat < 224) ∧ IsContinuation b ∧
      c.toNat = a.toNat % 32 * 64 + b.toNat % 64 ∧ 0x80 ≤ c.toNat := by
  have hc : c.val.toNat = c.toNat := rfl
  have ha := a.toNat_lt
  have hb := b.toNat_lt
  unfold String.utf8EncodeChar IsContinuation
  simp only [hc]
  split_ifs with h₁ h₂ h₃
  all_goals
    simp only [List.cons.injEq, reduceCtorEq, and_false, and_true, false_iff, ← UInt8.toNat_inj,
      UInt8.toNat_ofNat']
    omega

theorem utf8EncodeChar_eq_three_iff {c : Char} {a b d : UInt8} :
    String.utf8EncodeChar c = [a, b, d] ↔ (224 ≤ a.toNat ∧ a.toNat < 240) ∧ IsContinuation b ∧
      IsContinuation d ∧
      c.toNat = (a.toNat % 16 * 64 + b.toNat % 64) * 64 + d.toNat % 64 ∧ 0x800 ≤ c.toNat := by
  have hc : c.val.toNat = c.toNat := rfl
  have ha := a.toNat_lt
  have hb := b.toNat_lt
  have hd := d.toNat_lt
  unfold String.utf8EncodeChar IsContinuation
  simp only [hc]
  split_ifs with h₁ h₂ h₃
  all_goals
    simp only [List.cons.injEq, reduceCtorEq, and_false, and_true, false_iff, ← UInt8.toNat_inj,
      UInt8.toNat_ofNat']
    omega

theorem utf8EncodeChar_eq_four_iff {c : Char} {a b d e : UInt8} :
    String.utf8EncodeChar c = [a, b, d, e] ↔ (240 ≤ a.toNat ∧ a.toNat < 248) ∧
      IsContinuation b ∧ IsContinuation d ∧ IsContinuation e ∧
      c.toNat = ((a.toNat % 8 * 64 + b.toNat % 64) * 64 + d.toNat % 64) * 64 + e.toNat % 64 ∧
      0x10000 ≤ c.toNat := by
  have hc : c.val.toNat = c.toNat := rfl
  have hs := isScalar_toNat c
  have ha := a.toNat_lt
  have hb := b.toNat_lt
  have hd := d.toNat_lt
  have he := e.toNat_lt
  unfold IsScalar at hs
  unfold String.utf8EncodeChar IsContinuation
  simp only [hc]
  split_ifs with h₁ h₂ h₃
  all_goals
    simp only [List.cons.injEq, reduceCtorEq, and_false, and_true, false_iff, ← UInt8.toNat_inj,
      UInt8.toNat_ofNat']
    omega

/-! ## Lead bytes -/

/-- **A form of several bytes.** -/
structure Form where
  count : ℕ
  lead : ℕ
  payload : ℕ
  minimum : ℕ

def forms : List Form := [⟨1, 192, 32, 0x80⟩, ⟨2, 224, 16, 0x800⟩, ⟨3, 240, 8, 0x10000⟩]

def Form.Leads (f : Form) (a : UInt8) : Prop := f.lead ≤ a.toNat ∧ a.toNat < f.lead + f.payload

def spelled (v : ℕ) (tail : List UInt8) : ℕ := tail.foldl (fun v b => v * 64 + b.toNat % 64) v

@[simp] theorem spelled_nil (v : ℕ) : spelled v [] = v := rfl

@[simp] theorem spelled_cons (v : ℕ) (b : UInt8) (tail : List UInt8) :
    spelled v (b :: tail) = spelled (v * 64 + b.toNat % 64) tail := rfl

/-- **The encoding of a character, by its lead byte**: one byte is its own value, and a form of
several bytes has its number of continuation bytes and a value of at least its minimum. -/
theorem utf8EncodeChar_eq_cons_iff {c : Char} {a : UInt8} {tail : List UInt8} :
    String.utf8EncodeChar c = a :: tail ↔ (a.toNat < 128 ∧ tail = [] ∧ c.toNat = a.toNat) ∨
      ∃ f ∈ forms, f.Leads a ∧ tail.length = f.count ∧ (∀ b ∈ tail, IsContinuation b) ∧
        c.toNat = spelled (a.toNat % f.payload) tail ∧ f.minimum ≤ c.toNat := by
  match tail with
  | [] => simp [utf8EncodeChar_eq_one_iff, forms]
  | [b] => simp [utf8EncodeChar_eq_two_iff, forms, Form.Leads]
  | [b, d] => simp [utf8EncodeChar_eq_three_iff, forms, Form.Leads, and_assoc]
  | [b, d, e] => simp [utf8EncodeChar_eq_four_iff, forms, Form.Leads, and_assoc]
  | b :: d :: e :: g :: tail =>
    constructor
    · intro h
      have hlength := congrArg List.length h
      have hsize := c.utf8Size_le_four
      rw [String.length_utf8EncodeChar] at hlength
      simp only [List.length_cons] at hlength
      omega
    · simp [forms]

end FrankaDeploy.Foundation.Utf8
