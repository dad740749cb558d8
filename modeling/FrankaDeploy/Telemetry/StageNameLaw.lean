import FrankaDeploy.Telemetry.StageName

/-! # The law of stage names

`valid_utf8` accepts the encodings of texts without NUL and nothing else. Its masks and minimum
values are compared with the forms of `Foundation.Utf8`; one round of its loop then takes one
character off, and the induction is over the rounds. -/

namespace FrankaDeploy.Telemetry

open FrankaDeploy.Foundation
open FrankaDeploy.Foundation.Utf8

/-! ## Bytes -/

theorem lead_masks : ∀ n < 256,
    (n &&& 0xe0 = 0xc0 ↔ 192 ≤ n ∧ n < 224) ∧ (n &&& 0xf0 = 0xe0 ↔ 224 ≤ n ∧ n < 240) ∧
      (n &&& 0xf8 = 0xf0 ↔ 240 ≤ n ∧ n < 248) ∧ (n &&& 0xc0 = 0x80 ↔ 128 ≤ n ∧ n < 192) := by
  decide +kernel

theorem isContinuation_iff (b : UInt8) : b &&& 0xc0 = 0x80 ↔ IsContinuation b := by
  rw [← UInt8.toNat_inj, UInt8.toNat_and]
  exact (lead_masks b.toNat b.toNat_lt).2.2.2

/-- **A lead byte announces a form**: its count, its payload and its minimum. -/
theorem leadForm_eq_some_iff {a : UInt8} {count : ℕ} {value minimum : UInt32} :
    leadForm a = some (count, value, minimum) ↔ ∃ f ∈ forms, f.Leads a ∧ count = f.count ∧
      value.toNat = a.toNat % f.payload ∧ minimum.toNat = f.minimum := by
  have ⟨htwo, hthree, hfour, _⟩ := lead_masks a.toNat a.toNat_lt
  have h₁ : (a &&& 0xe0 = 0xc0) ↔ 192 ≤ a.toNat ∧ a.toNat < 224 := by
    rw [← UInt8.toNat_inj, UInt8.toNat_and]
    exact htwo
  have h₂ : (a &&& 0xf0 = 0xe0) ↔ 224 ≤ a.toNat ∧ a.toNat < 240 := by
    rw [← UInt8.toNat_inj, UInt8.toNat_and]
    exact hthree
  have h₃ : (a &&& 0xf8 = 0xf0) ↔ 240 ≤ a.toNat ∧ a.toNat < 248 := by
    rw [← UInt8.toNat_inj, UInt8.toNat_and]
    exact hfour
  have hand (k : ℕ) (m : UInt8) (hm : m.toNat = 2 ^ k - 1) :
      (a &&& m).toUInt32.toNat = a.toNat % 2 ^ k := by
    rw [UInt8.toNat_toUInt32, UInt8.toNat_and, hm, Nat.and_two_pow_sub_one_eq_mod]
  have e₁ := hand 5 0x1f rfl
  have e₂ := hand 4 0x0f rfl
  have e₃ := hand 3 0x07 rfl
  unfold leadForm forms Form.Leads
  simp only [h₁, h₂, h₃, List.mem_cons, List.not_mem_nil, or_false, exists_eq_or_imp,
    exists_eq_left]
  split_ifs with c₁ c₂ c₃
  · simp only [Option.some.injEq, Prod.mk.injEq, ← UInt32.toNat_inj, e₁]
    constructor
    · rintro ⟨rfl, hv, hm⟩
      exact Or.inl ⟨c₁, rfl, hv.symm, hm.symm⟩
    · rintro (⟨_, rfl, hv, hm⟩ | ⟨h, _⟩ | ⟨h, _⟩)
      · exact ⟨rfl, hv.symm, hm.symm⟩
      · omega
      · omega
  · simp only [Option.some.injEq, Prod.mk.injEq, ← UInt32.toNat_inj, e₂]
    constructor
    · rintro ⟨rfl, hv, hm⟩
      exact Or.inr (Or.inl ⟨c₂, rfl, hv.symm, hm.symm⟩)
    · rintro (⟨h, _⟩ | ⟨_, rfl, hv, hm⟩ | ⟨h, _⟩)
      · omega
      · exact ⟨rfl, hv.symm, hm.symm⟩
      · omega
  · simp only [Option.some.injEq, Prod.mk.injEq, ← UInt32.toNat_inj, e₃]
    constructor
    · rintro ⟨rfl, hv, hm⟩
      exact Or.inr (Or.inr ⟨c₃, rfl, hv.symm, hm.symm⟩)
    · rintro (⟨h, _⟩ | ⟨h, _⟩ | ⟨_, rfl, hv, hm⟩)
      · omega
      · omega
      · exact ⟨rfl, hv.symm, hm.symm⟩
  · simp only [false_iff]
    rintro (⟨h, _⟩ | ⟨h, _⟩ | ⟨h, _⟩) <;> omega

/-! ## The inner loop -/

theorem toNat_append {value : UInt32} {b : UInt8} (h : (value.toNat + 1) * 64 ≤ 2 ^ 32) :
    (value <<< 6 ||| (b &&& 0x3f).toUInt32).toNat = value.toNat * 64 + b.toNat % 64 := by
  have hb : (b &&& 0x3f).toUInt32.toNat = b.toNat % 2 ^ 6 := by
    rw [UInt8.toNat_toUInt32, UInt8.toNat_and]
    exact Nat.and_two_pow_sub_one_eq_mod b.toNat 6
  have hshift : (value <<< 6).toNat = value.toNat <<< 6 := by
    rw [UInt32.toNat_shiftLeft]
    show value.toNat <<< 6 % 2 ^ 32 = _
    rw [Nat.shiftLeft_eq]
    exact Nat.mod_eq_of_lt (by omega)
  rw [UInt32.toNat_or, hb, hshift,
    ← Nat.shiftLeft_add_eq_or_of_lt (Nat.mod_lt _ (by decide)), Nat.shiftLeft_eq]

theorem appendContinuation_of {bytes : List UInt8} {index offset : ℕ} {b : UInt8}
    (hb : bytes.getD (index + offset) 0 = b) (hc : IsContinuation b) (value : UInt32) :
    appendContinuation bytes index value offset
      = some (value <<< 6 ||| (b &&& 0x3f).toUInt32) := by
  unfold appendContinuation
  rw [hb]
  exact if_neg (not_not_intro ((isContinuation_iff b).2 hc))

theorem appendContinuation_of_not {bytes : List UInt8} {index offset : ℕ} {b : UInt8}
    (hb : bytes.getD (index + offset) 0 = b) (hc : ¬IsContinuation b) (value : UInt32) :
    appendContinuation bytes index value offset = none := by
  unfold appendContinuation
  rw [hb]
  exact if_pos (mt (isContinuation_iff b).1 hc)

/-- **The inner loop** accepts exactly continuation bytes and spells their value. -/
theorem foldlM_appendContinuation (bytes : List UInt8) (index : ℕ) :
    ∀ (tail rest : List UInt8) (start : ℕ) (value w : UInt32),
      bytes.drop (index + start) = tail ++ rest →
      (value.toNat + 1) * 64 ^ tail.length ≤ 2 ^ 32 →
      ((List.range' start tail.length).foldlM (appendContinuation bytes index) value = some w ↔
        (∀ b ∈ tail, IsContinuation b) ∧ w.toNat = spelled value.toNat tail) := by
  intro tail
  induction tail with
  | nil =>
    intro rest start value w _ _
    simp [← UInt32.toNat_inj, eq_comm]
  | cons b tail ih =>
    intro rest start value w hdrop hroom
    have hb : bytes.getD (index + start) 0 = b := by
      rw [List.getD_eq_getElem?_getD, ← List.head?_drop, hdrop]
      rfl
    have hnext : bytes.drop (index + (start + 1)) = tail ++ rest := by
      rw [← Nat.add_assoc, ← List.drop_drop, hdrop]
      rfl
    have hpow : 1 ≤ 64 ^ tail.length := Nat.one_le_pow _ _ (by decide)
    rw [List.length_cons, Nat.pow_succ'] at hroom
    have hsix : (value.toNat + 1) * 64 ≤ 2 ^ 32 := by nlinarith
    rw [List.length_cons, List.range'_succ, List.foldlM_cons]
    simp only [List.forall_mem_cons, spelled_cons]
    by_cases hc : IsContinuation b
    · rw [appendContinuation_of hb hc, Option.bind_eq_bind, Option.bind_some,
        ← toNat_append hsix]
      have hroom' : ((value <<< 6 ||| (b &&& 0x3f).toUInt32).toNat + 1) * 64 ^ tail.length
          ≤ 2 ^ 32 := by
        rw [toNat_append hsix]
        have hlow := Nat.mod_lt b.toNat (show 0 < 64 by decide)
        have hle : value.toNat * 64 + b.toNat % 64 + 1 ≤ (value.toNat + 1) * 64 := by omega
        calc (value.toNat * 64 + b.toNat % 64 + 1) * 64 ^ tail.length
            ≤ (value.toNat + 1) * 64 * 64 ^ tail.length := Nat.mul_le_mul_right _ hle
          _ = (value.toNat + 1) * (64 * 64 ^ tail.length) := Nat.mul_assoc _ _ _
          _ ≤ 2 ^ 32 := hroom
      refine (ih rest (start + 1) _ w hnext hroom').trans ?_
      simp only [hc, true_and]
    · rw [appendContinuation_of_not hb hc]
      simp [hc]

/-! ## One sequence -/

theorem value_accepted_iff {value minimum : UInt32} {v m : ℕ} (hv : value.toNat = v)
    (hm : minimum.toNat = m) :
    (¬(value < minimum ∨ value > 0x10ffff ∨ (value ≥ 0xd800 ∧ value ≤ 0xdfff))) ↔
      m ≤ v ∧ IsScalar v := by
  unfold IsScalar
  have h₁ : (0x10ffff : UInt32).toNat = 0x10ffff := rfl
  have h₂ : (0xd800 : UInt32).toNat = 0xd800 := rfl
  have h₃ : (0xdfff : UInt32).toNat = 0xdfff := rfl
  simp only [gt_iff_lt, ge_iff_le, UInt32.lt_iff_toNat_lt, UInt32.le_iff_toNat_le, hv, hm, h₁, h₂,
    h₃]
  omega

theorem form_room {f : Form} (hf : f ∈ forms) (a : UInt8) :
    (a.toNat % f.payload + 1) * 64 ^ f.count ≤ 2 ^ 32 := by
  simp only [forms, List.mem_cons, List.not_mem_nil, or_false] at hf
  rcases hf with rfl | rfl | rfl
  · have := Nat.mod_lt a.toNat (show 0 < 32 by decide)
    dsimp only
    omega
  · have := Nat.mod_lt a.toNat (show 0 < 16 by decide)
    dsimp only
    omega
  · have := Nat.mod_lt a.toNat (show 0 < 8 by decide)
    dsimp only
    omega

theorem lead_high {f : Form} (hf : f ∈ forms) {a : UInt8} (ha : f.Leads a) :
    128 ≤ a.toNat := by
  unfold Form.Leads at ha
  simp only [forms, List.mem_cons, List.not_mem_nil, or_false] at hf
  rcases hf with rfl | rfl | rfl
  all_goals
    dsimp only at ha
    omega

theorem forms_minimum_pos {f : Form} (hf : f ∈ forms) : 0 < f.minimum := by
  simp only [forms, List.mem_cons, List.not_mem_nil, or_false] at hf
  rcases hf with rfl | rfl | rfl <;> decide

/-- **A sequence of several bytes**: behind a lead byte of a form, the loop accepts the form's
number of continuation bytes when they spell a scalar value of at least the minimum. -/
theorem sequenceEnd_form {bytes suffix : List UInt8} {index next : ℕ} {a : UInt8}
    (hdrop : bytes.drop index = a :: suffix) (hhigh : 128 ≤ a.toNat) :
    sequenceEnd bytes index = some next ↔ ∃ f ∈ forms, f.Leads a ∧ ∃ tail rest,
      suffix = tail ++ rest ∧ tail.length = f.count ∧ (∀ b ∈ tail, IsContinuation b) ∧
        f.minimum ≤ spelled (a.toNat % f.payload) tail ∧
        IsScalar (spelled (a.toNat % f.payload) tail) ∧ next = index + (tail.length + 1) := by
  have ha : bytes.getD index 0 = a := by
    rw [List.getD_eq_getElem?_getD, ← List.head?_drop, hdrop]
    rfl
  have hsuffix : bytes.drop (index + 1) = suffix := by
    rw [← List.drop_drop, hdrop]
    rfl
  have hlength : bytes.length = index + (suffix.length + 1) := by
    have h := congrArg List.length hdrop
    rw [List.length_drop, List.length_cons] at h
    omega
  have hzero : ¬a = 0 := by
    rintro rfl
    exact absurd hhigh (by decide)
  have hascii : ¬a ≤ 0x7f := by
    rw [UInt8.le_iff_toNat_le]
    exact not_le_of_gt hhigh
  -- What the loop does behind the lead byte, for the tail that the form's count cuts off.
  have hloop {f : Form} (hf : f ∈ forms) {value w : UInt32} {tail rest : List UInt8}
      (hs : suffix = tail ++ rest) (ht : tail.length = f.count)
      (hvalue : value.toNat = a.toNat % f.payload) :
      (List.range' 1 f.count).foldlM (appendContinuation bytes index) value = some w ↔
        (∀ b ∈ tail, IsContinuation b) ∧ w.toNat = spelled (a.toNat % f.payload) tail := by
    have hroom := form_room hf a
    rw [← hvalue, ← ht] at hroom ⊢
    exact foldlM_appendContinuation bytes index tail rest 1 value w (hsuffix.trans hs) hroom
  unfold sequenceEnd
  dsimp only
  rw [ha, if_neg hzero, if_neg hascii]
  constructor
  · intro h
    match hlead : leadForm a with
    | none =>
      rw [hlead] at h
      cases h
    | some (count, value, minimum) =>
      rw [hlead] at h
      dsimp only at h
      obtain ⟨f, hf, hleads, rfl, hvalue, hminimum⟩ := leadForm_eq_some_iff.1 hlead
      split_ifs at h with hcut
      have htake : (suffix.take f.count).length = f.count := by
        rw [List.length_take]
        omega
      split at h
      · cases h
      next w hw =>
        obtain ⟨hcont, hspelled⟩ :=
          (hloop hf (List.take_append_drop f.count suffix).symm htake hvalue).1 hw
        split_ifs at h with hvalid
        cases h
        obtain ⟨hmin, hscalar⟩ := (value_accepted_iff hspelled hminimum).1 hvalid
        refine ⟨f, hf, hleads, _, _, (List.take_append_drop f.count suffix).symm, htake, hcont,
          hmin, hscalar, ?_⟩
        rw [htake]
  · rintro ⟨f, hf, hleads, tail, rest, hs, ht, hcont, hmin, hscalar, rfl⟩
    have hword {v : ℕ} (hv : v < 0x110000) : (UInt32.ofNat v).toNat = v := by
      rw [UInt32.toNat_ofNat']
      exact Nat.mod_eq_of_lt (by omega)
    have hspelled := hword (v := spelled (a.toNat % f.payload) tail) (by
      unfold IsScalar at hscalar
      omega)
    have hminimum : (UInt32.ofNat f.minimum).toNat = f.minimum := by
      simp only [forms, List.mem_cons, List.not_mem_nil, or_false] at hf
      rcases hf with rfl | rfl | rfl <;> rfl
    have hvalue := hword (v := a.toNat % f.payload)
      (lt_of_le_of_lt (Nat.mod_le _ _) (a.toNat_lt.trans (by decide)))
    have hlead := leadForm_eq_some_iff.2 ⟨f, hf, hleads, rfl, hvalue, hminimum⟩
    have hroom : ¬index + f.count ≥ bytes.length := by
      rw [hlength, hs, List.length_append]
      omega
    rw [hlead]
    dsimp only
    rw [if_neg hroom, (hloop hf hs ht hvalue).2 ⟨hcont, hspelled⟩]
    dsimp only
    rw [if_neg ((value_accepted_iff hspelled hminimum).2 ⟨hmin, hscalar⟩), ht]

/-- **One round accepts one character**: the sequence at `index` ends at `next` iff it is the
encoding of a character other than NUL. -/
theorem sequenceEnd_eq_some_iff {bytes : List UInt8} {index next : ℕ}
    (hindex : index < bytes.length) :
    sequenceEnd bytes index = some next ↔ ∃ c : Char, c ≠ '\x00' ∧
      (∃ rest, bytes.drop index = String.utf8EncodeChar c ++ rest) ∧
        next = index + (String.utf8EncodeChar c).length := by
  obtain ⟨a, suffix, hdrop⟩ : ∃ a suffix, bytes.drop index = a :: suffix :=
    ⟨_, _, List.drop_eq_getElem_cons hindex⟩
  have hnul (c : Char) : c = '\x00' ↔ c.toNat = 0 := by
    rw [← Char.toNat_inj]
    rfl
  rw [hdrop]
  by_cases hhigh : 128 ≤ a.toNat
  · rw [sequenceEnd_form hdrop hhigh]
    constructor
    · rintro ⟨f, hf, hleads, tail, rest, rfl, ht, hcont, hmin, hscalar, rfl⟩
      obtain ⟨c, hc⟩ := exists_char hscalar
      have hencode : String.utf8EncodeChar c = a :: tail :=
        utf8EncodeChar_eq_cons_iff.2 (Or.inr ⟨f, hf, hleads, ht, hcont, hc, hc ▸ hmin⟩)
      refine ⟨c, ?_, ⟨rest, ?_⟩, ?_⟩
      · rw [Ne, hnul, hc]
        have := forms_minimum_pos hf
        omega
      · rw [hencode]
        rfl
      · rw [hencode]
        rfl
    · rintro ⟨c, -, ⟨rest, hrest⟩, rfl⟩
      obtain ⟨b, tail, hencode⟩ := List.exists_cons_of_ne_nil (utf8EncodeChar_ne_nil c)
      rw [hencode, List.cons_append, List.cons.injEq] at hrest
      obtain ⟨rfl, rfl⟩ := hrest
      rcases utf8EncodeChar_eq_cons_iff.1 hencode with
        ⟨hlow, _⟩ | ⟨f, hf, hleads, ht, hcont, hc, hmin⟩
      · omega
      · refine ⟨f, hf, hleads, tail, rest, rfl, ht, hcont, hc ▸ hmin, hc ▸ isScalar_toNat c, ?_⟩
        rw [hencode]
        rfl
  · have ha : bytes.getD index 0 = a := by
      rw [List.getD_eq_getElem?_getD, ← List.head?_drop, hdrop]
      rfl
    have hascii : a ≤ 0x7f := by
      rw [UInt8.le_iff_toNat_le]
      show a.toNat ≤ 127
      omega
    unfold sequenceEnd
    dsimp only
    rw [ha]
    by_cases hzero : a = 0
    · rw [if_pos hzero]
      simp only [reduceCtorEq, false_iff]
      rintro ⟨c, hc, ⟨rest, hrest⟩, -⟩
      obtain ⟨b, tail, hencode⟩ := List.exists_cons_of_ne_nil (utf8EncodeChar_ne_nil c)
      rw [hencode, List.cons_append, List.cons.injEq] at hrest
      obtain ⟨rfl, rfl⟩ := hrest
      rcases utf8EncodeChar_eq_cons_iff.1 hencode with ⟨_, _, hvalue⟩ | ⟨f, hf, hleads, _⟩
      · rw [hzero] at hvalue
        exact hc ((hnul c).2 hvalue)
      · exact hhigh (lead_high hf hleads)
    · rw [if_neg hzero, if_pos hascii]
      constructor
      · intro h
        cases h
        obtain ⟨c, hc⟩ := exists_char (v := a.toNat) (Or.inl (a.toNat_lt.trans (by decide)))
        have hencode : String.utf8EncodeChar c = [a] :=
          utf8EncodeChar_eq_one_iff.2 ⟨by omega, hc⟩
        refine ⟨c, ?_, ⟨suffix, ?_⟩, ?_⟩
        · rw [Ne, hnul, hc]
          intro h
          exact hzero (UInt8.toNat_inj.1 h)
        · rw [hencode]
          rfl
        · rw [hencode]
          rfl
      · rintro ⟨c, -, ⟨rest, hrest⟩, rfl⟩
        obtain ⟨b, tail, hencode⟩ := List.exists_cons_of_ne_nil (utf8EncodeChar_ne_nil c)
        rw [hencode, List.cons_append, List.cons.injEq] at hrest
        obtain ⟨rfl, rfl⟩ := hrest
        rcases utf8EncodeChar_eq_cons_iff.1 hencode with ⟨_, rfl, _⟩ | ⟨f, hf, hleads, _⟩
        · rw [hencode]
          rfl
        · exact absurd (lead_high hf hleads) hhigh

/-! ## The outer loop -/

theorem validUtf8From_of_lt {bytes : List UInt8} {index : ℕ} (h : index < bytes.length) :
    validUtf8From bytes index = true ↔
      ∃ next, sequenceEnd bytes index = some next ∧ validUtf8From bytes next = true := by
  rw [validUtf8From, if_pos h]
  split
  next hnone => simp [hnone]
  next next hnext => simp [hnext]

/-- **The loop accepts the rest of the bytes** iff it is the encoding of a text without NUL. -/
theorem validUtf8From_iff (bytes : List UInt8) (index : ℕ) :
    validUtf8From bytes index = true ↔
      ∃ text : List Char, '\x00' ∉ text ∧ encode text = bytes.drop index := by
  -- The induction is on how many bytes are left; each round takes at least one of them.
  induction hleft : bytes.length - index using Nat.strong_induction_on generalizing index with
  | _ left ih =>
    by_cases h : index < bytes.length
    · rw [validUtf8From_of_lt h]
      constructor
      · rintro ⟨next, hnext, hrest⟩
        have hgt := lt_of_sequenceEnd hnext
        obtain ⟨text, hnul, htext⟩ := (ih _ (by omega) next rfl).1 hrest
        obtain ⟨c, hc, ⟨rest, hdrop⟩, rfl⟩ := (sequenceEnd_eq_some_iff h).1 hnext
        refine ⟨c :: text, ?_, ?_⟩
        · rw [List.mem_cons, not_or]
          exact ⟨Ne.symm hc, hnul⟩
        · rw [encode_cons, htext, ← List.drop_drop, hdrop, List.drop_left]
      · rintro ⟨text, hnul, htext⟩
        cases text with
        | nil =>
          rw [encode_nil, eq_comm, List.drop_eq_nil_iff] at htext
          omega
        | cons c text =>
          rw [encode_cons] at htext
          rw [List.mem_cons, not_or] at hnul
          have hnext := (sequenceEnd_eq_some_iff h).2
            ⟨c, Ne.symm hnul.1, ⟨encode text, htext.symm⟩, rfl⟩
          have hgt := lt_of_sequenceEnd hnext
          refine ⟨_, hnext, (ih _ (by omega) _ rfl).2 ⟨text, hnul.2, ?_⟩⟩
          rw [← List.drop_drop, ← htext, List.drop_left]
    · have hnil : bytes.drop index = [] := List.drop_eq_nil_iff.2 (by omega)
      rw [validUtf8From, if_neg h, hnil]
      simp only [true_iff]
      exact ⟨[], List.not_mem_nil, rfl⟩

/-- **`valid_utf8` accepts the encodings of texts without NUL** and nothing else. -/
theorem validUtf8_eq_true_iff (bytes : List UInt8) :
    validUtf8 bytes = true ↔ ∃ text : List Char, '\x00' ∉ text ∧ encode text = bytes :=
  validUtf8From_iff bytes 0

theorem zero_notMem_of_validUtf8 {bytes : List UInt8} (h : validUtf8 bytes = true) :
    (0 : UInt8) ∉ bytes := by
  obtain ⟨text, hnul, rfl⟩ := (validUtf8_eq_true_iff bytes).1 h
  intro hzero
  obtain ⟨c, hc, hmem⟩ := List.mem_flatMap.1 hzero
  obtain ⟨a, tail, hencode⟩ := List.exists_cons_of_ne_nil (utf8EncodeChar_ne_nil c)
  rw [hencode] at hmem
  have hnot : ¬IsContinuation 0 := fun h => absurd h.1 (by decide)
  rcases utf8EncodeChar_eq_cons_iff.1 hencode with
    ⟨_, rfl, hvalue⟩ | ⟨f, hf, hleads, _, hcont, _⟩
  · rw [List.mem_singleton] at hmem
    rw [← hmem] at hvalue
    have : c = '\x00' := Char.toNat_inj.1 hvalue
    exact hnul (this ▸ hc)
  · rcases List.mem_cons.1 hmem with rfl | htail
    · exact absurd (lead_high hf hleads) (by decide)
    · exact hnot (hcont 0 htail)

/-! ## The fixed field -/

theorem fixedStringLength_append {name : List UInt8} (h : (0 : UInt8) ∉ name) (rest : List UInt8) :
    fixedStringLength (name ++ 0 :: rest) = name.length := by
  induction name with
  | nil => rfl
  | cons b name ih =>
    rw [List.mem_cons, not_or] at h
    rw [List.cons_append, fixedStringLength, if_pos (Ne.symm h.1), ih h.2]
    rfl

theorem take_fixedStringLength {bytes : List UInt8} (h : fixedStringLength bytes ≠ bytes.length) :
    bytes = bytes.take (fixedStringLength bytes) ++
      0 :: bytes.drop (fixedStringLength bytes + 1) := by
  induction bytes with
  | nil => exact absurd rfl h
  | cons b bytes ih =>
    rw [fixedStringLength] at h ⊢
    split_ifs at h ⊢ with hb
    · rw [List.length_cons, Ne, Nat.add_right_cancel_iff] at h
      rw [List.take_succ_cons, List.drop_succ_cons, List.cons_append]
      exact congrArg _ (ih h)
    · rw [Nat.zero_add, List.take_zero, List.drop_succ_cons, List.drop_zero, List.nil_append,
        not_not.1 hb]

/-- **What `set_stage_name` stores** is the name and zeros behind it. -/
theorem setStageName_eq_some_iff {bytes : List UInt8} {name : StageName} :
    setStageName (some bytes) = some name ↔ bytes ≠ [] ∧ bytes.length < stageNameBytes ∧
      validUtf8 bytes = true ∧
        name.bytes = bytes ++ List.replicate (stageNameBytes - bytes.length) 0 := by
  have hne : bytes.length ≠ 0 ↔ bytes ≠ [] := List.length_eq_zero_iff.not
  unfold setStageName
  dsimp only
  split_ifs with h
  · rw [Option.some.injEq, StageName.ext_iff, ← hne]
    constructor
    · intro hname
      exact ⟨h.1, h.2.1, h.2.2, hname.symm⟩
    · intro hname
      exact hname.2.2.2.symm
  · rw [← hne]
    constructor
    · intro hname
      cases hname
    · rintro ⟨h₁, h₂, h₃, -⟩
      exact absurd ⟨h₁, h₂, h₃⟩ h

def StageName.text (name : StageName) : List UInt8 :=
  name.bytes.take (fixedStringLength name.bytes)

theorem text_of_setStageName {bytes : List UInt8} {name : StageName}
    (h : setStageName (some bytes) = some name) : name.text = bytes := by
  obtain ⟨_, hlength, hvalid, hname⟩ := setStageName_eq_some_iff.1 h
  obtain ⟨k, hk⟩ : ∃ k, stageNameBytes - bytes.length = k + 1 := ⟨_, (Nat.succ_pred (by omega)).symm⟩
  have hzero := zero_notMem_of_validUtf8 hvalid
  unfold StageName.text
  rw [hname, hk, List.replicate_succ, fixedStringLength_append hzero, List.take_left]

theorem fixedStringLength_le (bytes : List UInt8) : fixedStringLength bytes ≤ bytes.length := by
  induction bytes with
  | nil => exact le_rfl
  | cons b bytes ih =>
    rw [fixedStringLength, List.length_cons]
    split_ifs <;> omega

/-- **The reader's checks of the field hold of the stored names** and of no other field. -/
theorem field_valid_iff (name : StageName) :
    (fixedStringValid name.bytes true = true ∧ validUtf8 name.text = true) ↔
      setStageName (some name.text) = some name := by
  have htext : name.text.length = fixedStringLength name.bytes :=
    List.length_take_of_le (fixedStringLength_le _)
  constructor
  · rintro ⟨hfield, hvalid⟩
    unfold fixedStringValid at hfield
    dsimp only at hfield
    split_ifs at hfield with hends
    rw [not_or] at hends
    have hsplit : name.bytes = name.text ++ 0 :: _ := take_fixedStringLength hends.1
    have hlength := congrArg List.length hsplit
    rw [List.length_append, List.length_cons, name.length_eq] at hlength
    have hzeros := (List.eq_replicate_iff (a := (0 : UInt8))).2
      ⟨rfl, fun b hb => by simpa using List.all_eq_true.1 hfield b hb⟩
    refine setStageName_eq_some_iff.2 ⟨?_, by omega, hvalid, ?_⟩
    · intro hnil
      rw [hnil] at htext
      exact hends.2 ⟨rfl, htext.symm⟩
    · rw [show stageNameBytes - name.text.length
        = (name.bytes.drop (fixedStringLength name.bytes + 1)).length + 1 by omega,
        List.replicate_succ, ← hzeros]
      exact hsplit
  · intro h
    obtain ⟨hne, hlength, hvalid, hname⟩ := setStageName_eq_some_iff.1 h
    refine ⟨?_, hvalid⟩
    unfold fixedStringValid
    dsimp only
    rw [← htext, if_neg]
    · have hpast : name.text.drop (name.text.length + 1) = [] :=
        List.drop_eq_nil_iff.2 (Nat.le_succ _)
      rw [hname, List.drop_append, hpast, List.nil_append, List.drop_replicate, List.all_replicate]
      simp
    · rw [name.length_eq, not_or]
      refine ⟨hlength.ne, ?_⟩
      rintro ⟨-, hzero⟩
      exact hne (List.length_eq_zero_iff.1 hzero)

/-! ## The reader -/

/-- **What the shared validator accepts**: stamped samples with a stored name and its hash. -/
theorem commonSampleValid_iff (sample : SampleHead) :
    commonSampleValid sample = true ↔ (sample.validityFlags &&& 1 ≠ 0 ∧
      sample.timestampMonotonicNs ≠ 0 ∧ sample.timestampUnixNs ≠ 0 ∧ sample.stageEpoch ≠ 0) ∧
        setStageName (some sample.stageName.text) = some sample.stageName ∧
          sample.stageNameHash64 = stageNameHash sample.stageName.text := by
  rw [← field_valid_iff]
  unfold commonSampleValid
  dsimp only
  change (if _ then false else (validUtf8 sample.stageName.text &&
    sample.stageNameHash64 == stageNameHash sample.stageName.text)) = true ↔ _
  split_ifs with h
  · constructor
    · intro hfalse
      cases hfalse
    · rintro ⟨⟨h₁, h₂, h₃, h₄⟩, ⟨h₅, -⟩, -⟩
      rcases h with h | h | h | h | h
      · exact absurd h h₁
      · exact absurd h h₂
      · exact absurd h h₃
      · exact absurd h h₄
      · exact absurd h₅ h
  · simp only [not_or, not_not] at h
    obtain ⟨h₁, h₂, h₃, h₄, h₅⟩ := h
    rw [Bool.and_eq_true, beq_iff_eq]
    constructor
    · rintro ⟨hvalid, hhash⟩
      exact ⟨⟨h₁, h₂, h₃, h₄⟩, ⟨h₅, hvalid⟩, hhash⟩
    · rintro ⟨-, ⟨-, hvalid⟩, hhash⟩
      exact ⟨hvalid, hhash⟩

def SampleHead.named (sample : SampleHead) (bytes : List UInt8) (name : StageName) : SampleHead :=
  { sample with stageName := name, stageNameHash64 := stageNameHash bytes }

theorem commonSampleValid_named {bytes : List UInt8} {name : StageName}
    (h : setStageName (some bytes) = some name) (sample : SampleHead) :
    commonSampleValid (sample.named bytes name) = true ↔ sample.validityFlags &&& 1 ≠ 0 ∧
      sample.timestampMonotonicNs ≠ 0 ∧ sample.timestampUnixNs ≠ 0 ∧ sample.stageEpoch ≠ 0 := by
  have htext := text_of_setStageName h
  rw [commonSampleValid_iff]
  constructor
  · intro hvalid
    exact hvalid.1
  · intro hstamped
    refine ⟨hstamped, ?_, ?_⟩
    · show setStageName (some name.text) = some name
      rw [htext, h]
    · show stageNameHash bytes = stageNameHash name.text
      rw [htext]

theorem commonSampleValid_renamed {bytes : List UInt8} {name : StageName}
    (h : setStageName (some bytes) = some name) {sample : SampleHead}
    (hvalid : commonSampleValid sample = true) :
    commonSampleValid (sample.named bytes name) = true :=
  (commonSampleValid_named h sample).2 ((commonSampleValid_iff sample).1 hvalid).1

theorem stageName_of_commonSampleValid {sample : SampleHead}
    (h : commonSampleValid sample = true) : ∃ text : List Char, text ≠ [] ∧ '\x00' ∉ text ∧
      sample.stageName.bytes
        = encode text ++ List.replicate (stageNameBytes - (encode text).length) 0 := by
  obtain ⟨hne, -, hvalid, hname⟩ :=
    setStageName_eq_some_iff.1 ((commonSampleValid_iff sample).1 h).2.1
  obtain ⟨text, hnul, htext⟩ := (validUtf8_eq_true_iff _).1 hvalid
  refine ⟨text, ?_, hnul, ?_⟩
  · rintro rfl
    exact hne htext.symm
  · rw [htext]
    exact hname

theorem commonSampleValid_of_hand {sample : HandSample} (h : handSampleValid sample = true) :
    commonSampleValid sample = true := by
  unfold handSampleValid at h
  split_ifs at h with hbad
  rw [not_or] at hbad
  exact not_not.1 hbad.1

theorem handSampleValid_renamed {bytes : List UInt8} {name : StageName}
    (h : setStageName (some bytes) = some name) {sample : HandSample}
    (hvalid : handSampleValid sample = true) :
    handSampleValid (sample.named bytes name) = true := by
  have hcommon := commonSampleValid_of_hand hvalid
  have hrenamed := commonSampleValid_renamed h hcommon
  unfold handSampleValid at hvalid ⊢
  rw [hcommon] at hvalid
  rw [hrenamed]
  -- No other check reads the name or its hash.
  exact hvalid

section Arm

variable {F : Type} [FloatArith F]

theorem commonSampleValid_of_arm {sample : ArmSample F} (h : armSampleValid sample = true) :
    commonSampleValid sample.toSampleHead = true := by
  unfold armSampleValid at h
  split_ifs at h with hbad
  all_goals
    rw [not_or] at hbad
    exact not_not.1 hbad.1

theorem armSampleValid_renamed {bytes : List UInt8} {name : StageName}
    (h : setStageName (some bytes) = some name) {sample : ArmSample F}
    (hvalid : armSampleValid sample = true) :
    armSampleValid { sample with toSampleHead := sample.toSampleHead.named bytes name } = true := by
  have hcommon := commonSampleValid_of_arm hvalid
  have hrenamed := commonSampleValid_renamed h hcommon
  unfold armSampleValid at hvalid ⊢
  rw [hcommon] at hvalid
  dsimp only
  rw [hrenamed]
  exact hvalid

end Arm

variable (F : Type) [FloatArith F]

/-- **Strict UTF-8**: `valid_utf8` accepts the encodings of the texts of scalar values without NUL
and nothing else. Hence a name that `set_stage_name` stores passes the validator of either stream in
every sample that is valid otherwise, and every name that a validator accepts is such an encoding,
ended by a NUL. -/
theorem strict_utf8 :
    (∀ bytes, validUtf8 bytes = true ↔ ∃ text : List Char, '\x00' ∉ text ∧ encode text = bytes) ∧
    (∀ bytes name, setStageName (some bytes) = some name →
      (∀ sample : SampleHead, commonSampleValid (sample.named bytes name) = true ↔
        sample.validityFlags &&& 1 ≠ 0 ∧ sample.timestampMonotonicNs ≠ 0 ∧
          sample.timestampUnixNs ≠ 0 ∧ sample.stageEpoch ≠ 0) ∧
      (∀ sample : ArmSample F, armSampleValid sample = true →
        armSampleValid { sample with toSampleHead := sample.toSampleHead.named bytes name } = true) ∧
      (∀ sample : HandSample, handSampleValid sample = true →
        handSampleValid (sample.named bytes name) = true)) ∧
    (∀ sample : SampleHead, commonSampleValid sample = true →
      ∃ text : List Char, text ≠ [] ∧ '\x00' ∉ text ∧ sample.stageName.bytes
        = encode text ++ List.replicate (stageNameBytes - (encode text).length) 0) ∧
    (∀ sample : ArmSample F, armSampleValid sample = true →
      commonSampleValid sample.toSampleHead = true) ∧
    (∀ sample : HandSample, handSampleValid sample = true → commonSampleValid sample = true) := by
  refine ⟨validUtf8_eq_true_iff, ?_, fun _ => stageName_of_commonSampleValid,
    fun _ => commonSampleValid_of_arm, fun _ => commonSampleValid_of_hand⟩
  intro bytes name h
  exact ⟨commonSampleValid_named h, fun _ => armSampleValid_renamed h,
    fun _ => handSampleValid_renamed h⟩

/-- Two characters of three bytes each are accepted, and an overlong NUL is not. -/
example : validUtf8 [230, 138, 147, 229, 143, 150] = true ∧ validUtf8 [192, 128] = false := by
  decide +kernel

end FrankaDeploy.Telemetry
