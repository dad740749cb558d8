import FrankaDeploy.Foundation.Monitor
import FrankaDeploy.Telemetry.Stream

/-! # The telemetry stream is tear-free and monotone

Every interleaving of the atomic operations of any writers and readers keeps the slots, the latest
sequence and the program counters of the threads consistent with the publishes so far. A reader that
found the guard of a completed publish twice copied the words of that publish: the sequence in a
guard never decreases, and the words of a slot change only together with it. -/

namespace FrankaDeploy.Telemetry

open FrankaDeploy.Foundation

variable {C R : Type} {n : ℕ}

/-! ## What a trace records -/

def begun (t : List (TelemetryEvent C R n)) : List (Sample n) :=
  t.filterMap fun
    | .publishBegun _ _ sample => some sample
    | _ => none

def published (t : List (TelemetryEvent C R n)) : List (Sample n) :=
  t.filterMap fun
    | .published _ _ sample => some sample
    | _ => none

def publishedSequences (t : List (TelemetryEvent C R n)) : List ℕ :=
  t.filterMap fun
    | .published _ sequence _ => some sequence
    | _ => none

/-- The sequences that `publish` returned with success. -/
def returnedSequences (t : List (TelemetryEvent C R n)) : List ℕ :=
  t.filterMap fun
    | .publishReturned _ .ok sequence => some sequence
    | _ => none

def readSequences [DecidableEq R] (r : R) (t : List (TelemetryEvent C R n)) : List ℕ :=
  t.filterMap fun
    | .readReturned r' ⟨.ok, _, sequence⟩ _ => if r' = r then some sequence else none
    | _ => none

/-- **How far the publishes have come**: the samples that began, and how many of them were published
and returned. -/
structure StreamLog (n : ℕ) where
  begun : List (Sample n)
  published : ℕ
  returned : ℕ

def logOf (t : List (TelemetryEvent C R n)) : StreamLog n :=
  ⟨begun t, (published t).length, (returnedSequences t).length⟩

def StreamLog.extend (L : StreamLog n) : TelemetryEvent C R n → StreamLog n
  | .publishBegun _ _ sample => { L with begun := L.begun ++ [sample] }
  | .published _ _ _ => { L with published := L.published + 1 }
  | .publishReturned _ .ok _ => { L with returned := L.returned + 1 }
  | _ => L

theorem logOf_snoc (t : List (TelemetryEvent C R n)) (event : TelemetryEvent C R n) :
    logOf (t ++ [event]) = (logOf t).extend event := by
  cases event with
  | claimReturned c code => simp [logOf, begun, published, returnedSequences, StreamLog.extend]
  | publishBegun c sequence sample =>
    simp [logOf, begun, published, returnedSequences, StreamLog.extend]
  | published c sequence sample =>
    simp [logOf, begun, published, returnedSequences, StreamLog.extend]
  | publishReturned c code sequence =>
    cases code <;> simp [logOf, begun, published, returnedSequences, StreamLog.extend]
  | readReturned r result output =>
    simp [logOf, begun, published, returnedSequences, StreamLog.extend]

/-! ## Guards -/

theorem stableGuard_of_le {sequence : ℕ} (h : sequence ≤ maximumSequence) :
    stableGuard sequence = 2 * sequence := by
  unfold maximumSequence at h
  unfold stableGuard
  omega

theorem oddGuard_of_le {sequence : ℕ} (h : sequence ≤ maximumSequence) :
    stableGuard sequence ||| 1 = 2 * sequence + 1 := by
  rw [stableGuard_of_le h]
  exact (Nat.two_pow_add_eq_or_of_lt (i := 1) (by decide : 1 < 2 ^ 1) sequence).symm

theorem nextOf_of_le {sequence : ℕ} (h : sequence ≤ maximumSequence) :
    nextOf sequence = sequence + 1 := by
  unfold maximumSequence at h
  unfold nextOf
  omega

@[simp] theorem slot_setSlot (S : Stream n) (sequence : ℕ) (slot : AtomicSlot n) :
    (S.setSlot sequence slot).slot sequence = slot := by
  simp [Stream.slot, Stream.setSlot]

@[simp] theorem control_setSlot (S : Stream n) (sequence : ℕ) (slot : AtomicSlot n) :
    (S.setSlot sequence slot).control = S.control := rfl

theorem slots_setSlot (S : Stream n) (sequence : ℕ) (slot : AtomicSlot n) (b : Fin 2) :
    (S.setSlot sequence slot).slots b = if b = slotIndex sequence then slot else S.slots b := by
  simp only [Stream.setSlot, Function.update_apply]

theorem slots_setSlot_of_ne (S : Stream n) {sequence : ℕ} (slot : AtomicSlot n) {b : Fin 2}
    (hb : b ≠ slotIndex sequence) : (S.setSlot sequence slot).slots b = S.slots b := by
  rw [slots_setSlot, if_neg hb]

/-! ## Consistency -/

structure Idle (L : StreamLog n) (S : Stream n) : Prop where
  begun : L.begun.length = L.published
  returned : L.returned = L.published
  guards : ∀ b, (S.slots b).guard / 2 ≤ L.published

/-- **The slot of the sequence that is being written**: its guard, and how many of its words are
those of the sample already. -/
structure Writing (L : StreamLog n) (S : Stream n) (sequence : ℕ) (sample : Sample n)
    (guard written : ℕ) : Prop where
  guard_eq : (S.slot sequence).guard = guard
  words : ∀ j : Fin n, j < written → (S.slot sequence).words j = sample j
  others : ∀ b, b ≠ slotIndex sequence → (S.slots b).guard / 2 ≤ L.published

structure Begun (L : StreamLog n) (sequence : ℕ) (sample : Sample n) : Prop where
  sequence_eq : sequence = L.published + 1
  begun : L.begun.length = L.published + 1
  sample_eq : L.begun[L.published]? = some sample
  returned : L.returned = L.published

/-- **The program counter of a publish agrees with the memory.** -/
def PublishOk (L : StreamLog n) (S : Stream n) (sequence : ℕ) (sample : Sample n) :
    PublishStep n → Prop
  | .exchangeGuard => Begun L sequence sample ∧ ∀ b, (S.slots b).guard / 2 ≤ L.published
  | .storeWord index =>
    Begun L sequence sample ∧ Writing L S sequence sample (2 * sequence + 1) index
  | .storeGuard => Begun L sequence sample ∧ Writing L S sequence sample (2 * sequence + 1) n
  | .storePublished => Begun L sequence sample ∧ Writing L S sequence sample (2 * sequence) n
  | .countPublish =>
    sequence = L.published ∧ L.begun.length = L.published ∧ L.returned + 1 = L.published ∧
      ∀ b, (S.slots b).guard / 2 ≤ L.published

/-- **The state of a writer agrees with the memory.** -/
def WriterOk (L : StreamLog n) (S : Stream n) : WriterState n → Prop
  | .absent => True
  | .claimed token _ => (S.control.writerClaim = token ∧ token ≠ 0) ∧ Idle L S
  | .abandoning token => (S.control.writerClaim = token ∧ token ≠ 0) ∧ Idle L S
  | .holding token nextSequence =>
    (S.control.writerClaim = token ∧ token ≠ 0) ∧ Idle L S ∧ nextSequence = L.published + 1
  | .publishing token sequence sample step =>
    (S.control.writerClaim = token ∧ token ≠ 0) ∧ sequence ≤ maximumSequence ∧
      PublishOk L S sequence sample step

/-- **The copy matches the slot** up to the word `k`, unless a later publish took the slot. -/
structure Matched (S : Stream n) (sequence : ℕ) (encoded : Sample n) (k : ℕ) : Prop where
  guard : sequence ≤ (S.slot sequence).guard / 2
  words : (S.slot sequence).guard / 2 = sequence →
    ∀ j : Fin n, j < k → encoded j = (S.slot sequence).words j

def IsPublished (L : StreamLog n) (sequence : ℕ) : Prop := 1 ≤ sequence ∧ sequence ≤ L.published

/-- **The program counter of a read agrees with the memory.** -/
def ReadOk (L : StreamLog n) (S : Stream n) (encoded : Sample n) : ReadStep n → Prop
  | .loadPublished => True
  | .loadGuard sequence => IsPublished L sequence
  | .loadWord sequence index => IsPublished L sequence ∧ Matched S sequence encoded index
  | .loadGuardAgain sequence => IsPublished L sequence ∧ Matched S sequence encoded n
  | .loadLatest sequence after =>
    IsPublished L sequence ∧
      (after = 2 * sequence → L.begun[sequence - 1]? = some encoded)

/-- **The threads, the memory and the publishes so far agree.** -/
structure Consistent (L : StreamLog n) (s : TelemetryState C R n) : Prop where
  latest : s.stream.control.publishedSequence = L.published
  bound : L.published ≤ maximumSequence
  unclaimed : s.stream.control.writerClaim = 0 → Idle L s.stream
  writers : ∀ c, WriterOk L s.stream (s.writers c)
  exclusive : ∀ c c', s.writers c ≠ .absent → s.writers c' ≠ .absent → c = c'
  slots : ∀ b q, (s.stream.slots b).guard = 2 * q → q = 0 ∨
    L.begun[q - 1]? = some (s.stream.slots b).words
  readers : ∀ r reading, s.readers r = some reading →
    ReadOk L s.stream reading.encoded reading.step

/-! ## What a change of the memory keeps -/

/-- **A later memory**: no sequence in a guard went back, and a slot that kept a published sequence
kept its words. -/
structure Later (L : StreamLog n) (S S' : Stream n) : Prop where
  guard : ∀ b, (S.slots b).guard / 2 ≤ (S'.slots b).guard / 2
  words : ∀ b, (S'.slots b).guard / 2 = (S.slots b).guard / 2 →
    (S.slots b).guard / 2 ≤ L.published → (S'.slots b).words = (S.slots b).words

theorem later_of_slots_eq {L : StreamLog n} {S S' : Stream n} (h : S'.slots = S.slots) :
    Later L S S' := by
  constructor
  · intro b
    rw [h]
  · intro b _ _
    rw [h]

theorem later_setSlot {L : StreamLog n} {S : Stream n} {sequence : ℕ} {slot : AtomicSlot n}
    (hguard : (S.slot sequence).guard / 2 ≤ slot.guard / 2)
    (hwords : slot.guard / 2 = (S.slot sequence).guard / 2 →
      (S.slot sequence).guard / 2 ≤ L.published → slot.words = (S.slot sequence).words) :
    Later L S (S.setSlot sequence slot) := by
  constructor
  · intro b
    rw [slots_setSlot]
    by_cases hb : b = slotIndex sequence
    · subst hb
      rwa [if_pos rfl]
    · rw [if_neg hb]
  · intro b
    rw [slots_setSlot]
    by_cases hb : b = slotIndex sequence
    · subst hb
      rwa [if_pos rfl]
    · rw [if_neg hb]
      exact fun _ _ => rfl

structure StreamLog.Le (L L' : StreamLog n) : Prop where
  begun : ∀ (i : ℕ) sample, L.begun[i]? = some sample → L'.begun[i]? = some sample
  published : L.published ≤ L'.published

theorem StreamLog.le_refl (L : StreamLog n) : L.Le L := ⟨fun _ _ h => h, le_rfl⟩

theorem StreamLog.le_extend (L : StreamLog n) (event : TelemetryEvent C R n) :
    L.Le (L.extend event) := by
  cases event with
  | claimReturned c code => exact L.le_refl
  | publishBegun c sequence sample =>
    refine ⟨fun i sample' h => ?_, le_rfl⟩
    obtain ⟨hi, -⟩ := List.getElem?_eq_some_iff.1 h
    rw [← h]
    exact List.getElem?_append_left hi
  | published c sequence sample => exact ⟨fun _ _ h => h, Nat.le_succ _⟩
  | publishReturned c code sequence => cases code <;> exact ⟨fun _ _ h => h, le_rfl⟩
  | readReturned r result output => exact L.le_refl

theorem Matched.later {L : StreamLog n} {S S' : Stream n} {sequence k : ℕ} {encoded : Sample n}
    (h : Matched S sequence encoded k) (hpublished : IsPublished L sequence) (hS : Later L S S') :
    Matched S' sequence encoded k := by
  have hguard : (S.slot sequence).guard / 2 ≤ (S'.slot sequence).guard / 2 := hS.guard _
  refine ⟨h.guard.trans hguard, fun heq j hj => ?_⟩
  -- The guard was at the sequence before as well, because it never goes back.
  have hbefore : (S.slot sequence).guard / 2 = sequence :=
    le_antisymm (hguard.trans heq.le) h.guard
  have hwords : (S'.slot sequence).words = (S.slot sequence).words :=
    hS.words _ (heq.trans hbefore.symm) (hbefore.le.trans hpublished.2)
  rw [hwords]
  exact h.words hbefore j hj

theorem IsPublished.mono {L L' : StreamLog n} {sequence : ℕ} (h : IsPublished L sequence)
    (hL : L.Le L') : IsPublished L' sequence := ⟨h.1, h.2.trans hL.published⟩

theorem ReadOk.later {L L' : StreamLog n} {S S' : Stream n} {encoded : Sample n}
    {step : ReadStep n} (h : ReadOk L S encoded step) (hL : L.Le L') (hS : Later L S S') :
    ReadOk L' S' encoded step := by
  cases step with
  | loadPublished => trivial
  | loadGuard sequence => exact IsPublished.mono h hL
  | loadWord sequence index => exact ⟨h.1.mono hL, h.2.later h.1 hS⟩
  | loadGuardAgain sequence => exact ⟨h.1.mono hL, h.2.later h.1 hS⟩
  | loadLatest sequence after =>
    exact ⟨h.1.mono hL, fun hafter => hL.begun _ _ (h.2 hafter)⟩

theorem slots_mono {L L' : StreamLog n} {slot : AtomicSlot n} {q : ℕ}
    (h : q = 0 ∨ L.begun[q - 1]? = some slot.words) (hL : L.Le L') :
    q = 0 ∨ L'.begun[q - 1]? = some slot.words :=
  h.imp_right (hL.begun _ _)

theorem Consistent.slots_setSlot {L : StreamLog n} {s : TelemetryState C R n}
    (h : Consistent L s) {sequence : ℕ} {slot : AtomicSlot n}
    (hslot : ∀ q, slot.guard = 2 * q → q = 0 ∨ L.begun[q - 1]? = some slot.words) (b : Fin 2)
    (q : ℕ) (hq : ((s.stream.setSlot sequence slot).slots b).guard = 2 * q) :
    q = 0 ∨ L.begun[q - 1]? = some ((s.stream.setSlot sequence slot).slots b).words := by
  rw [Telemetry.slots_setSlot] at hq ⊢
  by_cases hb : b = slotIndex sequence
  · rw [if_pos hb] at hq ⊢
    exact hslot q hq
  · rw [if_neg hb] at hq ⊢
    exact h.slots b q hq

/-! ## One operation of a writer -/

section Writer

variable [DecidableEq C] {L L' : StreamLog n} {s : TelemetryState C R n} {c : C}

/-- **A move of the only writer** keeps the agreement when it leaves its own state, the control
words and the slots in agreement and the memory later. -/
theorem Consistent.withWriter (h : Consistent L s) {S' : Stream n} {w' : WriterState n}
    (honly : ∀ c', c' ≠ c → s.writers c' = .absent) (hlater : Later L s.stream S')
    (hL : L.Le L') (hlatest : S'.control.publishedSequence = L'.published)
    (hbound : L'.published ≤ maximumSequence)
    (hunclaimed : S'.control.writerClaim = 0 → Idle L' S') (hw : WriterOk L' S' w')
    (hslots : ∀ b q, (S'.slots b).guard = 2 * q → q = 0 ∨
      L'.begun[q - 1]? = some (S'.slots b).words) :
    Consistent L' { s with stream := S', writers := Function.update s.writers c w' } where
  latest := hlatest
  bound := hbound
  unclaimed := hunclaimed
  writers := by
    intro c'
    show WriterOk L' S' (Function.update s.writers c w' c')
    by_cases hc : c' = c
    · subst hc
      rw [Function.update_self]
      exact hw
    · rw [Function.update_of_ne hc, honly c' hc]
      trivial
  exclusive := by
    have hne : ∀ c', Function.update s.writers c w' c' ≠ .absent → c' = c := by
      intro c' hpresent
      by_contra hc
      rw [Function.update_of_ne hc] at hpresent
      exact hpresent (honly c' hc)
    intro c₁ c₂ h₁ h₂
    rw [hne c₁ h₁, hne c₂ h₂]
  slots := hslots
  readers r reading hr := (h.readers r reading hr).later hL hlater

omit [DecidableEq C] in
theorem Consistent.only (h : Consistent L s) (hpresent : s.writers c ≠ .absent) (c' : C)
    (hc : c' ≠ c) : s.writers c' = .absent := by
  by_contra habsent
  exact hc (h.exclusive c' c habsent hpresent)

omit [DecidableEq C] in
theorem Consistent.absent_of_unclaimed (h : Consistent L s)
    (hclaim : s.stream.control.writerClaim = 0) (c : C) : s.writers c = .absent := by
  have hok := h.writers c
  cases hw : s.writers c with
  | absent => rfl
  | claimed token allocated =>
    rw [hw] at hok
    exact absurd (hok.1.1.symm.trans hclaim) hok.1.2
  | abandoning token =>
    rw [hw] at hok
    exact absurd (hok.1.1.symm.trans hclaim) hok.1.2
  | holding token nextSequence =>
    rw [hw] at hok
    exact absurd (hok.1.1.symm.trans hclaim) hok.1.2
  | publishing token sequence sample step =>
    rw [hw] at hok
    exact absurd (hok.1.1.symm.trans hclaim) hok.1.2

theorem Consistent.setWriter (h : Consistent L s) {w' : WriterState n}
    (hpresent : s.writers c ≠ .absent) (hw : WriterOk L s.stream w') :
    Consistent L { s with writers := Function.update s.writers c w' } :=
  h.withWriter (h.only hpresent) (later_of_slots_eq rfl) L.le_refl h.latest h.bound h.unclaimed hw
    h.slots

theorem Consistent.release (h : Consistent L s) {token : ℕ} (hpresent : s.writers c ≠ .absent)
    (hclaim : s.stream.control.writerClaim = token) (hidle : Idle L s.stream) :
    Consistent L
      { s with
        stream := releaseStream s.stream token, writers := Function.update s.writers c .absent } := by
  rw [releaseStream, if_pos hclaim]
  exact h.withWriter (h.only hpresent) (later_of_slots_eq rfl) L.le_refl h.latest h.bound
    (fun _ => ⟨hidle.begun, hidle.returned, hidle.guards⟩) trivial h.slots

theorem Consistent.claim (h : Consistent L s) {token : ℕ} (allocated : Bool) (htoken : token ≠ 0)
    (hclaim : s.stream.control.writerClaim = 0) :
    Consistent L
      { s with
        stream := { s.stream with control := { s.stream.control with writerClaim := token } }
        writers := Function.update s.writers c (.claimed token allocated) } := by
  have hidle := h.unclaimed hclaim
  exact h.withWriter (fun c' _ => h.absent_of_unclaimed hclaim c') (later_of_slots_eq rfl) L.le_refl
    h.latest h.bound (fun hzero => absurd hzero htoken)
    ⟨⟨rfl, htoken⟩, hidle.begun, hidle.returned, hidle.guards⟩ h.slots

theorem Consistent.takeSequence (h : Consistent L s) {token nextSequence : ℕ} {sample : Sample n}
    (hw : s.writers c = .holding token nextSequence) (hmax : nextSequence ≤ maximumSequence) :
    Consistent (L.extend (.publishBegun c nextSequence sample : TelemetryEvent C R n))
      { s with
        writers := Function.update s.writers c
          (.publishing token nextSequence sample .exchangeGuard) } := by
  have hok := h.writers c
  rw [hw] at hok
  obtain ⟨hclaim, hidle, hnext⟩ := hok
  have hL := L.le_extend (.publishBegun c nextSequence sample : TelemetryEvent C R n)
  refine h.withWriter (h.only (by simp [hw])) (later_of_slots_eq rfl) hL h.latest h.bound
    (fun hzero => absurd (hclaim.1.symm.trans hzero) hclaim.2) ⟨hclaim, hmax, ⟨hnext, ?_, ?_, ?_⟩, ?_⟩
    fun b q hq => slots_mono (h.slots b q hq) hL
  · simp [StreamLog.extend, hidle.begun]
  · simp [StreamLog.extend, ← hidle.begun]
  · exact hidle.returned
  · exact hidle.guards

theorem publishOk_wordsFrom {S : Stream n} {sequence k : ℕ} {sample : Sample n}
    (hbegun : Begun L sequence sample) (hk : k ≤ n)
    (hwriting : Writing L S sequence sample (2 * sequence + 1) k) :
    PublishOk L S sequence sample (.wordsFrom n k) := by
  unfold PublishStep.wordsFrom
  by_cases hlt : k < n
  · rw [dif_pos hlt]
    exact ⟨hbegun, hwriting⟩
  · obtain rfl : k = n := le_antisymm hk (not_lt.1 hlt)
    rw [dif_neg hlt]
    exact ⟨hbegun, hwriting⟩

theorem Consistent.publishStep (h : Consistent L s) {token sequence : ℕ} {sample : Sample n}
    {step : PublishStep n} (hw : s.writers c = .publishing token sequence sample step) :
    Consistent (((publishStep c s.stream token sequence sample step).2.2 :
        List (TelemetryEvent C R n)).foldl StreamLog.extend L)
      (s.withWriter c (publishStep c s.stream token sequence sample step)).1 := by
  have hok := h.writers c
  rw [hw] at hok
  obtain ⟨hclaim, hmax, hstep⟩ := hok
  have honly := h.only (c := c) (by simp [hw])
  have hclaimed : s.stream.control.writerClaim ≠ 0 := fun hzero =>
    hclaim.2 (hclaim.1.symm.trans hzero)
  cases step with
  | exchangeGuard =>
    obtain ⟨hbegun, hguards⟩ := hstep
    have hbefore : (s.stream.slot sequence).guard / 2 < sequence := by
      have hpublished : (s.stream.slot sequence).guard / 2 ≤ L.published := hguards _
      have hnext := hbegun.sequence_eq
      omega
    simp only [Telemetry.publishStep, oddGuard_of_le hmax]
    -- The odd guard belongs to no published sequence, so no reader can be copying this slot.
    refine h.withWriter honly (later_setSlot ?_ ?_) L.le_refl h.latest h.bound
      (fun hzero => absurd hzero hclaimed) ⟨hclaim, hmax, ?_⟩ (h.slots_setSlot ?_)
    · show _ ≤ (2 * sequence + 1) / 2
      omega
    · intro heq _
      simp only at heq
      omega
    · refine publishOk_wordsFrom hbegun (Nat.zero_le n) ⟨by simp, fun j hj => by omega, ?_⟩
      intro b hb
      rw [slots_setSlot_of_ne _ _ hb]
      exact hguards b
    · intro q hq
      simp only at hq
      omega
  | storeWord index =>
    obtain ⟨hbegun, hwriting⟩ := hstep
    have hguard := hwriting.guard_eq
    have hnext := hbegun.sequence_eq
    simp only [Telemetry.publishStep]
    refine h.withWriter honly (later_setSlot le_rfl fun _ hpublished => ?_) L.le_refl h.latest
      h.bound (fun hzero => absurd hzero hclaimed) ⟨hclaim, hmax, ?_⟩ (h.slots_setSlot ?_)
    · -- The slot holds the sequence that is not published yet.
      omega
    · refine publishOk_wordsFrom hbegun index.isLt ⟨by simpa using hguard, fun j hj => ?_, ?_⟩
      · rw [slot_setSlot]
        show Function.update (s.stream.slot sequence).words index (sample index) j = sample j
        by_cases hj' : j = index
        · subst hj'
          exact Function.update_self ..
        · rw [Function.update_of_ne hj']
          refine hwriting.words j ?_
          have hne : (j : ℕ) ≠ index := fun heq => hj' (Fin.ext heq)
          omega
      · intro b hb
        rw [slots_setSlot_of_ne _ _ hb]
        exact hwriting.others b hb
    · intro q hq
      simp only at hq
      omega
  | storeGuard =>
    obtain ⟨hbegun, hwriting⟩ := hstep
    have hguard := hwriting.guard_eq
    have hnext := hbegun.sequence_eq
    have hwords : (s.stream.slot sequence).words = sample :=
      funext fun j => hwriting.words j j.isLt
    simp only [Telemetry.publishStep, stableGuard_of_le hmax]
    refine h.withWriter honly (later_setSlot ?_ fun _ _ => rfl) L.le_refl h.latest
      h.bound (fun hzero => absurd hzero hclaimed) ⟨hclaim, hmax, hbegun, ?_⟩ (h.slots_setSlot ?_)
    · show _ ≤ 2 * sequence / 2
      omega
    · refine ⟨by simp, fun j _ => ?_, fun b hb => ?_⟩
      · rw [slot_setSlot]
        exact congrFun hwords j
      · rw [slots_setSlot_of_ne _ _ hb]
        exact hwriting.others b hb
    · intro q hq
      simp only at hq
      obtain rfl : q = L.published + 1 := by omega
      refine .inr ?_
      rw [hwords]
      exact hbegun.sample_eq
  | storePublished =>
    obtain ⟨hbegun, hwriting⟩ := hstep
    have hguard := hwriting.guard_eq
    have hnext := hbegun.sequence_eq
    have hL := L.le_extend (.published c sequence sample : TelemetryEvent C R n)
    simp only [Telemetry.publishStep, List.foldl_cons, List.foldl_nil]
    refine h.withWriter honly (later_of_slots_eq rfl) hL hnext ?_
      (fun hzero => absurd hzero hclaimed) ⟨hclaim, hmax, hnext, hbegun.begun, ?_, ?_⟩
      fun b q hq => slots_mono (h.slots b q hq) hL
    · show L.published + 1 ≤ maximumSequence
      omega
    · show L.returned + 1 = L.published + 1
      rw [hbegun.returned]
    · intro b
      show (s.stream.slots b).guard / 2 ≤ L.published + 1
      by_cases hb : b = slotIndex sequence
      · subst hb
        have : (s.stream.slots (slotIndex sequence)).guard = 2 * sequence := hguard
        omega
      · exact (hwriting.others b hb).trans (Nat.le_succ _)
  | countPublish =>
    obtain ⟨hsequence, hbegun, hreturned, hguards⟩ := hstep
    have hL := L.le_extend (.publishReturned c .ok sequence : TelemetryEvent C R n)
    simp only [Telemetry.publishStep, List.foldl_cons, List.foldl_nil, nextOf_of_le hmax]
    refine h.withWriter honly (later_of_slots_eq rfl) hL h.latest h.bound
      (fun hzero => absurd hzero hclaimed)
      ⟨hclaim, ⟨hbegun, hreturned, hguards⟩, congrArg (· + 1) hsequence⟩
      fun b q hq => slots_mono (h.slots b q hq) hL

theorem Consistent.writerStep (h : Consistent L s) (c : C) :
    Consistent (((writerStep c s.stream (s.writers c)).2.2 :
        List (TelemetryEvent C R n)).foldl StreamLog.extend L)
      (s.withWriter c (writerStep c s.stream (s.writers c))).1 := by
  have hok := h.writers c
  have hsame : Consistent L { s with writers := Function.update s.writers c (s.writers c) } := by
    rwa [Function.update_eq_self]
  cases hw : s.writers c with
  | absent =>
    rw [hw] at hsame
    exact hsame
  | claimed token allocated =>
    rw [hw] at hok
    obtain ⟨hclaim, hidle⟩ := hok
    have hpresent : s.writers c ≠ .absent := by simp [hw]
    cases allocated with
    | true =>
      refine h.setWriter hpresent ⟨hclaim, hidle, ?_⟩
      rw [h.latest, nextOf_of_le h.bound]
    | false => exact h.setWriter hpresent ⟨hclaim, hidle⟩
  | abandoning token =>
    rw [hw] at hok
    exact h.release (by simp [hw]) hok.1.1 hok.2
  | holding token nextSequence =>
    rw [hw] at hsame
    exact hsame
  | publishing token sequence sample step => exact h.publishStep hw

theorem Consistent.beginPublish (h : Consistent L s) (validate : Sample n → Bool)
    {token nextSequence : ℕ} (sample : Sample n) (hw : s.writers c = .holding token nextSequence) :
    Consistent (((beginPublish validate c token nextSequence sample).2 :
        List (TelemetryEvent C R n)).foldl StreamLog.extend L)
      (s.withWriter c
        (s.stream, (beginPublish validate c token nextSequence sample :
          WriterState n × List (TelemetryEvent C R n)))).1 := by
  have hsame : Consistent L
      { s with writers := Function.update s.writers c (.holding token nextSequence) } := by
    rw [← hw]
    rwa [Function.update_eq_self]
  unfold Telemetry.beginPublish
  by_cases hvalid : validate sample = false
  · rw [if_pos hvalid]
    exact hsame
  rw [if_neg hvalid]
  by_cases hexhausted : nextSequence = 0 ∨ maximumSequence < nextSequence
  · rw [if_pos hexhausted]
    exact hsame
  · rw [if_neg hexhausted]
    exact h.takeSequence hw (not_lt.1 fun hlt => hexhausted (.inr hlt))

theorem Consistent.claimStream (h : Consistent L s) (token : ℕ) (writable allocated : Bool)
    (hw : s.writers c = .absent) :
    Consistent (((claimStream c s.stream token writable allocated).2.2 :
        List (TelemetryEvent C R n)).foldl StreamLog.extend L)
      (s.withWriter c (claimStream c s.stream token writable allocated)).1 := by
  have hsame : Consistent L { s with writers := Function.update s.writers c .absent } := by
    rw [← hw]
    rwa [Function.update_eq_self]
  unfold Telemetry.claimStream
  by_cases hwritable : writable = false
  · rw [if_pos hwritable]
    exact hsame
  rw [if_neg hwritable]
  by_cases htoken : token = 0
  · rw [if_pos htoken]
    exact hsame
  rw [if_neg htoken]
  by_cases hclaim : s.stream.control.writerClaim = 0
  · rw [if_pos hclaim]
    exact h.claim allocated htoken hclaim
  · rw [if_neg hclaim]
    exact hsame

end Writer

/-! ## One operation of a reader -/

section Reader

variable [DecidableEq R] {L : StreamLog n} {s : TelemetryState C R n} {r : R}

theorem Consistent.setReader (h : Consistent L s) {next : Option (Reading n)}
    (hnext : ∀ reading, next = some reading → ReadOk L s.stream reading.encoded reading.step) :
    Consistent L { s with readers := Function.update s.readers r next } where
  latest := h.latest
  bound := h.bound
  unclaimed := h.unclaimed
  writers := h.writers
  exclusive := h.exclusive
  slots := h.slots
  readers := by
    intro r' reading hr
    replace hr : Function.update s.readers r next r' = some reading := hr
    by_cases hr' : r' = r
    · subst hr'
      rw [Function.update_self] at hr
      exact hnext reading hr
    · rw [Function.update_of_ne hr'] at hr
      exact h.readers r' reading hr

omit [DecidableEq R] in
theorem readOk_wordsFrom {S : Stream n} {sequence k : ℕ} {encoded : Sample n}
    (hpublished : IsPublished L sequence) (hk : k ≤ n) (hmatched : Matched S sequence encoded k) :
    ReadOk L S encoded (.wordsFrom n sequence k) := by
  unfold ReadStep.wordsFrom
  by_cases hlt : k < n
  · rw [dif_pos hlt]
    exact ⟨hpublished, hmatched⟩
  · obtain rfl : k = n := le_antisymm hk (not_lt.1 hlt)
    rw [dif_neg hlt]
    exact ⟨hpublished, hmatched⟩

omit [DecidableEq R] in
theorem readOk_retry {S : Stream n} {reading next : Reading n}
    (hnext : (retry r reading : Option (Reading n) × List (TelemetryEvent C R n)).1 = some next) :
    ReadOk L S next.encoded next.step := by
  unfold retry at hnext
  by_cases hmore : reading.attempt < reading.maxAttempts
  · rw [if_pos hmore] at hnext
    cases hnext
    trivial
  · rw [if_neg hmore] at hnext
    cases hnext

omit [DecidableEq R] in
/-- **One atomic operation of a read** leaves it in agreement with the memory. -/
theorem Consistent.readOk_readStep (h : Consistent L s) (validate : Sample n → Bool)
    {reading next : Reading n} (hr : s.readers r = some reading)
    (hnext : (readStep validate r s.stream reading :
      Option (Reading n) × List (TelemetryEvent C R n)).1 = some next) :
    ReadOk L s.stream next.encoded next.step := by
  have hok := h.readers r reading hr
  unfold readStep at hnext
  cases hstep : reading.step with
  | loadPublished =>
    rw [hstep] at hnext
    by_cases hzero : s.stream.control.publishedSequence = 0
    · simp [hzero] at hnext
    · simp only [hzero, if_false, Option.some.injEq] at hnext
      subst hnext
      have hlatest := h.latest
      exact ⟨by omega, hlatest.le⟩
  | loadGuard sequence =>
    rw [hstep] at hnext hok
    have hmax := hok.2.trans h.bound
    by_cases hguard : (s.stream.slot sequence).guard = stableGuard sequence
    · simp only [hguard, ne_eq, not_true_eq_false, if_false, Option.some.injEq] at hnext
      subst hnext
      rw [stableGuard_of_le hmax] at hguard
      refine readOk_wordsFrom hok (Nat.zero_le n) ⟨by omega, fun _ j hj => by omega⟩
    · simp only [ne_eq, hguard, not_false_eq_true, if_true] at hnext
      exact readOk_retry hnext
  | loadWord sequence index =>
    rw [hstep] at hnext hok
    obtain ⟨hpublished, hmatched⟩ := hok
    simp only [Option.some.injEq] at hnext
    subst hnext
    refine readOk_wordsFrom hpublished index.isLt ⟨hmatched.guard, fun heq j hj => ?_⟩
    by_cases hj' : j = index
    · subst hj'
      exact Function.update_self ..
    · show Function.update reading.encoded index ((s.stream.slot sequence).words index) j = _
      rw [Function.update_of_ne hj']
      refine hmatched.words heq j ?_
      have hne : (j : ℕ) ≠ index := fun heq => hj' (Fin.ext heq)
      omega
  | loadGuardAgain sequence =>
    rw [hstep] at hnext hok
    obtain ⟨hpublished, hmatched⟩ := hok
    simp only [Option.some.injEq] at hnext
    subst hnext
    refine ⟨hpublished, fun hafter => ?_⟩
    -- The guard is still the one of this sequence, so the copy is the published sample.
    have hslot := h.slots (slotIndex sequence) sequence hafter
    have hcopy : reading.encoded = (s.stream.slot sequence).words :=
      funext fun j => hmatched.words (by rw [hafter]; omega) j j.isLt
    rcases hslot with hzero | hsample
    · exact absurd hzero (by have := hpublished.1; omega)
    · rw [hcopy]
      exact hsample
  | loadLatest sequence after =>
    rw [hstep] at hnext
    dsimp only at hnext
    by_cases hstable :
        after = stableGuard sequence ∧ s.stream.control.publishedSequence = sequence
    · rw [if_pos hstable] at hnext
      by_cases hvalid : validate reading.encoded = false
      · rw [if_pos hvalid] at hnext
        exact readOk_retry hnext
      · rw [if_neg hvalid] at hnext
        cases hnext
    · rw [if_neg hstable] at hnext
      exact readOk_retry hnext

end Reader

/-! ## What a step reports -/

/-- **The event agrees with the publishes before it.** A sample that was read is the latest one. -/
def EventOk (validate : Sample n → Bool) (L : StreamLog n) : TelemetryEvent C R n → Prop
  | .published _ sequence sample =>
    sequence = L.published + 1 ∧ L.begun[L.published]? = some sample
  | .publishReturned _ .ok sequence => sequence = L.returned + 1
  | .readReturned _ result output =>
    (output.isSome = true ↔ result.code = .ok) ∧
      (∀ sample, output = some sample → IsPublished L result.sequence ∧
        result.sequence = L.published ∧ L.begun[result.sequence - 1]? = some sample ∧
        validate sample = true) ∧
      (result.code = .noData → L.published = 0)
  | _ => True

def ReportOk (validate : Sample n → Bool) (L : StreamLog n) (w : List (TelemetryEvent C R n)) :
    Prop :=
  w = [] ∨ ∃ event, w = [event] ∧ EventOk validate L event

section Reports

variable {L : StreamLog n} {s : TelemetryState C R n} (validate : Sample n → Bool)

theorem Consistent.report_writerStep (h : Consistent L s) (c : C) :
    ReportOk validate L
      ((Telemetry.writerStep c s.stream (s.writers c)).2.2 : List (TelemetryEvent C R n)) := by
  have hok := h.writers c
  cases hw : s.writers c with
  | absent => exact .inl rfl
  | claimed token allocated =>
    cases allocated with
    | true => exact .inr ⟨_, rfl, trivial⟩
    | false => exact .inl rfl
  | abandoning token => exact .inr ⟨_, rfl, trivial⟩
  | holding token nextSequence => exact .inl rfl
  | publishing token sequence sample step =>
    rw [hw] at hok
    obtain ⟨-, -, hstep⟩ := hok
    cases step with
    | exchangeGuard => exact .inl rfl
    | storeWord index => exact .inl rfl
    | storeGuard => exact .inl rfl
    | storePublished =>
      exact .inr ⟨.published c sequence sample, rfl, hstep.1.sequence_eq, hstep.1.sample_eq⟩
    | countPublish =>
      exact .inr ⟨.publishReturned c .ok sequence, rfl, hstep.1.trans hstep.2.2.1.symm⟩

theorem reportOk_contended {r : R} {attempts : ℕ} :
    ReportOk (C := C) validate L [.readReturned r ⟨.contended, attempts, 0⟩ none] :=
  .inr ⟨_, rfl, by simp, (fun _ h => by cases h), (fun h => by cases h)⟩

theorem reportOk_retry {r : R} (reading : Reading n) :
    ReportOk (C := C) validate L (retry r reading).2 := by
  unfold retry
  by_cases hmore : reading.attempt < reading.maxAttempts
  · rw [if_pos hmore]
    exact .inl rfl
  · rw [if_neg hmore]
    exact reportOk_contended validate

theorem Consistent.report_readStep (h : Consistent L s) {r : R} {reading : Reading n}
    (hr : s.readers r = some reading) :
    ReportOk validate L
      ((readStep validate r s.stream reading).2 : List (TelemetryEvent C R n)) := by
  have hok := h.readers r reading hr
  have hlatest := h.latest
  unfold readStep
  cases hstep : reading.step with
  | loadPublished =>
    dsimp only
    by_cases hzero : s.stream.control.publishedSequence = 0
    · rw [if_pos hzero]
      exact .inr ⟨_, rfl, by simp, (fun _ h => by cases h), fun _ => hlatest.symm.trans hzero⟩
    · rw [if_neg hzero]
      exact .inl rfl
  | loadGuard sequence =>
    dsimp only
    by_cases hguard : (s.stream.slot sequence).guard ≠ stableGuard sequence
    · rw [if_pos hguard]
      exact reportOk_retry validate reading
    · rw [if_neg hguard]
      exact .inl rfl
  | loadWord sequence index => exact .inl rfl
  | loadGuardAgain sequence => exact .inl rfl
  | loadLatest sequence after =>
    rw [hstep] at hok
    obtain ⟨hpublished, hcopy⟩ := hok
    have hmax := hpublished.2.trans h.bound
    dsimp only
    by_cases hstable :
        after = stableGuard sequence ∧ s.stream.control.publishedSequence = sequence
    · rw [if_pos hstable]
      by_cases hvalid : validate reading.encoded = false
      · rw [if_pos hvalid]
        exact reportOk_retry validate reading
      · rw [if_neg hvalid]
        refine .inr ⟨_, rfl, by simp, ?_, (fun h => by cases h)⟩
        rintro sample hsample
        cases hsample
        have hafter := hstable.1.trans (stableGuard_of_le hmax)
        exact ⟨hpublished, hstable.2.symm.trans hlatest, hcopy hafter, by simpa using hvalid⟩
    · rw [if_neg hstable]
      exact reportOk_retry validate reading

omit validate in
theorem foldl_extend_retry (r : R) (reading : Reading n) :
    (retry r reading : Option (Reading n) × List (TelemetryEvent C R n)).2.foldl
      StreamLog.extend L = L := by
  unfold retry
  split_ifs
  · rfl
  · rfl

theorem foldl_extend_readStep (r : R) (S : Stream n) (reading : Reading n) :
    (readStep validate r S reading : Option (Reading n) × List (TelemetryEvent C R n)).2.foldl
      StreamLog.extend L = L := by
  unfold readStep
  cases reading.step with
  | loadPublished =>
    dsimp only
    split_ifs
    · rfl
    · rfl
  | loadGuard sequence =>
    dsimp only
    split_ifs
    · exact foldl_extend_retry r reading
    · rfl
  | loadWord sequence index => rfl
  | loadGuardAgain sequence => rfl
  | loadLatest sequence after =>
    dsimp only
    split_ifs
    · exact foldl_extend_retry r reading
    · rfl
    · exact foldl_extend_retry r reading

end Reports

/-! ## Runs -/

section Runs

variable [DecidableEq C] [DecidableEq R] (validate : Sample n → Bool)

/-- **A step that keeps the agreement** and reports what agrees. -/
def StepOk (L : StreamLog n) (out : TelemetryState C R n × List (TelemetryEvent C R n)) : Prop :=
  Consistent (out.2.foldl StreamLog.extend L) out.1 ∧ ReportOk validate L out.2

omit [DecidableEq C] [DecidableEq R] in
theorem Consistent.stepOk_idle {L : StreamLog n} {s : TelemetryState C R n} (h : Consistent L s) :
    StepOk validate L (s, []) := ⟨h, .inl rfl⟩

theorem Consistent.stepOk_claim {L : StreamLog n} {s : TelemetryState C R n} (h : Consistent L s)
    (c : C) (token : ℕ) (writable allocated : Bool) :
    StepOk validate L (telemetryStep validate s (.claim c token writable allocated)) := by
  simp only [telemetryStep]
  cases hw : s.writers c with
  | absent =>
    refine ⟨h.claimStream token writable allocated hw, ?_⟩
    show ReportOk validate L (Telemetry.claimStream c s.stream token writable allocated).2.2
    unfold Telemetry.claimStream
    split_ifs
    · exact .inr ⟨_, rfl, trivial⟩
    · exact .inr ⟨_, rfl, trivial⟩
    · exact .inl rfl
    · exact .inr ⟨_, rfl, trivial⟩
  | claimed token' allocated' => exact h.stepOk_idle validate
  | abandoning token' => exact h.stepOk_idle validate
  | holding token' nextSequence => exact h.stepOk_idle validate
  | publishing token' sequence sample step => exact h.stepOk_idle validate

theorem Consistent.stepOk_publish {L : StreamLog n} {s : TelemetryState C R n} (h : Consistent L s)
    (c : C) (sample : Sample n) :
    StepOk validate L (telemetryStep validate s (.publish c sample)) := by
  simp only [telemetryStep]
  cases hw : s.writers c with
  | holding token nextSequence =>
    refine ⟨h.beginPublish validate sample hw, ?_⟩
    show ReportOk validate L (Telemetry.beginPublish validate c token nextSequence sample).2
    unfold Telemetry.beginPublish
    split_ifs
    · exact .inr ⟨_, rfl, trivial⟩
    · exact .inr ⟨_, rfl, trivial⟩
    · exact .inr ⟨_, rfl, trivial⟩
  | absent => exact h.stepOk_idle validate
  | claimed token allocated => exact h.stepOk_idle validate
  | abandoning token => exact h.stepOk_idle validate
  | publishing token sequence sample' step => exact h.stepOk_idle validate

theorem Consistent.stepOk_release {L : StreamLog n} {s : TelemetryState C R n} (h : Consistent L s)
    (c : C) : StepOk validate L (telemetryStep validate s (.release c)) := by
  simp only [telemetryStep]
  have hok := h.writers c
  cases hw : s.writers c with
  | holding token nextSequence =>
    rw [hw] at hok
    exact ⟨h.release (by simp [hw]) hok.1.1 hok.2.1, .inl rfl⟩
  | absent => exact h.stepOk_idle validate
  | claimed token allocated => exact h.stepOk_idle validate
  | abandoning token => exact h.stepOk_idle validate
  | publishing token sequence sample step => exact h.stepOk_idle validate

theorem Consistent.stepOk_read {L : StreamLog n} {s : TelemetryState C R n} (h : Consistent L s)
    (r : R) (maxAttempts : ℕ) :
    StepOk validate L (telemetryStep validate s (.read r maxAttempts)) := by
  simp only [telemetryStep]
  cases hr : s.readers r with
  | some reading => exact h.stepOk_idle validate
  | none =>
    unfold beginRead TelemetryState.withReader
    by_cases hzero : maxAttempts = 0
    · rw [if_pos hzero]
      exact ⟨h.setReader fun _ hnone => (by cases hnone), reportOk_contended validate⟩
    · rw [if_neg hzero]
      refine ⟨h.setReader fun reading hsome => ?_, .inl rfl⟩
      cases hsome
      trivial

theorem Consistent.stepOk_reader {L : StreamLog n} {s : TelemetryState C R n} (h : Consistent L s)
    (r : R) : StepOk validate L (telemetryStep validate s (.reader r)) := by
  simp only [telemetryStep]
  cases hr : s.readers r with
  | none => exact h.stepOk_idle validate
  | some reading =>
    have hreport := h.report_readStep validate hr
    have hnext := h.setReader (r := r) fun next hsome => h.readOk_readStep validate hr hsome
    refine ⟨?_, hreport⟩
    show Consistent ((readStep validate r s.stream reading).2.foldl StreamLog.extend L) _
    rw [foldl_extend_readStep]
    exact hnext

theorem Consistent.stepOk {L : StreamLog n} {s : TelemetryState C R n} (h : Consistent L s)
    (i : TelemetryInput C R n) : StepOk validate L (telemetryStep validate s i) := by
  cases i with
  | claim c token writable allocated => exact h.stepOk_claim validate c token writable allocated
  | publish c sample => exact h.stepOk_publish validate c sample
  | release c => exact h.stepOk_release validate c
  | writer c => exact ⟨h.writerStep c, h.report_writerStep validate c⟩
  | read r maxAttempts => exact h.stepOk_read validate r maxAttempts
  | reader r => exact h.stepOk_reader validate r

/-- **What a read returned, against the trace before it**: it wrote the output object exactly when it
succeeded, and then with the latest published sample; it reports no data only before the first
publish. -/
def ReadSound (pre : List (TelemetryEvent C R n)) : TelemetryEvent C R n → Prop
  | .readReturned _ result output =>
    (output.isSome = true ↔ result.code = .ok) ∧
      (∀ sample, output = some sample → 1 ≤ result.sequence ∧
        result.sequence = (published pre).length ∧
        (published pre)[result.sequence - 1]? = some sample ∧ validate sample = true) ∧
      (result.code = .noData → published pre = [])
  | _ => True

/-- **What the trace of every run satisfies.** -/
structure TraceOk (t : List (TelemetryEvent C R n)) : Prop where
  log : published t = (begun t).take (published t).length
  sequences : publishedSequences t = List.range' 1 (published t).length
  returned : returnedSequences t = List.range' 1 (returnedSequences t).length
  reads : ∀ r, (readSequences r t).Pairwise (· ≤ ·) ∧
    ∀ sequence ∈ readSequences r t, sequence ≤ (published t).length
  sound : Monitor.Everywhere (ReadSound validate) t

omit [DecidableEq C] in
theorem TraceOk.other {t : List (TelemetryEvent C R n)} (h : TraceOk validate t)
    {event : TelemetryEvent C R n} (hbegun : begun (t ++ [event]) = begun t)
    (hpublished : published (t ++ [event]) = published t)
    (hsequences : publishedSequences (t ++ [event]) = publishedSequences t)
    (hreturned : returnedSequences (t ++ [event]) = returnedSequences t)
    (hread : ∀ r, readSequences r (t ++ [event]) = readSequences r t)
    (hsound : ReadSound validate t event) : TraceOk validate (t ++ [event]) where
  log := by rw [hpublished, hbegun, ← h.log]
  sequences := by rw [hsequences, hpublished, h.sequences]
  returned := by
    rw [hreturned]
    exact h.returned
  reads r := by
    rw [hread, hpublished]
    exact h.reads r
  sound := h.sound.snoc hsound

omit [DecidableEq C] in
theorem TraceOk.snoc {t : List (TelemetryEvent C R n)} (h : TraceOk validate t)
    {event : TelemetryEvent C R n} (hevent : EventOk validate (logOf t) event) :
    TraceOk validate (t ++ [event]) := by
  have hbegun : (published t).length ≤ (begun t).length := by
    have hlength := congrArg List.length h.log
    rw [List.length_take] at hlength
    omega
  cases event with
  | claimReturned c code =>
    exact h.other validate (by simp [begun]) (by simp [published])
      (by simp [publishedSequences]) (by simp [returnedSequences])
      (fun r => by simp [readSequences]) trivial
  | publishBegun c sequence sample =>
    have hb : begun (t ++ [.publishBegun c sequence sample]) = begun t ++ [sample] := by
      simp [begun]
    have hp : published (t ++ [.publishBegun c sequence sample]) = published t := by
      simp [published]
    refine ⟨?_, ?_, ?_, fun r => ?_, h.sound.snoc trivial⟩
    · rw [hp, hb, List.take_append_of_le_length hbegun, ← h.log]
    · rw [hp, ← h.sequences]
      simp [publishedSequences]
    · have hr : returnedSequences (t ++ [.publishBegun c sequence sample]) =
          returnedSequences t := by simp [returnedSequences]
      rw [hr]
      exact h.returned
    · have hr : readSequences r (t ++ [.publishBegun c sequence sample]) =
          readSequences r t := by simp [readSequences]
      rw [hr, hp]
      exact h.reads r
  | published c sequence sample =>
    obtain ⟨hsequence, hsample⟩ := hevent
    replace hsequence : sequence = (published t).length + 1 := hsequence
    replace hsample : (begun t)[(published t).length]? = some sample := hsample
    have hb : begun (t ++ [.published c sequence sample]) = begun t := by simp [begun]
    have hp : published (t ++ [.published c sequence sample]) = published t ++ [sample] := by
      simp [published]
    have hs : publishedSequences (t ++ [.published c sequence sample]) =
        publishedSequences t ++ [sequence] := by simp [publishedSequences]
    refine ⟨?_, ?_, ?_, fun r => ?_, h.sound.snoc trivial⟩
    · rw [hp, hb, List.length_append, List.length_singleton, List.take_add_one, hsample, ← h.log]
      rfl
    · rw [hs, hp, h.sequences, List.length_append, List.length_singleton, List.range'_concat,
        hsequence]
      simp [Nat.add_comm]
    · have hr : returnedSequences (t ++ [.published c sequence sample]) =
          returnedSequences t := by simp [returnedSequences]
      rw [hr]
      exact h.returned
    · have hr : readSequences r (t ++ [.published c sequence sample]) =
          readSequences r t := by simp [readSequences]
      rw [hr, hp, List.length_append]
      exact ⟨(h.reads r).1, fun x hx => ((h.reads r).2 x hx).trans (Nat.le_add_right _ _)⟩
  | publishReturned c code sequence =>
    cases code with
    | invalidSample =>
      exact h.other validate (by simp [begun]) (by simp [published])
        (by simp [publishedSequences]) (by simp [returnedSequences])
        (fun r => by simp [readSequences]) trivial
    | sequenceExhausted =>
      exact h.other validate (by simp [begun]) (by simp [published])
        (by simp [publishedSequences]) (by simp [returnedSequences])
        (fun r => by simp [readSequences]) trivial
    | ok =>
      replace hevent : sequence = (returnedSequences t).length + 1 := hevent
      have hb : begun (t ++ [.publishReturned c .ok sequence]) = begun t := by simp [begun]
      have hp : published (t ++ [.publishReturned c .ok sequence]) = published t := by
        simp [published]
      have hs : publishedSequences (t ++ [.publishReturned c .ok sequence]) =
          publishedSequences t := by simp [publishedSequences]
      have hr : returnedSequences (t ++ [.publishReturned c .ok sequence]) =
          returnedSequences t ++ [sequence] := by simp [returnedSequences]
      refine ⟨?_, ?_, ?_, fun r => ?_, h.sound.snoc trivial⟩
      · rw [hp, hb, ← h.log]
      · rw [hs, hp, h.sequences]
      · rw [hr, List.length_append, List.length_singleton, List.range'_concat, ← h.returned,
          hevent]
        simp [Nat.add_comm]
      · have hreads : readSequences r (t ++ [.publishReturned c .ok sequence]) =
            readSequences r t := by simp [readSequences]
        rw [hreads, hp]
        exact h.reads r
  | readReturned r result output =>
    obtain ⟨hwritten, hsample, hnone⟩ := hevent
    have hb : begun (t ++ [.readReturned r result output]) = begun t := by simp [begun]
    have hp : published (t ++ [.readReturned r result output]) = published t := by
      simp [published]
    have hs : publishedSequences (t ++ [.readReturned r result output]) =
        publishedSequences t := by simp [publishedSequences]
    have hr : returnedSequences (t ++ [.readReturned r result output]) =
        returnedSequences t := by simp [returnedSequences]
    have hsound : ReadSound validate t (.readReturned r result output) := by
      refine ⟨hwritten, fun sample hout => ?_, fun hcode => ?_⟩
      · obtain ⟨hpublished, hlatest, hcopy, hvalid⟩ := hsample sample hout
        replace hlatest : result.sequence = (published t).length := hlatest
        refine ⟨hpublished.1, hlatest, ?_, hvalid⟩
        have hlt : result.sequence - 1 < (published t).length := by
          have := hpublished.1
          omega
        rw [h.log, List.getElem?_take, if_pos hlt]
        exact hcopy
      · exact List.eq_nil_of_length_eq_zero (hnone hcode)
    refine ⟨?_, ?_, ?_, fun r' => ?_, h.sound.snoc hsound⟩
    · rw [hp, hb, ← h.log]
    · rw [hs, hp, h.sequences]
    · rw [hr]
      exact h.returned
    · rw [hp]
      by_cases hread : r = r' ∧ result.code = .ok
      · obtain ⟨rfl, hcode⟩ := hread
        obtain ⟨sample, hout⟩ := Option.isSome_iff_exists.1 (hwritten.2 hcode)
        obtain ⟨-, hlatest, -⟩ := hsample sample hout
        replace hlatest : result.sequence = (published t).length := hlatest
        have hreads : readSequences r (t ++ [.readReturned r result output]) =
            readSequences r t ++ [result.sequence] := by
          obtain ⟨code, attempts, sequence⟩ := result
          subst hcode
          simp [readSequences]
        rw [hreads, List.pairwise_append, List.forall_mem_append]
        obtain ⟨hpairs, hbound⟩ := h.reads r
        refine ⟨⟨hpairs, List.pairwise_singleton _ _, fun x hx y hy => ?_⟩, hbound, ?_⟩
        · rw [List.mem_singleton.1 hy, hlatest]
          exact hbound x hx
        · simp [hlatest]
      · have hreads : readSequences r' (t ++ [.readReturned r result output]) =
            readSequences r' t := by
          obtain ⟨code, attempts, sequence⟩ := result
          cases code with
          | ok => simpa [readSequences] using hread
          | noData => simp [readSequences]
          | contended => simp [readSequences]
        rw [hreads]
        exact h.reads r'

omit [DecidableEq C] [DecidableEq R] in
theorem consistent_initial : Consistent ⟨[], 0, 0⟩ (initialState C R n) where
  latest := rfl
  bound := Nat.zero_le _
  unclaimed _ := ⟨rfl, rfl, fun _ => by show 0 / 2 ≤ 0; decide⟩
  writers _ := trivial
  exclusive _ _ h := absurd rfl h
  slots b q hq := by
    replace hq : 0 = 2 * q := hq
    exact .inl (by omega)
  readers r reading hr := by cases hr

theorem consistent_run (is : List (TelemetryInput C R n)) :
    Consistent (logOf ((telemetryMachine C R validate).trace (initialState C R n) is))
        ((telemetryMachine C R validate).run (initialState C R n) is) ∧
      TraceOk validate ((telemetryMachine C R validate).trace (initialState C R n) is) := by
  refine Machine.monitor_induction (telemetryMachine C R validate)
    (P := fun s t => Consistent (logOf t) s ∧ TraceOk validate t) ?_ ?_ is
  · exact ⟨consistent_initial, rfl, rfl, rfl, fun r => ⟨List.Pairwise.nil, by simp [readSequences]⟩,
      Monitor.everywhere_nil⟩
  · rintro s t i ⟨hconsistent, htrace⟩
    rw [telemetryMachine_step]
    obtain ⟨hstep, hreport⟩ := hconsistent.stepOk validate i
    rcases hreport with hnone | ⟨event, hone, hevent⟩
    · rw [hnone] at hstep ⊢
      rw [List.append_nil]
      exact ⟨hstep, htrace⟩
    · rw [hone] at hstep ⊢
      rw [logOf_snoc]
      exact ⟨hstep, htrace.snoc validate hevent⟩

end Runs

/-! ## The contract of the stream -/

/-- **What every interleaving guarantees**, for any writers, any readers and any validator of the
samples. -/
structure StreamContract (validate : Sample n → Bool) (t : List (TelemetryEvent C R n))
    [DecidableEq R] : Prop where
  /-- A read that succeeds with a sequence returns exactly the sample of the publish with that
  sequence, which is the latest one. -/
  tearFree : ∀ pre reader result sample post,
    t = pre ++ .readReturned reader result (some sample) :: post →
      result.code = .ok ∧ result.sequence = (published pre).length ∧
        1 ≤ result.sequence ∧ (published t)[result.sequence - 1]? = some sample ∧
        validate sample = true
  output : ∀ reader result output, .readReturned reader result output ∈ t →
    (output.isSome = true ↔ result.code = .ok)
  monotone : ∀ reader, (readSequences reader t).Pairwise (· ≤ ·)
  /-- No data is reported only when nothing was published at the start of the attempt, which is the
  load that the read returns from. -/
  noData : ∀ pre reader result output post,
    t = pre ++ .readReturned reader result output :: post → result.code = .noData →
      published pre = []
  sequences : publishedSequences t = List.range' 1 (published t).length
  returned : returnedSequences t = List.range' 1 (returnedSequences t).length

/-- **The telemetry stream is tear-free and monotone.** -/
theorem telemetry_stream_contract (C R : Type) [DecidableEq C] [DecidableEq R] (n : ℕ)
    (validate : Sample n → Bool) (is : List (TelemetryInput C R n)) :
    StreamContract validate ((telemetryMachine C R validate).trace (initialState C R n) is) := by
  obtain ⟨-, h⟩ := consistent_run validate is
  generalize (telemetryMachine C R validate).trace (initialState C R n) is = t at h
  constructor
  · intro pre reader result sample post hsplit
    obtain ⟨hwritten, hsample, -⟩ := h.sound pre _ post hsplit
    obtain ⟨hpositive, hlatest, hget, hvalid⟩ := hsample sample rfl
    refine ⟨hwritten.1 rfl, hlatest, hpositive, ?_, hvalid⟩
    -- Later publishes do not change the earlier ones.
    have hpublished : published t = published pre ++ published (.readReturned reader result
        (some sample) :: post) := by
      rw [hsplit, published, List.filterMap_append]
      rfl
    obtain ⟨hlt, -⟩ := List.getElem?_eq_some_iff.1 hget
    rw [hpublished, List.getElem?_append_left hlt]
    exact hget
  · intro reader result output hmem
    obtain ⟨pre, post, hsplit⟩ := List.append_of_mem hmem
    exact (h.sound pre _ post hsplit).1
  · exact fun reader => (h.reads reader).1
  · intro pre reader result output post hsplit hcode
    exact (h.sound pre _ post hsplit).2.2 hcode
  · exact h.sequences
  · exact h.returned

/-- A reader that is overtaken by a publish while it copies tries again and reads the later one. -/
example :
    let publish : List (TelemetryInput Unit Unit 1) :=
      [.publish () fun _ => 7, .writer (), .writer (), .writer (), .writer (), .writer ()]
    let load : TelemetryInput Unit Unit 1 := .reader ()
    readSequences () ((telemetryMachine Unit Unit fun _ => true).trace (initialState Unit Unit 1)
      ([.claim () 5 true true, .writer ()] ++ publish ++ [.read () 2, load, load] ++ publish ++
        publish ++ [load, load, load, load, load, load, load, load])) = [3] := by
  decide +kernel

end FrankaDeploy.Telemetry
