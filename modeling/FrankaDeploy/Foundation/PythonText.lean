import FrankaDeploy.Foundation.Python
import Mathlib.Data.List.TakeWhile

/-! # Texts

Python's operations on texts that a command line is read with: prefixes, `partition`, decimal digits,
`int` and `pathlib`. They compute on the characters of a string. -/

namespace FrankaDeploy.Foundation

/-! ## Prefixes -/

def pyStartsWith (s start : String) : Bool := start.toList.isPrefixOf s.toList

/-- `s.partition(sep)` where `sep` is one character that `s` has: what is before its first one, and
what is after it. -/
def partitionAt (sep : Char) (s : String) : Option (String × String) :=
  match s.toList.dropWhile (· ≠ sep) with
  | [] => none
  | _ :: after => some (String.ofList (s.toList.takeWhile (· ≠ sep)), String.ofList after)

/-- **A text that starts with a name and the separator** is split there, where the name has no
separator. -/
theorem partitionAt_append {sep : Char} {name value : List Char} (hname : sep ∉ name) :
    partitionAt sep (String.ofList (name ++ sep :: value)) =
      some (String.ofList name, String.ofList value) := by
  have hfree : ∀ c ∈ name, decide (c ≠ sep) = true := by
    intro c hc
    rw [decide_eq_true_eq]
    rintro rfl
    exact hname hc
  have hdrop : (name ++ sep :: value).dropWhile (· ≠ sep) = sep :: value := by
    rw [List.dropWhile_append_of_pos hfree, List.dropWhile_cons_of_neg (by simp)]
  have htake : (name ++ sep :: value).takeWhile (· ≠ sep) = name := by
    rw [List.takeWhile_append_of_pos hfree, List.takeWhile_cons_of_neg (by simp), List.append_nil]
  unfold partitionAt
  rw [String.toList_ofList, hdrop, htake]

/-- **Splitting** loses nothing but the separator, and the name before it has none. -/
theorem partitionAt_eq_some {sep : Char} {s name value : String}
    (h : partitionAt sep s = some (name, value)) :
    s.toList = name.toList ++ sep :: value.toList ∧ sep ∉ name.toList := by
  unfold partitionAt at h
  cases hrest : s.toList.dropWhile (· ≠ sep) with
  | nil =>
    rw [hrest] at h
    cases h
  | cons c after =>
    rw [hrest] at h
    obtain ⟨rfl, rfl⟩ := Prod.mk.inj (Option.some.inj h)
    have hc : c = sep := by
      have hstop := List.head?_dropWhile_not (· ≠ sep) s.toList
      rw [hrest] at hstop
      simpa using hstop
    subst hc
    rw [String.toList_ofList, String.toList_ofList]
    constructor
    · rw [← hrest, List.takeWhile_append_dropWhile]
    · intro hmem
      have := List.mem_takeWhile_imp hmem
      simp at this

/-- **A text starts with a name and the separator** exactly when it is split there. -/
theorem pyStartsWith_append_iff {sep : Char} {s name : String} (hname : sep ∉ name.toList) :
    pyStartsWith s (name ++ String.ofList [sep]) = true ↔
      ∃ value, partitionAt sep s = some (name, value) := by
  unfold pyStartsWith
  rw [String.toList_append, String.toList_ofList, List.isPrefixOf_iff_prefix]
  constructor
  · rintro ⟨value, hvalue⟩
    have hs : s = String.ofList (name.toList ++ sep :: value) := by
      rw [← String.ofList_toList (s := s), ← hvalue, List.append_assoc, List.singleton_append]
    refine ⟨String.ofList value, ?_⟩
    rw [hs, partitionAt_append hname, String.ofList_toList]
  · rintro ⟨value, hsplit⟩
    refine ⟨value.toList, ?_⟩
    rw [(partitionAt_eq_some hsplit).1, List.append_assoc, List.singleton_append]

/-! ## Numbers -/

/-- The digits zero of Unicode 14.0; the other nine decimal digits of a script follow its zero. -/
def decimalZeros : List ℕ :=
  [0x30, 0x660, 0x6f0, 0x7c0, 0x966, 0x9e6, 0xa66, 0xae6, 0xb66, 0xbe6, 0xc66, 0xce6, 0xd66, 0xde6,
    0xe50, 0xed0, 0xf20, 0x1040, 0x1090, 0x17e0, 0x1810, 0x1946, 0x19d0, 0x1a80, 0x1a90, 0x1b50,
    0x1bb0, 0x1c40, 0x1c50, 0xa620, 0xa8d0, 0xa900, 0xa9d0, 0xa9f0, 0xaa50, 0xabf0, 0xff10, 0x104a0,
    0x10d30, 0x11066, 0x110f0, 0x11136, 0x111d0, 0x112f0, 0x11450, 0x114d0, 0x11650, 0x116c0,
    0x11730, 0x118e0, 0x11950, 0x11c50, 0x11d50, 0x11da0, 0x16a60, 0x16ac0, 0x16b50, 0x1d7ce,
    0x1d7d8, 0x1d7e2, 0x1d7ec, 0x1d7f6, 0x1e140, 0x1e2f0, 0x1e950, 0x1fbf0]

def decimal (c : Char) : Option ℕ :=
  (decimalZeros.find? fun first => first ≤ c.toNat && c.toNat < first + 10).map (c.toNat - ·)

def literalDigits : List Char → Option (List ℕ)
  | [] => none
  | c :: rest =>
    match decimal c with
    | none => none
    | some d =>
      match rest with
      | [] => some [d]
      | '_' :: rest => (literalDigits rest).map (d :: ·)
      | rest => (literalDigits rest).map (d :: ·)

def maximumDigits : ℕ := 4300

/-- `int(s)` of a string; `none` where it raises `ValueError`. -/
def pyInt (s : String) : Option ℤ :=
  let magnitude (cs : List Char) : Option ℤ :=
    match literalDigits cs with
    | none => none
    | some digits =>
      if maximumDigits < digits.length then none
      else some (digits.foldl (fun n d => 10 * n + d) 0 : ℕ)
  match (pyStrip s).toList with
  | '-' :: cs => (magnitude cs).map (- ·)
  | '+' :: cs => magnitude cs
  | cs => magnitude cs

example : (pyInt " 1_0\n", pyInt "-7", pyInt "1__0", pyInt "") = (some 10, some (-7), none, none) := by
  decide +kernel

/-! ## Paths -/

/-- A `pathlib.PurePosixPath`: its root and its parts. -/
structure PosixPath where
  root : String
  parts : List String
  deriving DecidableEq, Repr

def slashParts : List Char → List Char → List String
  | name, [] => [String.ofList name.reverse]
  | name, '/' :: rest => String.ofList name.reverse :: slashParts [] rest
  | name, c :: rest => slashParts (c :: name) rest

/-- `pathlib.Path(s)`: exactly two leading slashes are a root of their own, and empty names and `.`
are dropped. -/
def pyPath (s : String) : PosixPath where
  root := match s.toList with
    | '/' :: '/' :: '/' :: _ => "/"
    | '/' :: '/' :: _ => "//"
    | '/' :: _ => "/"
    | _ => ""
  parts := (slashParts [] s.toList).filter fun name => name ≠ "" ∧ name ≠ "."

example : pyPath "/runs/./task_configs//v61.yaml" = pyPath "///runs/task_configs/v61.yaml" := by
  decide +kernel

end FrankaDeploy.Foundation
