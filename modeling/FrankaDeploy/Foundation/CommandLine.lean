import FrankaDeploy.Foundation.PythonText

/-! # Command lines

`argparse.ArgumentParser` for a parser of double-dash options without positional arguments. An option
is recognised by its exact name or by an unambiguous prefix of it, `--option=value` is split, and the
last occurrence of an option wins. -/

namespace FrankaDeploy.Foundation

/-! ## Parsers -/

structure OptionAction (δ : Type) where
  name : String
  dest : δ
  nargs : ℕ
  accepts : List String → Bool
  group : Option ℕ

inductive Token (δ : Type) where
  | argument
  /-- An option, by its exact name or by an abbreviation, with the value after its `=`. -/
  | option (action : OptionAction δ) (exact : Bool) (explicit : Option String)
  /-- A string with which the parser exits: the help, an ambiguous or unknown option, or `--`, which
  leaves everything after it unrecognised. -/
  | exits

abbrev Given (δ : Type) := δ → Option (List String)

structure Occurrence where
  exact : Bool
  args : List String
  deriving DecidableEq, Repr

variable {δ : Type}

namespace CommandLine

def helpStrings : List String := ["-h", "--help"]

def isNegativeNumber (arg : String) : Bool :=
  let isDigit (c : Char) : Bool := (decimal c).isSome
  let chars := arg.toList
  -- the matcher's `$` also matches before a last line break
  let chars := if chars.getLast? = some '\n' then chars.dropLast else chars
  match chars with
  | '-' :: digits =>
    (digits ≠ [] && digits.all isDigit) ||
      (match digits.dropWhile isDigit with
      | '.' :: fraction => fraction ≠ [] && fraction.all isDigit
      | _ => false)
  | _ => false

def find (options : List (OptionAction δ)) (name : String) : Option (OptionAction δ) :=
  options.find? (·.name = name)

def abbreviated (options : List (OptionAction δ)) (arg start : String) (explicit : Option String) :
    Token δ :=
  match options.filter fun option => pyStartsWith option.name start with
  | [option] =>
    if helpStrings.any fun name => pyStartsWith name start then .exits
    else .option option false explicit
  | _ :: _ :: _ => .exits
  | [] =>
    if helpStrings.any fun name => pyStartsWith name start then .exits
    else if isNegativeNumber arg then .argument
    else if ' ' ∈ arg.toList then .argument
    else .exits

def token (options : List (OptionAction δ)) (arg : String) : Token δ :=
  match arg.toList with
  | '-' :: rest =>
    if arg = "--" then .exits
    else match find options arg with
    | some option => .option option true none
    | none =>
      if arg ∈ helpStrings then .exits
      else if rest = [] then .argument
      else match (partitionAt '=' arg).bind fun (name, value) =>
          (find options name).map (·, value) with
      | some (option, value) => .option option true (some value)
      | none =>
        match rest with
        | '-' :: _ =>
          match partitionAt '=' arg with
          | some (start, value) => abbreviated options arg start (some value)
          | none => abbreviated options arg arg none
        | _ =>
          -- one dash: only `-h` starts so, with or without text after it
          if pyStartsWith arg "-h" then .exits
          else if isNegativeNumber arg then .argument
          else if ' ' ∈ rest then .argument
          else .exits
  | _ => .argument

def isArgument (options : List (OptionAction δ)) (arg : String) : Bool :=
  match token options arg with
  | .argument => true
  | _ => false

/-- The strings that an option would read: the value after its `=`, or the next strings. -/
def reads (action : OptionAction δ) : Option String → List String → List String
  | some value, _ => [value]
  | none, rest => rest.take action.nargs

/-- `consume_optional`: the arguments of an option, and how many of the next strings they are. -/
def argumentsOf (options : List (OptionAction δ)) (action : OptionAction δ)
    (explicit : Option String) (rest : List String) : Option (List String × ℕ) :=
  match explicit with
  | some value => if action.nargs = 1 then some ([value], 0) else none
  | none =>
    let args := rest.take action.nargs
    if args.length = action.nargs ∧ args.all (isArgument options) then some (args, action.nargs)
    else none

variable [DecidableEq δ]

def conflicts (options : List (OptionAction δ)) (given : Given δ) (action : OptionAction δ) : Bool :=
  action.group.isSome && options.any fun other =>
    other.group = action.group && other.dest ≠ action.dest && (given other.dest).isSome

/-- `take_action`: the destination is given the arguments. -/
def Given.set (given : Given δ) (dest : δ) (args : List String) : Given δ :=
  fun d => if d = dest then some args else given d

/-- **`parse_args`**, after as many strings as the last option has read: what the options are given,
or `none` where the parser prints its help or an error and exits. -/
def parse (options : List (OptionAction δ)) : ℕ → List String → Given δ → Option (Given δ)
  | _, [], given => some given
  | skip + 1, _ :: rest, given => parse options skip rest given
  | 0, arg :: rest, given =>
    match token options arg with
    | .option action _ explicit =>
      match argumentsOf options action explicit rest with
      | none => none
      | some (args, taken) =>
        if !action.accepts args || conflicts options given action then none
        else parse options taken rest (Given.set given action.dest args)
    -- no option reads it, so it is left over
    | .argument => none
    | .exits => none

def occurrences (options : List (OptionAction δ)) (dest : δ) : List String → List Occurrence
  | [] => []
  | arg :: rest =>
    match token options arg with
    | .option action exact explicit =>
      if action.dest = dest then
        ⟨exact, reads action explicit rest⟩ :: occurrences options dest rest
      else occurrences options dest rest
    | _ => occurrences options dest rest

/-! ## Exact names -/

section Exact

omit [DecidableEq δ]

variable {options : List (OptionAction δ)}

theorem name_of_find {name : String} {action : OptionAction δ}
    (h : find options name = some action) : action.name = name := by
  have := List.find?_some h
  rwa [decide_eq_true_eq] at this

theorem of_abbreviated {arg start : String} {explicit explicit' : Option String}
    {action : OptionAction δ} {exact : Bool}
    (h : abbreviated options arg start explicit = .option action exact explicit') :
    exact = false ∧ action ∈ options := by
  unfold abbreviated at h
  split at h
  next option honly =>
    split at h
    · cases h
    · cases h
      exact ⟨rfl, (List.mem_filter.mp (honly ▸ List.mem_cons_self)).1⟩
  · cases h
  · grind

/-- A string is an exact name, or the name with a `=` and the value. -/
def Spells (arg name : String) : Option String → Prop
  | none => arg = name
  | some value => partitionAt '=' arg = some (name, value)

/-- **What an option string is**: the spelled option of the parser, or an abbreviation of it. -/
theorem token_eq_option {arg : String} {action : OptionAction δ} {exact : Bool}
    {explicit : Option String} (h : token options arg = .option action exact explicit) :
    action ∈ options ∧ (exact = true → Spells arg action.name explicit) := by
  unfold token at h
  split at h
  case h_2 => cases h
  case h_1 rest hchars =>
  split at h
  · cases h
  cases hfind : find options arg with
  | some option =>
    simp only [hfind, Token.option.injEq] at h
    obtain ⟨rfl, -, rfl⟩ := h
    exact ⟨List.mem_of_find?_eq_some hfind, fun _ => (name_of_find hfind).symm⟩
  | none =>
    simp only [hfind] at h
    split at h
    · cases h
    split at h
    · cases h
    cases hsplit : (partitionAt '=' arg).bind fun (name, value) =>
        (find options name).map (·, value) with
    | some found =>
      obtain ⟨option, value⟩ := found
      simp only [hsplit, Token.option.injEq] at h
      obtain ⟨rfl, -, rfl⟩ := h
      obtain ⟨⟨name, value'⟩, hparts, hfound⟩ := Option.bind_eq_some_iff.mp hsplit
      obtain ⟨option', hname, heq⟩ := Option.map_eq_some_iff.mp hfound
      obtain ⟨rfl, rfl⟩ := Prod.mk.inj heq
      rw [name_of_find hname]
      exact ⟨List.mem_of_find?_eq_some hname, fun _ => hparts⟩
    | none =>
      have habbreviated : ∀ {start explicit'},
          abbreviated options arg start explicit' = .option action exact explicit →
          action ∈ options ∧ (exact = true → Spells arg action.name explicit) := by
        intro start explicit' h
        obtain ⟨rfl, hmem⟩ := of_abbreviated h
        exact ⟨hmem, fun h => absurd h Bool.false_ne_true⟩
      simp only [hsplit] at h
      split at h
      · split at h
        · exact habbreviated h
        · exact habbreviated h
      · grind

/-- **A spelled option is that option**, where no option string has a `=`. -/
theorem token_of_spells {arg name : String} {rest : List Char} {action : OptionAction δ}
    {explicit : Option String} (hnames : ∀ option ∈ options, '=' ∉ option.name.toList)
    (hname : name.toList = '-' :: rest) (hlong : name ≠ "--") (hrest : rest ≠ [])
    (hfind : find options name = some action) (h : Spells arg name explicit) :
    token options arg = .option action true explicit := by
  cases explicit with
  | none =>
    obtain rfl : arg = name := h
    simp only [token, hname, if_neg hlong, hfind]
  | some value =>
    have hsplit : partitionAt '=' arg = some (name, value) := h
    obtain ⟨hchars, -⟩ := partitionAt_eq_some hsplit
    have hequals : '=' ∈ arg.toList := by
      rw [hchars]
      exact List.mem_append_right _ List.mem_cons_self
    have hdashes : arg ≠ "--" := by
      rintro rfl
      exact absurd hequals (by decide)
    have hnone : find options arg = none := by
      refine List.find?_eq_none.mpr fun option hmem hsame => ?_
      rw [decide_eq_true_eq] at hsame
      exact hnames option hmem (hsame ▸ hequals)
    have hhelp : arg ∉ helpStrings := by
      intro hmem
      have hfree : ∀ help ∈ helpStrings, '=' ∉ help.toList := by decide
      exact hfree arg hmem hequals
    have hafter : rest ++ '=' :: value.toList ≠ [] := List.append_ne_nil_of_left_ne_nil hrest _
    rw [hname, List.cons_append] at hchars
    simp only [token, hchars, if_neg hdashes, hnone, if_neg hhelp, if_neg hafter, hsplit,
      Option.bind_some, hfind, Option.map_some]

end Exact

/-! ## What a successful parse means -/

section Parse

variable {options : List (OptionAction δ)} {given given' : Given δ} {skip : ℕ}

theorem occurrences_cons_argument {arg : String} {rest : List String} (dest : δ)
    (h : isArgument options arg = true) :
    occurrences options dest (arg :: rest) = occurrences options dest rest := by
  unfold isArgument at h
  rw [occurrences]
  cases htoken : token options arg with
  | argument => rfl
  | option action exact explicit =>
    rw [htoken] at h
    cases h
  | exits => rfl

/-- **A successful parse of an option** reads its arguments and goes on after them. -/
theorem parse_cons {arg : String} {rest : List String}
    (h : parse options 0 (arg :: rest) given = some given') :
    ∃ action exact explicit args taken, token options arg = .option action exact explicit ∧
      argumentsOf options action explicit rest = some (args, taken) ∧
      action.accepts args = true ∧
      parse options taken rest (Given.set given action.dest args) = some given' := by
  rw [parse] at h
  cases htoken : token options arg with
  | argument =>
    rw [htoken] at h
    cases h
  | exits =>
    rw [htoken] at h
    cases h
  | option action exact explicit =>
    simp only [htoken] at h
    cases hargs : argumentsOf options action explicit rest with
    | none =>
      simp only [hargs] at h
      cases h
    | some read =>
      obtain ⟨args, taken⟩ := read
      simp only [hargs] at h
      split at h
      · cases h
      next hok =>
        simp only [Bool.or_eq_true, Bool.not_eq_true', not_or, Bool.not_eq_false] at hok
        exact ⟨action, exact, explicit, args, taken, rfl, hargs, hok.1, h⟩

omit [DecidableEq δ] in
theorem argumentsOf_eq_some {action : OptionAction δ} {explicit : Option String}
    {rest args : List String} {taken : ℕ}
    (h : argumentsOf options action explicit rest = some (args, taken)) :
    args = reads action explicit rest ∧ args.length = action.nargs ∧
      (explicit = none → taken = action.nargs) ∧
      ∀ arg ∈ rest.take taken, isArgument options arg = true := by
  unfold argumentsOf at h
  cases explicit with
  | some value =>
    simp only at h
    split at h
    · next hone =>
      obtain ⟨rfl, rfl⟩ := Prod.mk.inj (Option.some.inj h)
      exact ⟨rfl, hone.symm, fun hnone => (Option.some_ne_none _ hnone).elim,
        fun arg harg => absurd harg List.not_mem_nil⟩
    · cases h
  | none =>
    simp only at h
    split at h
    · next hall =>
      obtain ⟨rfl, rfl⟩ := Prod.mk.inj (Option.some.inj h)
      exact ⟨rfl, hall.1, fun _ => rfl, fun arg harg => List.all_eq_true.mp hall.2 arg harg⟩
    · cases h

theorem parse_eq_some (dest : δ) {l : List String}
    (hskip : ∀ arg ∈ l.take skip, isArgument options arg = true)
    (h : parse options skip l given = some given') :
    given' dest =
      ((occurrences options dest l).getLast?.map (·.args)).or (given dest) := by
  induction l generalizing skip given with
  | nil =>
    rw [parse] at h
    rw [← Option.some.inj h]
    rfl
  | cons arg rest ih =>
    cases skip with
    | succ skip =>
      rw [parse] at h
      rw [occurrences_cons_argument dest (hskip arg (by simp)),
        ih (fun arg harg => hskip arg (by simp [harg])) h]
    | zero =>
      obtain ⟨action, exact, explicit, args, taken, htoken, hargs, -, hrest⟩ := parse_cons h
      obtain ⟨hread, -, -, hskip⟩ := argumentsOf_eq_some hargs
      rw [ih hskip hrest, occurrences]
      simp only [htoken]
      by_cases hdest : action.dest = dest
      · rw [if_pos hdest, List.getLast?_cons, hread]
        cases (occurrences options dest rest).getLast? with
        | none => simp [Given.set, hdest]
        | some last => simp
      · rw [if_neg hdest]
        have hsame : Given.set given action.dest args dest = given dest :=
          if_neg (Ne.symm hdest)
        rw [hsame]

/-- **The occurrences of a successful parse** have as many arguments as their option reads. -/
theorem length_args_of_parse (dest : δ) {l : List String}
    (hskip : ∀ arg ∈ l.take skip, isArgument options arg = true)
    (h : parse options skip l given = some given') :
    ∀ o ∈ occurrences options dest l, ∃ action ∈ options, action.dest = dest ∧
      o.args.length = action.nargs := by
  induction l generalizing skip given with
  | nil => exact fun o ho => absurd ho List.not_mem_nil
  | cons arg rest ih =>
    cases skip with
    | succ skip =>
      rw [parse] at h
      rw [occurrences_cons_argument dest (hskip arg (by simp))]
      exact ih (fun arg harg => hskip arg (by simp [harg])) h
    | zero =>
      obtain ⟨action, exact, explicit, args, taken, htoken, hargs, -, hrest⟩ := parse_cons h
      obtain ⟨hread, hlength, -, hskip⟩ := argumentsOf_eq_some hargs
      have hlater := ih hskip hrest
      rw [occurrences]
      simp only [htoken]
      by_cases hdest : action.dest = dest
      · rw [if_pos hdest, ← hread]
        intro o ho
        rcases List.mem_cons.mp ho with rfl | ho
        · exact ⟨action, (token_eq_option htoken).1, hdest, hlength⟩
        · exact hlater o ho
      · rw [if_neg hdest]
        exact hlater

theorem of_mem_occurrences {dest : δ} {o : Occurrence} {l : List String}
    (h : o ∈ occurrences options dest l) :
    ∃ arg ∈ l, ∃ action explicit, token options arg = .option action o.exact explicit ∧
      action.dest = dest := by
  induction l with
  | nil => cases h
  | cons arg rest ih =>
    have later : o ∈ occurrences options dest rest →
        ∃ arg' ∈ arg :: rest, ∃ action explicit,
          token options arg' = .option action o.exact explicit ∧ action.dest = dest := by
      intro h
      obtain ⟨arg', hmem, hrest⟩ := ih h
      exact ⟨arg', List.mem_cons_of_mem _ hmem, hrest⟩
    rw [occurrences] at h
    split at h
    next action exact explicit htoken =>
      split at h
      next hdest =>
        rcases List.mem_cons.mp h with rfl | h
        · exact ⟨arg, List.mem_cons_self, action, explicit, htoken, hdest⟩
        · exact later h
      · exact later h
    · exact later h

end Parse

end CommandLine

end FrankaDeploy.Foundation
