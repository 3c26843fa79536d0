import Mathlib.Data.List.Basic

/-!
# Call options

The functional-option mechanism of the `clientv2` package (`go/dpservice-go/clientv2`). A
`CallOption` is a Go `func(*callOptions)`, possibly nil; `buildCallOptions` applies the options
in order to the zero configuration, skipping the nil ones, and `toLegacyIgnored` turns the result
into the variadic `[][]uint32` argument of the legacy client.

The loop of `buildCallOptions` is a left fold of `applyOption`. Its one-step lemma
(`ignoredCodes_applyOption_nilOrWithIgnoredCodes`) and run lemma (`ignoredCodes_foldl`) give the
main result `toLegacyIgnored_concat`: the codes of a list of nil and `WithIgnoredCodes` options are
the concatenation of their codes, and the legacy form omits the argument exactly when there is no
code, and is otherwise one group holding all of them.
-/

namespace ClientV2

/-- `callOptions`, the configuration the options of one call build. -/
structure CallOptions where
  ignoredCodes : List UInt32
  deriving DecidableEq, Repr

/-- `CallOption`: a Go `func(*callOptions)`, where `none` is the nil function. -/
abbrev CallOption := Option (CallOptions → CallOptions)

/-- `WithIgnoredCodes(codes...)`. -/
def withIgnoredCodes (codes : List UInt32) : CallOption :=
  some fun o => { o with ignoredCodes := o.ignoredCodes ++ codes }

/-- The body of the loop of `buildCallOptions`: `if opt != nil { opt(&o) }`. -/
def applyOption (o : CallOptions) : CallOption → CallOptions
  | none => o
  | some opt => opt o

/-- `buildCallOptions(opts...)`: every option applied, in order, to the zero configuration. -/
def buildCallOptions (opts : List CallOption) : CallOptions :=
  opts.foldl applyOption ⟨[]⟩

/-- `toLegacyIgnored(opts...)`: nil when no code was set, else the one group of all the codes.
A nil `[][]uint32` is the empty list. -/
def toLegacyIgnored (opts : List CallOption) : List (List UInt32) :=
  let o := buildCallOptions opts
  if o.ignoredCodes.length = 0 then [] else [o.ignoredCodes]

/-! ## Any options -/

@[simp] theorem applyOption_none (o : CallOptions) : applyOption o none = o := rfl

@[simp] theorem ignoredCodes_applyOption_withIgnoredCodes (o : CallOptions) (codes : List UInt32) :
    (applyOption o (withIgnoredCodes codes)).ignoredCodes = o.ignoredCodes ++ codes := rfl

/-- Building from `xs ++ ys` runs the loop over `ys` from the configuration `xs` built. -/
theorem buildCallOptions_append (xs ys : List CallOption) :
    buildCallOptions (xs ++ ys) = ys.foldl applyOption (buildCallOptions xs) :=
  List.foldl_append ..

theorem toLegacyIgnored_eq_ite (opts : List CallOption) :
    toLegacyIgnored opts = if (buildCallOptions opts).ignoredCodes = [] then []
      else [(buildCallOptions opts).ignoredCodes] := by
  simp [toLegacyIgnored]

/-- The legacy form loses no code: its groups concatenate to the built codes. -/
theorem flatten_toLegacyIgnored (opts : List CallOption) :
    (toLegacyIgnored opts).flatten = (buildCallOptions opts).ignoredCodes := by
  rw [toLegacyIgnored_eq_ite]
  split <;> simp [*]

/-- A nil option is skipped wherever it stands. -/
theorem buildCallOptions_skip_nil (xs ys : List CallOption) :
    buildCallOptions (xs ++ none :: ys) = buildCallOptions (xs ++ ys) := by
  simp only [buildCallOptions_append, List.foldl_cons, applyOption_none]

/-- The legacy form is never an explicit empty group, nor more than one group. -/
theorem toLegacyIgnored_shape (opts : List CallOption) :
    toLegacyIgnored opts ≠ [[]] ∧ (toLegacyIgnored opts).length ≤ 1 := by
  rw [toLegacyIgnored_eq_ite]
  split <;> simp [*]

/-- The ignored groups `toLegacyIgnored` can give: none, or one nonempty group. -/
def LegacyIgnoredForm (groups : List (List UInt32)) : Prop :=
  groups = [] ∨ ∃ codes, codes ≠ [] ∧ groups = [codes]

/-- The legacy forms of all option lists are exactly the groups of `LegacyIgnoredForm`. -/
theorem exists_toLegacyIgnored_iff (groups : List (List UInt32)) :
    (∃ opts, toLegacyIgnored opts = groups) ↔ LegacyIgnoredForm groups := by
  constructor
  · rintro ⟨opts, rfl⟩
    rw [toLegacyIgnored_eq_ite]
    split
    · exact .inl rfl
    · exact .inr ⟨_, ‹_›, rfl⟩
  · rintro (rfl | ⟨codes, hcodes, rfl⟩)
    · exact ⟨[], rfl⟩
    · exact ⟨[withIgnoredCodes codes], by simp [toLegacyIgnored, buildCallOptions, hcodes]⟩

/-! ## Nil and `WithIgnoredCodes` options -/

/-- A call option of the kinds in use: `none` is a nil option and
`some codes` is `WithIgnoredCodes(codes...)`. -/
def nilOrWithIgnoredCodes : Option (List UInt32) → CallOption
  | none => none
  | some codes => withIgnoredCodes codes

@[simp] theorem ignoredCodes_applyOption_nilOrWithIgnoredCodes (o : CallOptions)
    (spec : Option (List UInt32)) :
    (applyOption o (nilOrWithIgnoredCodes spec)).ignoredCodes = o.ignoredCodes ++ spec.getD [] := by
  cases spec <;> simp [nilOrWithIgnoredCodes]

theorem ignoredCodes_foldl (specs : List (Option (List UInt32))) (o : CallOptions) :
    ((specs.map nilOrWithIgnoredCodes).foldl applyOption o).ignoredCodes =
      o.ignoredCodes ++ (specs.filterMap id).flatten := by
  induction specs generalizing o with
  | nil => simp
  | cons spec specs ih => cases spec <;> simp [ih]

/-- The codes built from nil and `WithIgnoredCodes` options are theirs, concatenated in order. -/
theorem ignoredCodes_buildCallOptions_map (specs : List (Option (List UInt32))) :
    (buildCallOptions (specs.map nilOrWithIgnoredCodes)).ignoredCodes =
      (specs.filterMap id).flatten :=
  ignoredCodes_foldl specs ⟨[]⟩

/-- **Option composition.** For options each nil or `WithIgnoredCodes(csᵢ)`, the built codes are
the concatenation of the `csᵢ` in order; the legacy form is omitted exactly when that is empty,
and is otherwise the one group of it; no options give an empty or a second group; and the codes
of `xs ++ ys` are those of `xs` then those of `ys`. -/
theorem toLegacyIgnored_concat (specs xs ys : List (Option (List UInt32))) :
    (buildCallOptions (specs.map nilOrWithIgnoredCodes)).ignoredCodes =
        (specs.filterMap id).flatten ∧
      toLegacyIgnored (specs.map nilOrWithIgnoredCodes) =
        (if (specs.filterMap id).flatten = [] then [] else [(specs.filterMap id).flatten]) ∧
      (∀ opts, toLegacyIgnored opts ≠ [[]] ∧ (toLegacyIgnored opts).length ≤ 1) ∧
      (buildCallOptions
          (xs.map nilOrWithIgnoredCodes ++ ys.map nilOrWithIgnoredCodes)).ignoredCodes =
        (buildCallOptions (xs.map nilOrWithIgnoredCodes)).ignoredCodes ++
          (buildCallOptions (ys.map nilOrWithIgnoredCodes)).ignoredCodes := by
  refine ⟨ignoredCodes_buildCallOptions_map specs, ?_, toLegacyIgnored_shape, ?_⟩
  · rw [toLegacyIgnored_eq_ite, ignoredCodes_buildCallOptions_map]
  · simp only [← List.map_append, ignoredCodes_buildCallOptions_map, List.filterMap_append,
      List.flatten_append]

example : toLegacyIgnored [withIgnoredCodes [1001], none, withIgnoredCodes [1002, 1003]] =
    [[1001, 1002, 1003]] := by decide

example : toLegacyIgnored [none, withIgnoredCodes []] = [] := by decide

end ClientV2
