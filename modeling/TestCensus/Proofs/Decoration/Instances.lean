import Mathlib.Algebra.BigOperators.Group.List.Basic
import Mathlib.Algebra.Order.BigOperators.Group.List
import TestCensus.Decoration

/-!
# The number of instances is a product

A test with decorators expands into as many instances as the product of what its
parametrizing calls multiply by.  The product is taken in saturating counts from the
first decorator to the last, and here it is compared with the exact product, cut to
the limit once.

*Argument values.*  `Argument.Supplied` says which argument of a call supplies the
argument values: the second positional one, or the first one called `argvalues` where
there are not two.  `argumentValues?_eq_some` says that this is the argument that is
looked at.

*Multiplicities.*  `Multiplies` relates a decorator to the number it multiplies by,
which is one for every decorator that is no parametrizing call.  Each decorator has
exactly one such number (`multiplies_iff`).

*Products.*  Cutting to the limit keeps products (`Count.ofNat_mul`), so it does not
matter where it is done (`instances_eq`).  Order, decorators of other shapes and
growth are then questions about a product of natural numbers.
-/

namespace TestCensus

/-! ## Argument values -/

/-- The value of a positional argument. -/
def Argument.positional? : Argument → Option ArgumentValue
  | .positional value => some value
  | .keyword _ _ => none
  | .splat => none

/-- The value of an argument of the given name. -/
def Argument.named? (name : String) : Argument → Option ArgumentValue
  | .keyword key value => if key = name then some value else none
  | .positional _ => none
  | .splat => none

/-- The argument values that the arguments of a parametrizing call supply. -/
inductive Argument.Supplied (arguments : List Argument) : ArgumentValue → Prop where
  /-- The second positional argument, wherever keywords and unpackings stand. -/
  | second {before between after : List Argument} {first value : ArgumentValue} :
      arguments = before ++ .positional first :: between ++ .positional value :: after →
      (∀ a ∈ before, a.positional? = none) → (∀ a ∈ between, a.positional? = none) →
      Supplied arguments value
  /-- The first argument called `argvalues`, if there is no second positional one. -/
  | named {before after : List Argument} {value : ArgumentValue} :
      arguments.countP (·.positional?.isSome) < 2 →
      arguments = before ++ .keyword "argvalues" value :: after →
      (∀ a ∈ before, a.named? "argvalues" = none) → Supplied arguments value

namespace Decoration

variable {callee : Decoration} {arguments : List Argument} {value : ArgumentValue}

theorem positionals_call :
    (call callee arguments).positionals = arguments.filterMap Argument.positional? := by
  unfold positionals
  refine List.filterMap_congr fun a _ => ?_
  cases a with
  | positional value => rfl
  | keyword name value => rfl
  | splat => rfl

theorem keyword?_call (name : String) :
    (call callee arguments).keyword? name = arguments.findSome? (Argument.named? name) := by
  unfold keyword?
  dsimp only
  congr 1
  funext a
  cases a with
  | positional value => rfl
  | keyword name value => rfl
  | splat => rfl

theorem positional?_eq_some {a : Argument} :
    a.positional? = some value ↔ a = .positional value := by
  cases a with
  | positional value => simp [Argument.positional?]
  | keyword name value => simp [Argument.positional?]
  | splat => simp [Argument.positional?]

theorem named?_eq_some {name : String} {a : Argument} :
    a.named? name = some value ↔ a = .keyword name value := by
  cases a with
  | positional value => simp [Argument.named?]
  | splat => simp [Argument.named?]
  | keyword key value =>
      by_cases h : key = name
      · simp [Argument.named?, h]
      · simp [Argument.named?, h]

/-- The second positional argument stands behind exactly one other. -/
theorem positionals_second :
    (call callee arguments).positionals[1]? = some value ↔
      ∃ before first between after,
        arguments = before ++ .positional first :: between ++ .positional value :: after ∧
        (∀ a ∈ before, a.positional? = none) ∧ ∀ a ∈ between, a.positional? = none := by
  rw [positionals_call]
  constructor
  · intro h
    cases hlist : arguments.filterMap Argument.positional? with
    | nil => simp [hlist] at h
    | cons first others =>
        obtain ⟨before, a, behind, rfl, hbefore, ha, hothers⟩ := List.filterMap_eq_cons_iff.1 hlist
        rw [hlist, List.getElem?_cons_succ, ← hothers] at h
        cases hrest : behind.filterMap Argument.positional? with
        | nil => simp [hrest] at h
        | cons second rest =>
            obtain ⟨between, b, after, rfl, hbetween, hb, -⟩ := List.filterMap_eq_cons_iff.1 hrest
            rw [hrest, List.getElem?_cons_zero, Option.some.injEq] at h
            obtain rfl := positional?_eq_some.1 ha
            obtain rfl := positional?_eq_some.1 hb
            exact ⟨before, first, between, after, by simp [h], hbefore, hbetween⟩
  · rintro ⟨before, first, between, after, rfl, hbefore, hbetween⟩
    simp [List.filterMap_append, Argument.positional?, List.filterMap_eq_nil_iff.2 hbefore,
      List.filterMap_eq_nil_iff.2 hbetween]

/-- The argument values looked at are those that the arguments supply. -/
theorem argumentValues?_eq_some :
    (call callee arguments).argumentValues? = some value ↔ Argument.Supplied arguments value := by
  unfold argumentValues?
  constructor
  · intro h
    split at h
    · rename_i found hsecond
      cases h
      obtain ⟨before, first, between, after, hlist, hbefore, hbetween⟩ :=
        positionals_second.1 hsecond
      exact .second hlist hbefore hbetween
    · rename_i hnone
      rw [positionals_call, List.getElem?_eq_none_iff, List.length_filterMap_eq_countP] at hnone
      rw [keyword?_call, List.findSome?_eq_some_iff] at h
      obtain ⟨before, a, after, hlist, ha, hbefore⟩ := h
      obtain rfl := named?_eq_some.1 ha
      exact .named (Nat.lt_succ_of_le hnone) hlist hbefore
  · intro h
    cases h with
    | second hlist hbefore hbetween =>
        rw [positionals_second.2 ⟨_, _, _, _, hlist, hbefore, hbetween⟩]
    | named hfew hlist hbefore =>
        have hnone : (call callee arguments).positionals[1]? = none := by
          rw [positionals_call, List.getElem?_eq_none_iff, List.length_filterMap_eq_countP]
          exact Nat.le_of_lt_succ hfew
        rw [hnone, keyword?_call, List.findSome?_eq_some_iff]
        exact ⟨_, _, _, hlist, named?_eq_some.2 rfl, hbefore⟩

/-! ## Multiplicities -/

/-- A call of `ns.mark.parametrize`. -/
def parametrizing (ns : String) (arguments : List Argument) : Decoration :=
  call (dotted [ns, "mark", "parametrize"]) arguments

/-- A decorator multiplies the number of instances by a number. -/
inductive Multiplies (ns : String) : Decoration → Nat → Prop where
  /-- A parametrizing call with a literal sequence.  An empty one counts once. -/
  | sized {arguments : List Argument} {length : Nat} :
      Argument.Supplied arguments (.sequence length) →
      Multiplies ns (parametrizing ns arguments) (max 1 length)
  /-- A parametrizing call without a literal sequence. -/
  | unsized {arguments : List Argument} :
      (∀ length, ¬Argument.Supplied arguments (.sequence length)) →
      Multiplies ns (parametrizing ns arguments) 1
  /-- Any other decorator. -/
  | other {d : Decoration} : (∀ arguments, d ≠ parametrizing ns arguments) → Multiplies ns d 1

/-- The number that a decorator multiplies by. -/
def multiplicity (ns : String) (d : Decoration) : Nat :=
  if d.isMarkCall ns "parametrize" then
    match d.argumentValues? with
    | some (.sequence length) => max 1 length
    | _ => 1
  else 1

variable {ns : String}

theorem markSegment?_eq_some {segments : List String} {member : String} :
    markSegment? ns segments = some member ↔ segments = [ns, "mark", member] := by
  unfold markSegment?
  split
  · rename_i first second segment
    by_cases h : first = ns ∧ second = "mark"
    · simp [h]
    · rw [if_neg h]
      simp only [List.cons.injEq, reduceCtorEq, false_iff]
      rintro ⟨hfirst, hsecond, -⟩
      exact h ⟨hfirst, hsecond⟩
  · rename_i hshort
    simp only [reduceCtorEq, false_iff]
    rintro rfl
    exact hshort _ _ _ rfl

/-- A parametrizing call is recognized. -/
theorem isMarkCall_iff {d : Decoration} :
    d.isMarkCall ns "parametrize" = true ↔ ∃ arguments, d = parametrizing ns arguments := by
  cases d with
  | name id => simp [isMarkCall, parametrizing]
  | dotted segments => simp [isMarkCall, parametrizing]
  | other text => simp [isMarkCall, parametrizing]
  | call callee arguments =>
      cases callee with
      | name id => simp [isMarkCall, parametrizing]
      | call callee' arguments' => simp [isMarkCall, parametrizing]
      | other text => simp [isMarkCall, parametrizing]
      | dotted segments => simp [isMarkCall, parametrizing, markSegment?_eq_some]

theorem isMarkCall_parametrizing (arguments : List Argument) :
    (parametrizing ns arguments).isMarkCall ns "parametrize" = true :=
  isMarkCall_iff.2 ⟨arguments, rfl⟩

theorem multiplicity_of_not_parametrizing {d : Decoration}
    (h : ∀ arguments, d ≠ parametrizing ns arguments) : multiplicity ns d = 1 := by
  refine if_neg fun hcall => ?_
  obtain ⟨arguments, hd⟩ := isMarkCall_iff.1 hcall
  exact h arguments hd

theorem multiplicity_parametrizing (arguments : List Argument) :
    multiplicity ns (parametrizing ns arguments) =
      match (parametrizing ns arguments).argumentValues? with
      | some (.sequence length) => max 1 length
      | _ => 1 :=
  if_pos (isMarkCall_parametrizing arguments)

/-- A parametrizing call multiplies by the length of the sequence it is given. -/
theorem multiplicity_sized {length : Nat} (h : Argument.Supplied arguments (.sequence length)) :
    multiplicity ns (parametrizing ns arguments) = max 1 length := by
  rw [multiplicity_parametrizing, parametrizing, argumentValues?_eq_some.2 h]

theorem multiplicity_unsized (h : ∀ length, ¬Argument.Supplied arguments (.sequence length)) :
    multiplicity ns (parametrizing ns arguments) = 1 := by
  rw [multiplicity_parametrizing]
  split
  · rename_i length hvalue
    exact absurd (argumentValues?_eq_some.1 hvalue) (h length)
  · rfl

/-- Every decorator multiplies by exactly one number. -/
theorem multiplies_iff {d : Decoration} {m : Nat} :
    Multiplies ns d m ↔ m = multiplicity ns d := by
  constructor
  · intro h
    cases h with
    | sized h => exact (multiplicity_sized h).symm
    | unsized h => exact (multiplicity_unsized h).symm
    | other h => exact (multiplicity_of_not_parametrizing h).symm
  · rintro rfl
    by_cases hcall : ∃ arguments, d = parametrizing ns arguments
    · obtain ⟨arguments, rfl⟩ := hcall
      by_cases hsized : ∃ length, Argument.Supplied arguments (.sequence length)
      · obtain ⟨length, hsized⟩ := hsized
        rw [multiplicity_sized hsized]
        exact .sized hsized
      · rw [multiplicity_unsized (not_exists.1 hsized)]
        exact .unsized (not_exists.1 hsized)
    · rw [multiplicity_of_not_parametrizing (not_exists.1 hcall)]
      exact .other (not_exists.1 hcall)

theorem multiplicity_pos (d : Decoration) : 1 ≤ multiplicity ns d := by
  unfold multiplicity
  split
  · split
    · exact Nat.le_max_left 1 _
    · exact Nat.le_refl 1
  · exact Nat.le_refl 1

/-! ## Products -/

theorem factor_eq {d : Decoration} (h : d.isMarkCall ns "parametrize" = true) :
    d.factor = Count.ofNat (multiplicity ns d) := by
  rw [multiplicity, if_pos h, factor]
  cases d.argumentValues? with
  | none => rfl
  | some value =>
      cases value with
      | sequence length => rfl
      | unsized => rfl

theorem foldl_factor (ds : List Decoration) (n : Nat) :
    ((ds.filter (isMarkCall ns "parametrize")).map factor).foldl Count.mul (Count.ofNat n) =
      Count.ofNat (n * (ds.map (multiplicity ns)).prod) := by
  induction ds generalizing n with
  | nil => simp
  | cons d ds ih =>
      rw [List.map_cons, List.prod_cons, ← Nat.mul_assoc]
      cases hcall : d.isMarkCall ns "parametrize" with
      | true =>
          rw [List.filter_cons_of_pos hcall, List.map_cons, List.foldl_cons, factor_eq hcall,
            ← ih, Count.ofNat_mul]
          rfl
      | false =>
          have hone : multiplicity ns d = 1 := if_neg (by simp [hcall])
          rw [List.filter_cons_of_neg (by simp [hcall]), hone, Nat.mul_one, ih]

/-- The number of instances is the exact product, cut to the limit once. -/
theorem instances_eq (ds : List Decoration) :
    instances ns ds = Count.ofNat (ds.map (multiplicity ns)).prod := by
  have hone : (1 : Count) = Count.ofNat 1 := rfl
  rw [instances, hone, foldl_factor, Nat.one_mul]

theorem product_pos (ds : List Decoration) : 1 ≤ (ds.map (multiplicity ns)).prod := by
  refine List.one_le_prod_of_one_le fun m hm => ?_
  obtain ⟨d, -, rfl⟩ := List.mem_map.1 hm
  exact multiplicity_pos d

/-! ## Instances -/

/-- What the number of instances of a test depends on. -/
structure ExpandsInto (ns : String) (count : List Decoration → Count) : Prop where
  /-- Each decorator multiplies by one number. -/
  determined : ∀ d, ∃! m, Multiplies ns d m
  /-- The number of instances is the product of these numbers, cut to the limit. -/
  product : ∀ ds ms, List.Forall₂ (Multiplies ns) ds ms →
    (count ds).val = min Count.limit ms.prod
  /-- There is always an instance. -/
  positive : ∀ ds, 1 ≤ (count ds).val
  /-- The order of the decorators does not matter. -/
  unordered : ∀ ds es : List Decoration, ds.Perm es → count ds = count es
  /-- Decorators that are no parametrizing calls do not matter. -/
  unaffected : ∀ ds others es : List Decoration,
    (∀ d ∈ others, ∀ arguments, d ≠ parametrizing ns arguments) →
    count (ds ++ others ++ es) = count (ds ++ es)
  /-- A further decorator never makes fewer instances. -/
  growing : ∀ (ds : List Decoration) (d : Decoration) (es : List Decoration),
    (count (ds ++ es)).val ≤ (count (ds ++ d :: es)).val

theorem forall₂_multiplies {ds : List Decoration} {ms : List Nat}
    (h : List.Forall₂ (Multiplies ns) ds ms) : ms = ds.map (multiplicity ns) := by
  induction h with
  | nil => rfl
  | cons hd _ ih => rw [List.map_cons, ← ih, multiplies_iff.1 hd]

/-- The number of instances of a test is the saturated product of what its decorators
multiply by. -/
theorem instances_expand (ns : String) : ExpandsInto ns (instances ns) where
  determined d := ⟨multiplicity ns d, multiplies_iff.2 rfl, fun _ => multiplies_iff.1⟩
  product ds ms h := by
    rw [forall₂_multiplies h, instances_eq, Count.ofNat_val, Nat.min_comm]
  positive ds := by
    rw [instances_eq, Count.ofNat_val]
    exact Nat.le_min.2 ⟨product_pos ds, by decide⟩
  unordered ds es h := by
    rw [instances_eq, instances_eq, (h.map (multiplicity ns)).prod_eq]
  unaffected ds others es h := by
    have hothers : (others.map (multiplicity ns)).prod = 1 := by
      refine List.prod_eq_one fun m hm => ?_
      obtain ⟨d, hd, rfl⟩ := List.mem_map.1 hm
      exact multiplicity_of_not_parametrizing (h d hd)
    simp only [instances_eq, List.map_append, List.prod_append, hothers, Nat.mul_one]
  growing ds d es := by
    simp only [instances_eq, List.map_append, List.map_cons, List.prod_append, List.prod_cons,
      Count.ofNat_val]
    have hle : (ds.map (multiplicity ns)).prod * (es.map (multiplicity ns)).prod ≤
        (ds.map (multiplicity ns)).prod * (multiplicity ns d * (es.map (multiplicity ns)).prod) :=
      Nat.mul_le_mul_left _ (Nat.le_mul_of_pos_left _ (multiplicity_pos d))
    omega

end Decoration

end TestCensus
