import Mathlib.Data.List.Flatten
import TestCensus.Proofs.Decoration.Instances

/-!
# Unpacked arguments

A parametrizing call is an ordinary call: its arguments are bound to the parameters of a
function when it is made, and only then is it known what an unpacked argument holds.  The
census does not wait for that.  It counts the arguments that are written, and takes the second
positional one for the argument values.

*Calls.*  An `Unpacking` says what an unpacked argument holds.  With it a call has positional
and named values, and `Signature.bind?` binds them: positional values to the first parameters,
in order, and named ones to theirs.  The call fails if there are too many positional values, a
name is not known, a parameter gets two values, or one without a default gets none.

*Places.*  `Argument.SuppliedAt` says at which place the argument stands that the census takes.
Nothing but unpacked arguments before it can come between this argument and the parameter
`argvalues`.

*Shifts.*  A single value before a positional argument is enough to shift it, and more values
only make it harder to bind the call (`Signature.Accepts.mono`).  So the argument that is taken
is always the right one exactly if no call with a single unpacked value before it can be bound
(`alwaysBound_iff`).
-/

namespace TestCensus

/-! ## The values of a call -/

/-- What an unpacked argument holds when the call is made. -/
inductive Unpacking where
  /-- A sequence of values. -/
  | values (count : Nat)
  /-- A mapping with these keys. -/
  | entries (names : List String)

/-- The number of positional values that an unpacked argument gives. -/
def Unpacking.count : Unpacking → Nat
  | .values count => count
  | .entries _ => 0

/-- The names of the values that an unpacked argument gives. -/
def Unpacking.names : Unpacking → List String
  | .values _ => []
  | .entries names => names

/-- Where a value of a call comes from. -/
inductive ValueOrigin where
  /-- It is the argument written at a place. -/
  | written (place : Nat)
  /-- It is unpacked from the argument at a place. -/
  | unpacked (place : Nat)
deriving DecidableEq

/-- The place of the argument that a value comes from. -/
def ValueOrigin.place : ValueOrigin → Nat
  | .written place => place
  | .unpacked place => place

/-- The positional values that an argument gives. -/
def Argument.placed (u : Unpacking) (place : Nat) : Argument → List ValueOrigin
  | .positional _ => [.written place]
  | .keyword _ _ => []
  | .splat => List.replicate u.count (.unpacked place)

/-- The positional values that are unpacked from an argument. -/
def Argument.unpacked (u : Unpacking) (place : Nat) : Argument → List ValueOrigin
  | .positional _ => []
  | .keyword _ _ => []
  | .splat => List.replicate u.count (.unpacked place)

/-- The named values that an argument gives. -/
def Argument.named (u : Unpacking) (place : Nat) : Argument → List (String × ValueOrigin)
  | .positional _ => []
  | .keyword name _ => [(name, .written place)]
  | .splat => u.names.map (·, .unpacked place)

/-- The positional values of arguments that stand from a place on, in order. -/
def placedFrom (u : Nat → Unpacking) (start : Nat) (arguments : List Argument) : List ValueOrigin :=
  (arguments.zipIdx start).flatMap fun p => p.1.placed (u p.2) p.2

/-- The named values of arguments that stand from a place on, in order. -/
def namedFrom (u : Nat → Unpacking) (start : Nat) (arguments : List Argument) :
    List (String × ValueOrigin) :=
  (arguments.zipIdx start).flatMap fun p => p.1.named (u p.2) p.2

/-! ## Binding -/

/-- The parameters of a function for argument names and argument values.  All parameters behind
these two have defaults. -/
structure Signature where
  /-- The further parameters that take positional values. -/
  further : List String
  /-- The parameters that are given by name only. -/
  nameOnly : List String

namespace Signature

/-- The parameters that take positional values. -/
def positionals (s : Signature) : List String := "argnames" :: "argvalues" :: s.further

/-- The names of the parameters that get positional and named values. -/
def filled (s : Signature) (placed : List ValueOrigin) (named : List (String × ValueOrigin)) :
    List String :=
  s.positionals.take placed.length ++ named.map Prod.fst

/-- A function can be called with these values. -/
structure Accepts (s : Signature) (placed : List ValueOrigin)
    (named : List (String × ValueOrigin)) : Prop where
  /-- There is a parameter for every positional value. -/
  room : placed.length ≤ s.positionals.length
  /-- There is a parameter for every named value. -/
  known : ∀ name ∈ named.map Prod.fst, name ∈ s.positionals ++ s.nameOnly
  /-- No parameter gets two values. -/
  once : (s.filled placed named).Nodup
  /-- The parameters without defaults get values. -/
  required : "argnames" ∈ s.filled placed named ∧ "argvalues" ∈ s.filled placed named

instance (s : Signature) (placed : List ValueOrigin) (named : List (String × ValueOrigin)) :
    Decidable (s.Accepts placed named) :=
  decidable_of_iff
    (placed.length ≤ s.positionals.length ∧
      (∀ name ∈ named.map Prod.fst, name ∈ s.positionals ++ s.nameOnly) ∧
      (s.filled placed named).Nodup ∧
      "argnames" ∈ s.filled placed named ∧ "argvalues" ∈ s.filled placed named)
    ⟨fun h => ⟨h.1, h.2.1, h.2.2.1, h.2.2.2⟩, fun h => ⟨h.room, h.known, h.once, h.required⟩⟩

/-- The values that the parameters get when a call is made, unless it fails. -/
def bind? (s : Signature) (u : Nat → Unpacking) (arguments : List Argument) :
    Option (List (String × ValueOrigin)) :=
  if s.Accepts (placedFrom u 0 arguments) (namedFrom u 0 arguments) then
    some (s.positionals.zip (placedFrom u 0 arguments) ++ namedFrom u 0 arguments)
  else none

end Signature

/-- One argument is unpacked to a single value, and all others to none. -/
def oneValueAt (place : Nat) : Nat → Unpacking := fun other =>
  .values (if other = place then 1 else 0)

section Values

variable {u : Nat → Unpacking} {front behind arguments : List Argument} {start place : Nat}

theorem placedFrom_append (u : Nat → Unpacking) (start : Nat) (front behind : List Argument) :
    placedFrom u start (front ++ behind) =
      placedFrom u start front ++ placedFrom u (start + front.length) behind := by
  rw [placedFrom, List.zipIdx_append, List.flatMap_append]
  rfl

theorem placedFrom_cons (u : Nat → Unpacking) (start : Nat) (a : Argument)
    (behind : List Argument) : placedFrom u start (a :: behind) =
      a.placed (u start) start ++ placedFrom u (start + 1) behind := by
  rw [placedFrom, List.zipIdx_cons, List.flatMap_cons]
  rfl

/-- Positional values come from the arguments that they are made of. -/
theorem place_lt_of_mem_placedFrom {x : ValueOrigin} (h : x ∈ placedFrom u start arguments) :
    x.place < start + arguments.length := by
  obtain ⟨⟨a, place⟩, ha, hx⟩ := List.mem_flatMap.1 h
  have hplace : x.place = place := by
    cases a with
    | positional value => rw [List.mem_singleton.1 hx]; rfl
    | keyword name value => exact absurd hx List.not_mem_nil
    | splat => rw [List.eq_of_mem_replicate hx]; rfl
  rw [hplace]
  exact (List.mem_zipIdx ha).2.1

/-- There is a value for each positional argument and those that are unpacked. -/
theorem length_placedFrom (u : Nat → Unpacking) (start : Nat) (arguments : List Argument) :
    (placedFrom u start arguments).length = arguments.countP (·.positional?.isSome) +
      ((arguments.zipIdx start).flatMap fun p => p.1.unpacked (u p.2) p.2).length := by
  induction arguments generalizing start with
  | nil => rfl
  | cons a arguments ih =>
      rw [placedFrom_cons, List.length_append, ih, List.countP_cons, List.zipIdx_cons,
        List.flatMap_cons, List.length_append]
      cases a with
      | positional value =>
          simp only [Argument.placed, Argument.positional?, Argument.unpacked,
            List.length_singleton, List.length_nil, Option.isSome_some, if_true]
          omega
      | keyword name value =>
          simp only [Argument.placed, Argument.positional?, Argument.unpacked,
            List.length_nil, Option.isSome_none, Bool.false_eq_true, if_false]
          omega
      | splat =>
          simp only [Argument.placed, Argument.positional?, Argument.unpacked,
            List.length_replicate, Option.isSome_none, Bool.false_eq_true, if_false]
          omega

/-- There are no values but those of positional arguments exactly if none are unpacked. -/
theorem length_placedFrom_eq_iff :
    (placedFrom u 0 arguments).length = arguments.countP (·.positional?.isSome) ↔
      ∀ place : Nat, arguments[place]? = some .splat → (u place).count = 0 := by
  rw [length_placedFrom, Nat.add_eq_left, List.length_eq_zero_iff, List.flatMap_eq_nil_iff]
  constructor
  · intro h place hget
    have hnil := h (.splat, place) (List.mk_mem_zipIdx_iff_getElem?.2 hget)
    exact (List.replicate_eq_nil_iff _).1 hnil
  · rintro h ⟨a, place⟩ hp
    cases a with
    | positional value => rfl
    | keyword name value => rfl
    | splat =>
        have hzero := h place (List.mk_mem_zipIdx_iff_getElem?.1 hp)
        exact (List.replicate_eq_nil_iff _).2 hzero

/-- A named argument gives a named value. -/
theorem mem_namedFrom {name : String} {value : ArgumentValue}
    (h : arguments[place]? = some (.keyword name value)) :
    (name, .written place) ∈ namedFrom u 0 arguments :=
  List.mem_flatMap.2 ⟨(.keyword name value, place), List.mk_mem_zipIdx_iff_getElem?.2 h, .head _⟩

/-- A single unpacked value is the least that an argument with values gives. -/
theorem placedFrom_oneValueAt_sublist (h : 1 ≤ (u place).count) (arguments : List Argument) :
    (placedFrom (oneValueAt place) 0 arguments).Sublist (placedFrom u 0 arguments) := by
  refine List.Sublist.flatMap_right _ fun p _ => ?_
  obtain ⟨a, other⟩ := p
  cases a with
  | positional value => exact .refl _
  | keyword name value => exact .refl _
  | splat =>
      refine (List.replicate_sublist_replicate _).2 ?_
      by_cases hother : other = place
      · rw [oneValueAt, if_pos hother, hother]
        exact h
      · rw [oneValueAt, if_neg hother]
        exact Nat.zero_le _

/-- Single values are not named. -/
theorem namedFrom_oneValueAt_sublist (u : Nat → Unpacking) (place : Nat)
    (arguments : List Argument) :
    (namedFrom (oneValueAt place) 0 arguments).Sublist (namedFrom u 0 arguments) := by
  refine List.Sublist.flatMap_right _ fun p _ => ?_
  obtain ⟨a, other⟩ := p
  cases a with
  | positional value => exact .refl _
  | keyword name value => exact .refl _
  | splat => exact List.nil_sublist _

end Values

/-! ## Names with values -/

/-- Where names are different, each has its value. -/
theorem lookup_of_mem {es : List (String × α)} (h : (es.map Prod.fst).Nodup) {name : String}
    {a : α} (hmem : (name, a) ∈ es) : es.lookup name = some a := by
  obtain ⟨before, after, rfl⟩ := List.append_of_mem hmem
  rw [List.map_append, List.nodup_append] at h
  refine List.lookup_eq_some_iff.2 ⟨before, after, rfl, fun e he => bne_iff_ne.2 ?_⟩
  exact (h.2.2 e.1 (List.mem_map_of_mem he) name (.head _)).symm

/-- As many names get a value as there are values. -/
theorem map_fst_zip (names : List String) (values : List α) :
    (names.zip values).map Prod.fst = names.take values.length := by
  induction names generalizing values with
  | nil => rw [List.zip_nil_left, List.take_nil, List.map_nil]
  | cons name names ih =>
      cases values with
      | nil => rfl
      | cons a values => rw [List.zip_cons_cons, List.map_cons, ih, List.length_cons,
          List.take_succ_cons]

namespace Signature

variable {s : Signature} {u : Nat → Unpacking} {arguments : List Argument}
  {b : List (String × ValueOrigin)}

/-- With fewer values a call can still be made if the first two parameters get some. -/
theorem Accepts.mono {placed placed' : List ValueOrigin}
    {named named' : List (String × ValueOrigin)} (h : s.Accepts placed named)
    (hplaced : placed'.length ≤ placed.length) (hnamed : named'.Sublist named)
    (htwo : 2 ≤ placed'.length) : s.Accepts placed' named' := by
  have hnames : (named'.map Prod.fst).Sublist (named.map Prod.fst) := hnamed.map _
  have hfirst : ["argnames", "argvalues"].Sublist (s.filled placed' named') :=
    ((List.take_sublist_take_left htwo : (s.positionals.take 2).Sublist _)).trans
      (List.sublist_append_left _ _)
  constructor
  case room => exact hplaced.trans h.room
  case known => exact fun name hname => h.known name (hnames.subset hname)
  case once => exact h.once.sublist ((List.take_sublist_take_left hplaced).append hnames)
  case required => exact ⟨hfirst.subset (by simp), hfirst.subset (by simp)⟩

theorem bind?_eq_some : s.bind? u arguments = some b ↔
    s.Accepts (placedFrom u 0 arguments) (namedFrom u 0 arguments) ∧
      b = s.positionals.zip (placedFrom u 0 arguments) ++ namedFrom u 0 arguments := by
  unfold bind?
  split
  · rename_i h
    simp [h, eq_comm]
  · rename_i h
    simp [h]

/-- The second of two positional values goes to the argument values. -/
theorem lookup_of_placed {x y : ValueOrigin} {rest : List ValueOrigin}
    (h : s.bind? u arguments = some b) (hplaced : placedFrom u 0 arguments = x :: y :: rest) :
    b.lookup "argvalues" = some y := by
  rw [(bind?_eq_some.1 h).2, hplaced]
  rfl

/-- A value that is named goes to its parameter. -/
theorem lookup_of_named {x : ValueOrigin} (h : s.bind? u arguments = some b)
    (hnamed : ("argvalues", x) ∈ namedFrom u 0 arguments) : b.lookup "argvalues" = some x := by
  obtain ⟨haccepts, rfl⟩ := bind?_eq_some.1 h
  refine lookup_of_mem ?_ (List.mem_append_right _ hnamed)
  rw [List.map_append, map_fst_zip]
  exact haccepts.once

end Signature

/-! ## The argument that is taken -/

/-- The argument at a place of a parametrizing call supplies the argument values. -/
inductive Argument.SuppliedAt (arguments : List Argument) : Nat → ArgumentValue → Prop where
  /-- It is the second positional argument. -/
  | second {front after : List Argument} {value : ArgumentValue} :
      arguments = front ++ .positional value :: after →
      front.countP (·.positional?.isSome) = 1 → SuppliedAt arguments front.length value
  /-- It is the first argument called `argvalues`, and there is no second positional one. -/
  | named {before after : List Argument} {value : ArgumentValue} :
      arguments.countP (·.positional?.isSome) < 2 →
      arguments = before ++ .keyword "argvalues" value :: after →
      (∀ a ∈ before, a.named? "argvalues" = none) → SuppliedAt arguments before.length value

variable {arguments front after : List Argument} {place : Nat} {value : ArgumentValue}

/-- An argument behind a single positional one is the second one. -/
theorem positionals_of_countP (callee : Decoration)
    (hone : front.countP (·.positional?.isSome) = 1) :
    (Decoration.call callee (front ++ .positional value :: after)).positionals[1]? =
      some value := by
  rw [← List.length_filterMap_eq_countP] at hone
  rw [Decoration.positionals_call, List.filterMap_append, List.getElem?_append_right hone.le, hone]
  rfl

/-- The argument values are those of the argument at some place. -/
theorem supplied_iff_exists :
    Argument.Supplied arguments value ↔ ∃ place, Argument.SuppliedAt arguments place value := by
  have hcount : ∀ l : List Argument, (∀ a ∈ l, a.positional? = none) →
      l.countP (·.positional?.isSome) = 0 := fun l hl =>
    List.countP_eq_zero.2 fun a ha => by simp [hl a ha]
  constructor
  · intro h
    cases h with
    | second hlist hbefore hbetween =>
        refine ⟨_, .second hlist ?_⟩
        rw [List.countP_append, List.countP_cons, hcount _ hbefore, hcount _ hbetween]
        rfl
    | named hfew hlist hbefore => exact ⟨_, .named hfew hlist hbefore⟩
  · rintro ⟨place, h⟩
    cases h with
    | second hlist hone =>
        have hvalues : (Decoration.call (.name "") arguments).argumentValues? = some value := by
          rw [Decoration.argumentValues?, hlist, positionals_of_countP _ hone]
        exact Decoration.argumentValues?_eq_some.1 hvalues
    | named hfew hlist hbefore => exact .named hfew hlist hbefore

/-- The argument at a place always gets to the argument values, however arguments are
unpacked. -/
def AlwaysBound (s : Signature) (arguments : List Argument) (place : Nat) : Prop :=
  ∀ u b, s.bind? u arguments = some b → b.lookup "argvalues" = some (.written place)

/-- No single value that is unpacked before the place makes a call. -/
def NeverShifted (s : Signature) (arguments : List Argument) (place : Nat) : Prop :=
  ∀ other < place, arguments[other]? = some .splat → s.bind? (oneValueAt other) arguments = none

variable {s : Signature} {u : Nat → Unpacking} {b : List (String × ValueOrigin)}

/-- A named argument is always bound. -/
theorem alwaysBound_of_named (h : arguments[place]? = some (.keyword "argvalues" value)) :
    AlwaysBound s arguments place :=
  fun _ _ hb => Signature.lookup_of_named hb (mem_namedFrom h)

/-- A positional argument is bound to the argument values exactly if there is a single
positional value before it. -/
theorem lookup_positional_iff (hone : 1 ≤ (placedFrom u 0 front).length)
    (hb : s.bind? u (front ++ .positional value :: after) = some b) :
    b.lookup "argvalues" = some (.written front.length) ↔
      (placedFrom u 0 front).length = 1 := by
  have hplaced : placedFrom u 0 (front ++ .positional value :: after) =
      placedFrom u 0 front ++ .written front.length :: placedFrom u (front.length + 1) after := by
    rw [placedFrom_append, placedFrom_cons, Nat.zero_add]
    rfl
  match hfront : placedFrom u 0 front with
  | [] => simp [hfront] at hone
  | [x] =>
      rw [hfront] at hplaced
      exact iff_of_true (Signature.lookup_of_placed hb hplaced) rfl
  | x :: y :: rest =>
      rw [hfront] at hplaced
      rw [Signature.lookup_of_placed hb hplaced]
      have hy : y.place < 0 + front.length :=
        place_lt_of_mem_placedFrom (u := u) (by rw [hfront]; simp)
      refine iff_of_false (fun h => ?_) (by simp)
      rw [Option.some.inj h, ValueOrigin.place, Nat.zero_add] at hy
      exact Nat.lt_irrefl _ hy

/-- The second positional argument is always bound exactly if it is never shifted. -/
theorem alwaysBound_second_iff (hone : front.countP (·.positional?.isSome) = 1) :
    AlwaysBound s (front ++ .positional value :: after) front.length ↔
      NeverShifted s (front ++ .positional value :: after) front.length := by
  have hpos : ∀ u, 1 ≤ (placedFrom u 0 front).length := by
    intro u
    rw [length_placedFrom, hone]
    exact Nat.le_add_right _ _
  have hiff : ∀ u, (placedFrom u 0 front).length = 1 ↔
      ∀ other : Nat, front[other]? = some .splat → (u other).count = 0 := by
    intro u
    rw [← hone]
    exact length_placedFrom_eq_iff
  constructor
  · intro h other hlt hsplat
    rw [List.getElem?_append_left hlt] at hsplat
    refine Option.eq_none_iff_forall_ne_some.2 fun b hb => ?_
    have hsingle := (hiff _).1 ((lookup_positional_iff (hpos _) hb).1 (h _ b hb)) other hsplat
    rw [oneValueAt, if_pos rfl] at hsingle
    exact Nat.one_ne_zero hsingle
  · intro h u b hb
    rw [lookup_positional_iff (hpos u) hb, hiff]
    intro other hsplat
    by_contra hcount
    have hlt := (List.getElem?_eq_some_iff.1 hsplat).1
    -- A single value at this place is enough to shift the argument, and the call is still made.
    have htwo : 2 ≤ (placedFrom (oneValueAt other) 0
        (front ++ .positional value :: after)).length := by
      rw [placedFrom_append, placedFrom_cons, List.length_append, List.length_append]
      have hfront := hpos (oneValueAt other)
      rw [Argument.placed, List.length_singleton]
      omega
    have haccepts := (Signature.bind?_eq_some.1 hb).1.mono
      (placedFrom_oneValueAt_sublist (Nat.one_le_iff_ne_zero.2 hcount) _).length_le
      (namedFrom_oneValueAt_sublist u other _) htwo
    have hnone := h other hlt (by rw [List.getElem?_append_left hlt, hsplat])
    rw [Signature.bind?, if_pos haccepts] at hnone
    cases hnone

/-- An argument that supplies the argument values is always bound exactly if it is named or
never shifted. -/
theorem alwaysBound_iff (h : Argument.SuppliedAt arguments place value) :
    AlwaysBound s arguments place ↔
      arguments[place]? = some (.keyword "argvalues" value) ∨ NeverShifted s arguments place := by
  cases h with
  | second hlist hone =>
      rename_i front after
      have hget : arguments[front.length]? = some (.positional value) := by
        rw [hlist, List.getElem?_append_right (Nat.le_refl _), Nat.sub_self]
        rfl
      rw [hget, hlist, alwaysBound_second_iff hone]
      simp
  | named hfew hlist hbefore =>
      rename_i before after
      have hget : arguments[before.length]? = some (.keyword "argvalues" value) := by
        rw [hlist, List.getElem?_append_right (Nat.le_refl _), Nat.sub_self]
        rfl
      exact iff_of_true (alwaysBound_of_named hget) (Or.inl hget)

/-! ## Literals -/

/-- A literal that is taken multiplies by its length, and it is always bound to the argument
values exactly if it is named or never shifted. -/
theorem literal_bound_iff (ns : String) (s : Signature) {arguments : List Argument}
    {place length : Nat} (h : Argument.SuppliedAt arguments place (.sequence length)) :
    (Decoration.parametrizing ns arguments).factor = Count.ofNat (max 1 length) ∧
      (AlwaysBound s arguments place ↔
        arguments[place]? = some (.keyword "argvalues" (.sequence length)) ∨
          NeverShifted s arguments place) := by
  refine ⟨?_, alwaysBound_iff h⟩
  have hvalues : (Decoration.parametrizing ns arguments).argumentValues? =
      some (.sequence length) :=
    Decoration.argumentValues?_eq_some.2 (supplied_iff_exists.2 ⟨place, h⟩)
  rw [Decoration.factor, hvalues]

/-- The signature of `parametrize`. -/
def parametrizeSignature : Signature where
  further := ["indirect", "ids", "scope"]
  nameOnly := ["_param_mark"]

/-- A literal behind an unpacked argument and the names. -/
def shiftedArguments : List Argument := [.splat, .positional .unsized, .positional (.sequence 3)]

/-- This literal may be shifted. -/
theorem literal_bound_shifted :
    Argument.SuppliedAt shiftedArguments 2 (.sequence 3) ∧
      (Decoration.parametrizing "pytest" shiftedArguments).factor = Count.ofNat 3 :=
  have hlist : shiftedArguments =
      [.splat, .positional .unsized] ++ .positional (.sequence 3) :: [] := rfl
  have h : Argument.SuppliedAt shiftedArguments 2 (.sequence 3) := .second hlist rfl
  ⟨h, (literal_bound_iff "pytest" parametrizeSignature h).1⟩

/-- With one value before them, the names go to the argument values, and the literal that is
counted to another parameter. -/
theorem shiftedArguments_counted :
    (Decoration.parametrizing "pytest" shiftedArguments).factor = Count.ofNat 3 ∧
      parametrizeSignature.bind? (oneValueAt 0) shiftedArguments =
        some [("argnames", .unpacked 0), ("argvalues", .written 1), ("indirect", .written 2)] ∧
      ¬AlwaysBound parametrizeSignature shiftedArguments 2 := by
  have hbind : parametrizeSignature.bind? (oneValueAt 0) shiftedArguments =
      some [("argnames", .unpacked 0), ("argvalues", .written 1), ("indirect", .written 2)] := by
    decide +kernel
  refine ⟨by decide +kernel, hbind, fun h => ?_⟩
  have hvalues := h _ _ hbind
  revert hvalues
  decide

end TestCensus
