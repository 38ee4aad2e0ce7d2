import TestCensus.Decoration

/-!
# What questions about a decoration depend on

A decoration keeps source text where it is not looked into.  No question asked of a
decoration depends on that text: the text may be rewritten (`Decoration.rewritten`), and the
categories, the parametrizing calls and the number of instances stay what they are.  The
categories do not depend on the arguments either, so they are read off the decoration
without both (`Decoration.bare`).
-/

namespace TestCensus

namespace Decoration

/-- The decoration with the texts that it keeps rewritten. -/
def rewritten (f : String → String) : Decoration → Decoration
  | .name id => .name id
  | .dotted segments => .dotted segments
  | .call callee arguments => .call (callee.rewritten f) arguments
  | .other text => .other (f text)

/-- The decoration without the texts that it keeps. -/
def outline (d : Decoration) : Decoration := d.rewritten fun _ => ""

/-- The decoration without the texts and the arguments that it keeps. -/
def bare : Decoration → Decoration
  | .name id => .name id
  | .dotted segments => .dotted segments
  | .call callee _ => .call callee.bare []
  | .other _ => .other ""

variable {ns : String} (f : String → String)

@[simp] theorem rewritten_rewritten (g : String → String) (d : Decoration) :
    (d.rewritten g).rewritten f = d.rewritten (f ∘ g) := by
  induction d with
  | name id => rfl
  | dotted segments => rfl
  | call callee arguments ih => rw [rewritten, rewritten, rewritten, ih]
  | other text => rfl

@[simp] theorem rewritten_id (d : Decoration) : d.rewritten id = d := by
  induction d with
  | name id => rfl
  | dotted segments => rfl
  | call callee arguments ih => rw [rewritten, ih]
  | other text => rfl

@[simp] theorem outline_rewritten (d : Decoration) : (d.rewritten f).outline = d.outline :=
  rewritten_rewritten _ f d

@[simp] theorem outline_outline (d : Decoration) : d.outline.outline = d.outline :=
  outline_rewritten _ d

@[simp] theorem bare_bare (d : Decoration) : d.bare.bare = d.bare := by
  induction d with
  | name id => rfl
  | dotted segments => rfl
  | call callee arguments ih => rw [bare, bare, ih]
  | other text => rfl

/-- Decorations of one outline are the same without their arguments. -/
theorem bare_outline (d : Decoration) : d.outline.bare = d.bare := by
  unfold outline
  induction d with
  | name id => rfl
  | dotted segments => rfl
  | call callee arguments ih => rw [rewritten, bare, bare, ih]
  | other text => rfl

theorem bare_rewritten (d : Decoration) : (d.rewritten f).bare = d.bare := by
  rw [← bare_outline, outline_rewritten, bare_outline]

/-! ## Categories -/

theorem category?_bare (d : Decoration) : d.bare.category? ns = d.category? ns := by
  cases d with
  | name id => rfl
  | dotted segments => rfl
  | other text => rfl
  | call callee arguments => cases callee <;> rfl

/-- Decorations that differ in texts and arguments name the same categories. -/
theorem categoryNames_congr {as bs : List Decoration} (h : as.map bare = bs.map bare) :
    categoryNames ns as = categoryNames ns bs := by
  have hbare : ∀ ds : List Decoration, categoryNames ns (ds.map bare) = categoryNames ns ds := by
    intro ds
    simp only [categoryNames, List.filterMap_map, Function.comp_def, category?_bare]
  rw [← hbare as, h, hbare]

/-- Rewritten texts name the same categories. -/
theorem categoryNames_rewritten (ds : List Decoration) :
    categoryNames ns (ds.map (rewritten f)) = categoryNames ns ds :=
  categoryNames_congr (by simp only [List.map_map, Function.comp_def, bare_rewritten])

/-! ## Instances -/

theorem isMarkCall_bare (member : String) (d : Decoration) :
    d.bare.isMarkCall ns member = d.isMarkCall ns member := by
  cases d with
  | name id => rfl
  | dotted segments => rfl
  | other text => rfl
  | call callee arguments => cases callee <;> rfl

theorem factor_outline (d : Decoration) : d.outline.factor = d.factor := by
  cases d <;> rfl

/-- Decorations that differ in texts only make the same number of instances. -/
theorem instances_congr {as bs : List Decoration} (h : as.map outline = bs.map outline) :
    instances ns as = instances ns bs := by
  have houtline : ∀ ds : List Decoration, instances ns (ds.map outline) = instances ns ds := by
    intro ds
    have hcall : (isMarkCall ns "parametrize") ∘ outline = isMarkCall ns "parametrize" := by
      funext d
      rw [Function.comp_apply, ← isMarkCall_bare, bare_outline, isMarkCall_bare]
    rw [instances, List.filter_map, hcall, List.map_map]
    have hfactor : factor ∘ outline = factor := funext factor_outline
    rw [hfactor, ← instances]
  rw [← houtline as, h, houtline]

/-- Rewritten texts make the same number of instances. -/
theorem instances_rewritten (ds : List Decoration) :
    instances ns (ds.map (rewritten f)) = instances ns ds :=
  instances_congr (by simp only [List.map_map, Function.comp_def, outline_rewritten])

end Decoration

end TestCensus
