import TestCensus.Proofs.Files.Spellings
import TestCensus.Proofs.Text.Joined
import TestCensus.Proofs.Text.Kept

/-!
# Reported paths

A path is reported by its components below a base, or by all of them if it is outside of the base
(`reported`).  They are joined by slashes, and since no component but the root holds one, the
joined text tells what is displayed of each component (`slashed_eq_iff`).

So paths whose names are texts are reported alike only if the same components are reported, and
then the paths are the same, or one of them is outside of the base and the other one is the base
followed by it (`reported_eq_iff`).  This does not happen to located files if every root is
absolute or within the base (`Anchored`).
-/

namespace TestCensus.Files

open TestCensus.Text

/-! ## Components of paths -/

namespace Component

/-- The component is the piece of a path that its text is. -/
def IsPiece (c : Component) : Prop := ofFirst? c.text.toList = some c ∧ '/' ∉ c.text.toList

variable {piece : List Char} {c d : Component}

theorem isPiece_of_ofInner? (hpiece : '/' ∉ piece) (h : ofInner? piece = some c) : c.IsPiece := by
  have htext := toList_text_of_ofInner? h
  refine ⟨?_, by rwa [htext]⟩
  rw [htext, ofFirst?, if_neg, h]
  rintro rfl
  cases h

theorem isPiece_of_ofFirst? (hpiece : '/' ∉ piece) (h : ofFirst? piece = some c) :
    c.IsPiece := by
  unfold ofFirst? at h
  split at h
  · cases h
    exact ⟨rfl, by decide⟩
  · exact isPiece_of_ofInner? hpiece h

theorem IsPiece.ne_root (h : c.IsPiece) : c ≠ .root := by
  rintro rfl
  exact h.2 (.head _)

theorem IsPiece.toList_ne_nil (h : c.IsPiece) : c.text.toList ≠ [] := by
  intro hnil
  have hfirst := h.1
  rw [hnil] at hfirst
  cases hfirst

/-- Components of paths are told apart by their texts. -/
theorem eq_of_text_eq (hc : c = .root ∨ c.IsPiece) (hd : d = .root ∨ d.IsPiece)
    (h : c.text = d.text) : c = d := by
  have hslash : '/' ∈ Component.root.text.toList := .head _
  rcases hc with rfl | hc
  · rcases hd with rfl | hd
    · rfl
    · exact absurd (h ▸ hslash) hd.2
  · rcases hd with rfl | hd
    · exact absurd (h ▸ hslash) hc.2
    · exact Option.some.inj (hc.1.symm.trans (h ▸ hd.1))

end Component

/-- The components are those of a path: pieces, perhaps behind the root. -/
def IsSpelled (cs : List Component) : Prop :=
  ∃ rest : List Component, (∀ c ∈ rest, c.IsPiece) ∧ (cs = rest ∨ cs = .root :: rest)

theorem isSpelled_components (p : Path) : IsSpelled p.components := by
  cases hpieces : splitOn '/' p.text.toList with
  | nil => exact absurd hpieces (splitOn_ne_nil _ _)
  | cons first inner =>
      have hclean : ∀ piece ∈ first :: inner, '/' ∉ piece :=
        fun piece hmem => not_mem_of_mem_splitOn (hpieces ▸ hmem)
      have hinner : ∀ c ∈ inner.filterMap Component.ofInner?, c.IsPiece := by
        intro c hc
        obtain ⟨piece, hmem, hpiece⟩ := List.mem_filterMap.1 hc
        exact Component.isPiece_of_ofInner? (hclean piece (.tail _ hmem)) hpiece
      rw [Path.components_of_pieces hpieces]
      cases p.isAbsolute with
      | true => exact ⟨_, hinner, .inr rfl⟩
      | false =>
          refine ⟨_, fun c hc => ?_, .inl rfl⟩
          rcases List.mem_append.1 hc with hc | hc
          · rw [if_neg Bool.false_ne_true, Option.mem_toList] at hc
            exact Component.isPiece_of_ofFirst? (hclean first (.head _)) hc
          · exact hinner c hc

namespace IsSpelled

variable {cs cs' start : List Component}

/-- The root stands at the beginning or nowhere. -/
theorem eq_nil_of_root (h : IsSpelled (start ++ .root :: cs)) : start = [] := by
  obtain ⟨rest, hrest, heq | heq⟩ := h
  · exact absurd rfl (hrest .root (heq ▸ List.mem_append_right _ (.head _))).ne_root
  · cases start with
    | nil => rfl
    | cons c start =>
        obtain ⟨-, rfl⟩ := List.cons.inj heq
        exact absurd rfl (hrest .root (List.mem_append_right _ (.head _))).ne_root

theorem of_append (h : IsSpelled (start ++ cs)) : IsSpelled cs := by
  obtain ⟨rest, hrest, heq | heq⟩ := h
  · exact ⟨cs, fun c hc => hrest c (heq ▸ List.mem_append_right _ hc), .inl rfl⟩
  · cases start with
    | nil => exact ⟨rest, hrest, .inr heq⟩
    | cons c start =>
        obtain ⟨-, rfl⟩ := List.cons.inj heq
        exact ⟨cs, fun c hc => hrest c (List.mem_append_right _ hc), .inl rfl⟩

theorem root_or_isPiece (h : IsSpelled cs) {c : Component} (hc : c ∈ cs) :
    c = .root ∨ c.IsPiece := by
  obtain ⟨rest, hrest, rfl | rfl⟩ := h
  · exact .inr (hrest c hc)
  · rcases List.mem_cons.1 hc with rfl | hc
    · exact .inl rfl
    · exact .inr (hrest c hc)

end IsSpelled

/-! ## Joined components -/

/-- What a reader sees of a component. -/
def Component.displayedText (c : Component) : String := displayed c.text

/-- The pieces between the slashes of the joined text of components. -/
def joinedPieces : List Component → List (List Char)
  | [] => [[]]
  | .root :: rest => [] :: [] :: rest.map fun c => c.displayedText.toList
  | c :: rest => c.displayedText.toList :: rest.map fun c => c.displayedText.toList

theorem joinedPieces_of_isPiece {c : Component} (h : c.IsPiece) (rest : List Component) :
    joinedPieces (c :: rest) = (c :: rest).map fun c => c.displayedText.toList := by
  cases c with
  | root => exact absurd rfl h.ne_root
  | here => rfl
  | up => rfl
  | name text => rfl

theorem joinedPieces_ne_nil (cs : List Component) : joinedPieces cs ≠ [] := by
  unfold joinedPieces
  split
  · exact List.cons_ne_nil _ _
  · exact List.cons_ne_nil _ _
  · exact List.cons_ne_nil _ _

theorem toList_slashed {cs : List Component} (h : IsSpelled cs) :
    (slashed cs).toList = ['/'].intercalate (joinedPieces cs) := by
  have htexts : ∀ cs : List Component, (slashed cs).toList =
      ['/'].intercalate (cs.map fun c => c.displayedText.toList) := by
    intro cs
    rw [slashed, String.toList_intercalate, List.map_map]
    rfl
  obtain ⟨rest, hrest, rfl | rfl⟩ := h
  · cases cs with
    | nil => rfl
    | cons c rest => rw [htexts, joinedPieces_of_isPiece (hrest c (.head _))]
  · rw [htexts]
    cases rest with
    | nil => rfl
    | cons c rest => rfl

theorem slash_not_mem_displayedText {c : Component} (h : c.IsPiece) :
    '/' ∉ c.displayedText.toList :=
  slash_not_mem_displayed h.2

theorem slash_not_mem_joinedPieces {cs : List Component} (h : IsSpelled cs) :
    ∀ piece ∈ joinedPieces cs, '/' ∉ piece := by
  have hpieces : ∀ {rest : List Component}, (∀ c ∈ rest, c.IsPiece) →
      ∀ piece ∈ rest.map (fun c => c.displayedText.toList), '/' ∉ piece := by
    intro rest hrest piece hpiece
    obtain ⟨c, hc, rfl⟩ := List.mem_map.1 hpiece
    exact slash_not_mem_displayedText (hrest c hc)
  obtain ⟨rest, hrest, rfl | rfl⟩ := h
  · cases cs with
    | nil => exact fun piece hpiece => List.mem_singleton.1 hpiece ▸ List.not_mem_nil
    | cons c rest =>
        rw [joinedPieces_of_isPiece (hrest c (.head _))]
        exact hpieces hrest
  · intro piece hpiece
    rcases List.mem_cons.1 hpiece with rfl | hpiece
    · exact List.not_mem_nil
    · rcases List.mem_cons.1 hpiece with rfl | hpiece
      · exact List.not_mem_nil
      · exact hpieces hrest piece hpiece

/-- The texts of components, read back from the pieces between slashes. -/
def textsOfPieces : List (List Char) → List String
  | [[]] => []
  | [] :: [] :: rest => "/" :: rest.map String.ofList
  | pieces => pieces.map String.ofList

/-- The pieces tell what is displayed of each component. -/
theorem textsOfPieces_joinedPieces {cs : List Component} (h : IsSpelled cs) :
    textsOfPieces (joinedPieces cs) = cs.map Component.displayedText := by
  have hread : ∀ rest : List Component,
      (rest.map fun c => c.displayedText.toList).map String.ofList =
        rest.map Component.displayedText := by
    intro rest
    rw [List.map_map]
    exact List.map_congr_left fun c _ => String.ofList_toList
  obtain ⟨rest, hrest, rfl | rfl⟩ := h
  · cases cs with
    | nil => rfl
    | cons c rest =>
        have hc := hrest c (.head _)
        rw [joinedPieces_of_isPiece hc, ← hread, List.map_cons]
        cases htext : c.displayedText.toList with
        | nil => exact absurd htext (toList_displayed_ne_nil hc.toList_ne_nil)
        | cons first text => rfl
  · rw [joinedPieces, textsOfPieces, hread]
    rfl

/-- The joined text tells what is displayed of each component. -/
theorem slashed_eq_iff {cs cs' : List Component} (h : IsSpelled cs) (h' : IsSpelled cs') :
    slashed cs = slashed cs' ↔
      cs.map Component.displayedText = cs'.map Component.displayedText := by
  constructor
  · intro hslashed
    have hchars := congrArg String.toList hslashed
    rw [toList_slashed h, toList_slashed h'] at hchars
    have hpieces := intercalate_inj (slash_not_mem_joinedPieces h) (slash_not_mem_joinedPieces h')
      (joinedPieces_ne_nil cs) (joinedPieces_ne_nil cs') hchars
    rw [← textsOfPieces_joinedPieces h, ← textsOfPieces_joinedPieces h', hpieces]
  · intro htexts
    exact congrArg ("/".intercalate ·) htexts

/-! ## What is reported -/

theorem below?_eq_some_iff {start cs rest : List Component} :
    below? start cs = some rest ↔ cs = start ++ rest := by
  induction start generalizing cs with
  | nil =>
      rw [below?, List.nil_append]
      exact Option.some_inj
  | cons s start ih =>
      cases cs with
      | nil =>
          rw [below?]
          exact iff_of_false (fun h => by cases h) fun h => by cases h
      | cons c cs =>
          rw [below?]
          split
          · rename_i hsame
            rw [ih, hsame, List.cons_append, List.cons.injEq, eq_self_iff_true, true_and]
          · rename_i hother
            exact iff_of_false (fun h => by cases h) fun h => hother (List.cons.inj h).1.symm

/-- The components of a path that are reported. -/
def reported (base : List Component) (p : Path) : List Component :=
  (below? base p.components).getD p.components

variable {base : List Component} {p q : Path}

theorem reported_within {rest : List Component} (h : p.components = base ++ rest) :
    reported base p = rest := by
  rw [reported, below?_eq_some_iff.2 h, Option.getD_some]

theorem reported_outside (h : ¬base <+: p.components) : reported base p = p.components := by
  have hnone : below? base p.components = none := by
    rw [Option.eq_none_iff_forall_ne_some]
    exact fun rest hrest => h ⟨rest, (below?_eq_some_iff.1 hrest).symm⟩
  rw [reported, hnone, Option.getD_none]

theorem isSpelled_reported (base : List Component) (p : Path) : IsSpelled (reported base p) := by
  have hspelled := isSpelled_components p
  by_cases hprefix : base <+: p.components
  · obtain ⟨rest, hrest⟩ := hprefix
    rw [reported_within hrest.symm]
    exact IsSpelled.of_append (hrest ▸ hspelled)
  · rwa [reported_outside hprefix]

/-- Paths are reported alike if a reader sees the same in all components that are reported. -/
theorem relativePath_eq_iff : relativePath base p = relativePath base q ↔
    (reported base p).map Component.displayedText =
      (reported base q).map Component.displayedText :=
  slashed_eq_iff (isSpelled_reported base p) (isSpelled_reported base q)

/-- All names in the path are texts. -/
def Path.isExact (p : Path) : Bool := p.components.all fun c => Text.isExact c.text

/-- The second path is outside of the base, and the first one is the base followed by it. -/
def Shadows (base : List Component) (p q : Path) : Prop :=
  ¬base <+: q.components ∧ p.components = base ++ q.components

/-- The same components are reported of paths that are the same, and of paths one of which is the
base followed by the other one. -/
theorem reported_eq_iff : reported base p = reported base q ↔
    p.components = q.components ∨ Shadows base p q ∨ Shadows base q p := by
  by_cases hp : base <+: p.components
  · obtain ⟨rest, hrest⟩ := hp
    have hq' : ¬Shadows base q p := fun h => h.1 ⟨rest, hrest⟩
    rw [reported_within hrest.symm, or_iff_left hq']
    by_cases hq : base <+: q.components
    · have hp' : ¬Shadows base p q := fun h => h.1 hq
      obtain ⟨rest', hrest'⟩ := hq
      rw [reported_within hrest'.symm, or_iff_left hp', ← hrest, ← hrest',
        List.append_cancel_left_eq]
    · have hne : p.components ≠ q.components := fun h => hq (h ▸ ⟨rest, hrest⟩)
      rw [reported_outside hq, or_iff_right hne, Shadows, and_iff_right hq, ← hrest,
        List.append_cancel_left_eq]
  · have hp' : ∀ {r : Path}, ¬Shadows base p r := fun h => hp ⟨_, h.2.symm⟩
    rw [reported_outside hp, or_iff_right hp']
    by_cases hq : base <+: q.components
    · have hne : p.components ≠ q.components := fun h => hp (h ▸ hq)
      obtain ⟨rest, hrest⟩ := hq
      rw [reported_within hrest.symm, or_iff_right hne, Shadows, and_iff_right hp, ← hrest,
        List.append_cancel_left_eq, eq_comm]
    · have hq' : ¬Shadows base q p := fun h => hq ⟨_, h.2.symm⟩
      rw [reported_outside hq, or_iff_left hq']

/-- Components without stray bytes are told apart by what a reader sees. -/
theorem displayedTexts_inj {cs cs' : List Component} (h : IsSpelled cs) (h' : IsSpelled cs')
    (hexact : ∀ c ∈ cs, isExact c.text = true) (hexact' : ∀ c ∈ cs', isExact c.text = true)
    (htexts : cs.map Component.displayedText = cs'.map Component.displayedText) : cs = cs' := by
  have hlength : cs.length = cs'.length := by
    rw [← List.length_map Component.displayedText, htexts, List.length_map]
  refine List.ext_getElem hlength fun i hi hi' => ?_
  have hboth := congrArg (·[i]?) htexts
  have hsame : cs[i].displayedText = cs'[i].displayedText := by simpa [hi, hi'] using hboth
  have hmem := List.getElem_mem hi
  have hmem' := List.getElem_mem hi'
  rw [Component.displayedText, Component.displayedText, displayed_of_isExact (hexact _ hmem),
    displayed_of_isExact (hexact' _ hmem')] at hsame
  exact Component.eq_of_text_eq (h.root_or_isPiece hmem) (h'.root_or_isPiece hmem') hsame

theorem mem_of_mem_reported {c : Component} (h : c ∈ reported base p) : c ∈ p.components := by
  by_cases hprefix : base <+: p.components
  · obtain ⟨rest, hrest⟩ := hprefix
    rw [reported_within hrest.symm] at h
    rw [← hrest]
    exact List.mem_append_right _ h
  · rwa [reported_outside hprefix] at h

/-- Paths whose names are texts are reported alike if they are the same, or if one of them is the
base followed by the other one. -/
theorem relativePath_eq_iff_of_isExact (hp : p.isExact = true) (hq : q.isExact = true) :
    relativePath base p = relativePath base q ↔
      p.components = q.components ∨ Shadows base p q ∨ Shadows base q p := by
  rw [relativePath_eq_iff, ← reported_eq_iff]
  constructor
  · exact displayedTexts_inj (isSpelled_reported base p) (isSpelled_reported base q)
      (fun c hc => List.all_eq_true.1 hp c (mem_of_mem_reported hc))
      fun c hc => List.all_eq_true.1 hq c (mem_of_mem_reported hc)
  · exact fun h => congrArg _ h

end TestCensus.Files

namespace TestCensus.ScanSettings

open TestCensus.Files

variable {s : ScanSettings} {t : Tree} {roots : List Path} {base : List Component} {p q : Path}
  {located : LocatedFiles}

/-! ## Located files -/

/-- Every root is within the base or absolute. -/
def Anchored (base : List Component) (roots : List Path) : Prop :=
  ∀ root ∈ roots, base <+: root.components ∨ root.isAbsolute = true

/-- Located files are told apart by their components. -/
theorem eq_of_components_eq (h : s.findFiles t roots = .ok located) (hp : p ∈ located.files)
    (hq : q ∈ located.files) (hcomponents : p.components = q.components) : p = q := by
  have hsymm : Std.Symm fun p q : Path => p.components ≠ q.components := ⟨fun _ _ => Ne.symm⟩
  by_contra hne
  exact (findFiles_distinct h).forall hp hq hne hcomponents

/-- No located file is outside of the base in such a way that it may be taken for one within the
base, if the roots are anchored. -/
theorem not_shadows (hproper : t.isProper = true) (h : s.findFiles t roots = .ok located)
    (hanchored : Anchored base roots) (hq : q ∈ located.files) : ¬Shadows base p q := by
  rintro ⟨houtside, hp⟩
  obtain ⟨root, hroot, hyields⟩ := exists_yields_of_mem h hq
  obtain ⟨-, -, below, -, hbelow⟩ := hyields.below hproper
  rcases hanchored root hroot with hwithin | habsolute
  · exact houtside (hbelow ▸ hwithin.trans (List.prefix_append _ _))
  · have hmem := hbelow ▸ List.mem_append_left (below.map Component.name)
      (Path.root_mem_components.2 habsolute)
    obtain ⟨front, back, hsplit⟩ := List.append_of_mem hmem
    -- The root of the file system begins a path, so nothing is in front of it.
    have hspelled := isSpelled_components p
    rw [hp, hsplit, ← List.append_assoc] at hspelled
    obtain ⟨rfl, -⟩ := List.append_eq_nil_iff.1 hspelled.eq_nil_of_root
    exact houtside (List.nil_prefix)

/-- Reported paths identify located files whose names are texts, if the roots are anchored. -/
theorem relativePath_inj (hproper : t.isProper = true) (h : s.findFiles t roots = .ok located)
    (hanchored : Anchored base roots) (hp : p ∈ located.files) (hq : q ∈ located.files)
    (hexact : p.isExact = true) (hexact' : q.isExact = true)
    (heq : relativePath base p = relativePath base q) : p = q := by
  rcases (relativePath_eq_iff_of_isExact hexact hexact').1 heq with hsame | hshadows | hshadows
  · exact eq_of_components_eq h hp hq hsame
  · exact absurd hshadows (not_shadows hproper h hanchored hq)
  · exact absurd hshadows (not_shadows hproper h hanchored hp)

end TestCensus.ScanSettings
