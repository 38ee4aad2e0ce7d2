import TestCensus.Proofs.Files.Joining
import TestCensus.Proofs.Files.Outline

/-!
# Where paths lead

`followPieces` goes along the pieces of a path and counts links down.  `Leads` says the same as a
relation, with the number of links that were followed, and without a limit
(`followPieces_eq_ok_iff`).

What holds of where paths lead is then read off the relation.  A path may be followed in two parts
(`leads_append`), so the path of an entry leads to the entry if that of its directory leads to the
directory (`Tree.place?_join`).  Pieces that stay where they are can be left out
(`Leads.moving`), so two paths with the same components lead to the same place, if both of
them lead anywhere (`Tree.place?_congr`).
-/

namespace TestCensus.Files

open TestCensus.Text

/-! ## The relation -/

/-- Pieces lead from a place to another one, through a number of links. -/
inductive Leads (root : Node) : Place → List (List Char) → Nat → Place → Prop where
  /-- Nothing is left to follow. -/
  | done (place : Place) : Leads root place [] 0 place
  /-- An empty piece and a dot stay. -/
  | stay {names : List String} {es : List (String × Node)} {piece : List Char}
      {rest : List (List Char)} {n : Nat} {found : Place} :
      Component.ofInner? piece = none →
      Leads root ⟨names, .directory es⟩ rest n found →
      Leads root ⟨names, .directory es⟩ (piece :: rest) n found
  /-- Two dots go to the directory above. -/
  | up {names : List String} {es : List (String × Node)} {piece : List Char}
      {rest : List (List Char)} {n : Nat} {found : Place} :
      Component.ofInner? piece = some .up →
      Leads root ⟨names.dropLast, (root.at? names.dropLast).getD root⟩ rest n found →
      Leads root ⟨names, .directory es⟩ (piece :: rest) n found
  /-- The name of an entry goes to it. -/
  | enter {names : List String} {es : List (String × Node)} {piece : List Char}
      {rest : List (List Char)} {n : Nat} {found : Place} {name : String} {child : Node} :
      Component.ofInner? piece = some (.name name) → (keptBytes name).length ≤ nameLimit →
      es.lookup name = some child → (∀ target, child ≠ .link target) →
      Leads root ⟨names ++ [name], child⟩ rest n found →
      Leads root ⟨names, .directory es⟩ (piece :: rest) n found
  /-- An empty piece behind a closed directory stays. -/
  | pass {names : List String} {why : PathError} {rest : List (List Char)} {n : Nat}
      {found : Place} :
      Leads root ⟨names, .closed why⟩ rest n found →
      Leads root ⟨names, .closed why⟩ ([] :: rest) n found
  /-- A link is replaced by its target. -/
  | link {names : List String} {es : List (String × Node)} {piece : List Char}
      {rest : List (List Char)} {n : Nat} {found : Place} {name target : String} :
      Component.ofInner? piece = some (.name name) → (keptBytes name).length ≤ nameLimit →
      es.lookup name = some (.link target) →
      Leads root (if Path.isAbsolute ⟨target⟩ then ⟨[], root⟩ else ⟨names, .directory es⟩)
        (splitOn '/' target.toList ++ rest) n found →
      Leads root ⟨names, .directory es⟩ (piece :: rest) (n + 1) found

section Following

variable {root : Node} {place found : Place} {pieces rest : List (List Char)} {links n : Nat}

/-- Following pieces one by one, where links lead on as the relation says. -/
theorem leads_of_stepThrough {follow : Place → List (List Char) → Except PathError Landing}
    (hfollow : ∀ place pieces found, follow place pieces = .ok (.present found) →
      ∃ n, n + 1 ≤ links ∧ Leads root place pieces n found)
    (h : stepThrough root true follow place pieces = .ok (.present found)) :
    ∃ n, n ≤ links ∧ Leads root place pieces n found := by
  induction pieces generalizing place with
  | nil =>
      cases h
      exact ⟨0, Nat.zero_le _, .done _⟩
  | cons piece rest ih =>
      obtain ⟨names, node⟩ := place
      cases node with
      | file content => cases h
      | link target => cases h
      | closed why =>
          by_cases hpiece : piece = []
          · subst hpiece
            rw [stepThrough_pass] at h
            obtain ⟨n, hn, hleads⟩ := ih h
            exact ⟨n, hn, .pass hleads⟩
          · rw [stepThrough_closed hpiece] at h
            cases h
      | directory es =>
          cases turn es piece with
          | stay hpiece =>
              rw [stepThrough_stay hpiece] at h
              obtain ⟨n, hn, hleads⟩ := ih h
              exact ⟨n, hn, .stay hpiece hleads⟩
          | up hpiece =>
              rw [stepThrough_up hpiece] at h
              obtain ⟨n, hn, hleads⟩ := ih h
              exact ⟨n, hn, .up hpiece hleads⟩
          | long hpiece hlength =>
              rw [stepThrough_long hpiece hlength] at h
              cases h
          | missing hpiece hlength hchild =>
              rw [stepThrough_missing hpiece hlength hchild] at h
              split at h
              · cases h
              · cases h
          | link hpiece hlength hchild =>
              rw [stepThrough_link hpiece hlength hchild, Bool.not_true, Bool.and_false,
                if_neg Bool.false_ne_true] at h
              obtain ⟨n, hn, hleads⟩ := hfollow _ _ _ h
              exact ⟨n + 1, hn, .link hpiece hlength hchild hleads⟩
          | enter hpiece hlength hchild hnode =>
              rw [stepThrough_enter hpiece hlength hchild hnode] at h
              obtain ⟨n, hn, hleads⟩ := ih h
              exact ⟨n, hn, .enter hpiece hlength hchild hnode hleads⟩

theorem leads_of_followPieces
    (h : followPieces root true links place pieces = .ok (.present found)) :
    ∃ n, n ≤ links ∧ Leads root place pieces n found := by
  induction links generalizing place pieces found with
  | zero => exact leads_of_stepThrough (fun _ _ _ hnone => by cases hnone) h
  | succ links ih =>
      refine leads_of_stepThrough (fun _ _ _ hfollow => ?_) h
      obtain ⟨n, hn, hleads⟩ := ih hfollow
      exact ⟨n, Nat.succ_le_succ hn, hleads⟩

/-- Pieces are followed in single steps, and there is a way to go on where a link was. -/
theorem exists_followPieces_eq (root : Node) (links : Nat) :
    ∃ follow, followPieces root true links = stepThrough root true follow ∧
      ∀ fewer, links = fewer + 1 → follow = followPieces root true fewer := by
  cases links with
  | zero => exact ⟨_, rfl, fun _ h => by cases h⟩
  | succ fewer => exact ⟨_, rfl, fun _ h => by cases h; rfl⟩

/-- With enough links, pieces are followed to where they lead. -/
theorem Leads.followPieces (h : Leads root place pieces n found) (hn : n ≤ links) :
    followPieces root true links place pieces = .ok (.present found) := by
  induction h generalizing links with
  | done place =>
      obtain ⟨follow, heq, -⟩ := exists_followPieces_eq root links
      rw [heq, stepThrough]
  | stay hpiece _ ih =>
      have hrest := ih hn
      obtain ⟨follow, heq, -⟩ := exists_followPieces_eq root links
      rw [heq] at hrest ⊢
      rw [stepThrough_stay hpiece]
      exact hrest
  | up hpiece _ ih =>
      have hrest := ih hn
      obtain ⟨follow, heq, -⟩ := exists_followPieces_eq root links
      rw [heq] at hrest ⊢
      rw [stepThrough_up hpiece]
      exact hrest
  | enter hpiece hlength hchild hnode _ ih =>
      have hrest := ih hn
      obtain ⟨follow, heq, -⟩ := exists_followPieces_eq root links
      rw [heq] at hrest ⊢
      rw [stepThrough_enter hpiece hlength hchild hnode]
      exact hrest
  | pass _ ih =>
      have hrest := ih hn
      obtain ⟨follow, heq, -⟩ := exists_followPieces_eq root links
      rw [heq] at hrest ⊢
      rw [stepThrough_pass]
      exact hrest
  | link hpiece hlength hchild _ ih =>
      -- The link uses up one of the links that are left, so there is one.
      obtain ⟨fewer, rfl⟩ : ∃ fewer, links = fewer + 1 :=
        ⟨links - 1, (Nat.sub_add_cancel (Nat.le_trans (Nat.succ_pos _) hn)).symm⟩
      have hrest := ih (Nat.le_of_succ_le_succ hn)
      obtain ⟨follow, heq, hfollow⟩ := exists_followPieces_eq root (fewer + 1)
      rw [← hfollow fewer rfl] at hrest
      rw [heq, stepThrough_link hpiece hlength hchild, Bool.not_true, Bool.and_false,
        if_neg Bool.false_ne_true]
      exact hrest

/-- Pieces are followed to where they lead if there are not too many links. -/
theorem followPieces_eq_ok_iff :
    followPieces root true links place pieces = .ok (.present found) ↔
      ∃ n, n ≤ links ∧ Leads root place pieces n found :=
  ⟨leads_of_followPieces, fun ⟨_, hn, hleads⟩ => hleads.followPieces hn⟩

/-- Pieces lead to one place only. -/
theorem Leads.unique {found' : Place} {n' : Nat} (h : Leads root place pieces n found)
    (h' : Leads root place pieces n' found') : found = found' := by
  have hfound := h.followPieces (Nat.le_max_left n n')
  have hfound' := h'.followPieces (Nat.le_max_right n n')
  rw [hfound] at hfound'
  cases hfound'
  rfl

/-- Pieces that lead somewhere may be followed in two parts. -/
theorem leads_append {front back : List (List Char)} :
    Leads root place (front ++ back) n found ↔ ∃ mid i j, i + j = n ∧
      Leads root place front i mid ∧ Leads root mid back j found := by
  constructor
  · intro h
    generalize hpieces : front ++ back = pieces at h
    induction h generalizing front with
    | done place =>
        obtain ⟨rfl, rfl⟩ := List.append_eq_nil_iff.1 hpieces
        exact ⟨_, 0, 0, rfl, .done _, .done _⟩
    | @stay names es piece rest n found hpiece hrest ih =>
        rcases List.append_eq_cons_iff.1 hpieces with ⟨rfl, rfl⟩ | ⟨front', rfl, rfl⟩
        · exact ⟨_, 0, n, Nat.zero_add n, .done _, .stay hpiece hrest⟩
        · obtain ⟨mid, i, j, hsum, hfront, hback⟩ := ih rfl
          exact ⟨mid, i, j, hsum, .stay hpiece hfront, hback⟩
    | @up names es piece rest n found hpiece hrest ih =>
        rcases List.append_eq_cons_iff.1 hpieces with ⟨rfl, rfl⟩ | ⟨front', rfl, rfl⟩
        · exact ⟨_, 0, n, Nat.zero_add n, .done _, .up hpiece hrest⟩
        · obtain ⟨mid, i, j, hsum, hfront, hback⟩ := ih rfl
          exact ⟨mid, i, j, hsum, .up hpiece hfront, hback⟩
    | @enter names es piece rest n found name child hpiece hlength hchild hnode hrest ih =>
        rcases List.append_eq_cons_iff.1 hpieces with ⟨rfl, rfl⟩ | ⟨front', rfl, rfl⟩
        · exact ⟨_, 0, n, Nat.zero_add n, .done _, .enter hpiece hlength hchild hnode hrest⟩
        · obtain ⟨mid, i, j, hsum, hfront, hback⟩ := ih rfl
          exact ⟨mid, i, j, hsum, .enter hpiece hlength hchild hnode hfront, hback⟩
    | @pass names why rest n found hrest ih =>
        rcases List.append_eq_cons_iff.1 hpieces with ⟨rfl, rfl⟩ | ⟨front', rfl, rfl⟩
        · exact ⟨_, 0, n, Nat.zero_add n, .done _, .pass hrest⟩
        · obtain ⟨mid, i, j, hsum, hfront, hback⟩ := ih rfl
          exact ⟨mid, i, j, hsum, .pass hfront, hback⟩
    | @link names es piece rest n found name target hpiece hlength hchild hrest ih =>
        rcases List.append_eq_cons_iff.1 hpieces with ⟨rfl, rfl⟩ | ⟨front', rfl, rfl⟩
        · exact ⟨_, 0, n + 1, Nat.zero_add _, .done _, .link hpiece hlength hchild hrest⟩
        · obtain ⟨mid, i, j, hsum, hfront, hback⟩ := ih (List.append_assoc _ _ _)
          exact ⟨mid, i + 1, j, by omega, .link hpiece hlength hchild hfront, hback⟩
  · rintro ⟨mid, i, j, rfl, hfront, hback⟩
    induction hfront with
    | done place => rwa [List.nil_append, Nat.zero_add]
    | stay hpiece _ ih => exact .stay hpiece (ih hback)
    | up hpiece _ ih => exact .up hpiece (ih hback)
    | enter hpiece hlength hchild hnode _ ih => exact .enter hpiece hlength hchild hnode (ih hback)
    | pass _ ih => exact .pass (ih hback)
    | link hpiece hlength hchild _ ih =>
        rw [Nat.add_right_comm]
        have hjoined := ih hback
        rw [List.append_assoc] at hjoined
        exact .link hpiece hlength hchild hjoined

/-- The empty piece behind a slash at the end leads nowhere else. -/
theorem Leads.without_end {front : List (List Char)}
    (h : Leads root place (front ++ [[]]) n found) : Leads root place front n found := by
  obtain ⟨mid, i, j, rfl, hmid, hlast⟩ := leads_append.1 h
  cases hlast with
  | stay _ hrest | pass hrest =>
      cases hrest
      exact hmid
  | up hup => cases hup
  | enter hentry => cases hentry
  | link hentry => cases hentry

/-- The piece leads somewhere else. -/
def isMoving (piece : List Char) : Bool := (Component.ofInner? piece).isSome

/-- Pieces behind others can be left out if they stay where they are. -/
theorem Leads.without_dull {front back : List (List Char)}
    (h : Leads root place (front ++ back) n found) :
    Leads root place (front ++ back.filter isMoving) n found := by
  generalize hpieces : front ++ back = pieces at h
  induction h generalizing front back with
  | done place =>
      obtain ⟨rfl, rfl⟩ := List.append_eq_nil_iff.1 hpieces
      exact .done _
  | @stay names es piece rest n found hpiece _ ih =>
      rcases List.append_eq_cons_iff.1 hpieces with ⟨rfl, rfl⟩ | ⟨front', rfl, rfl⟩
      · have hdull : isMoving piece = false := by rw [isMoving, hpiece]; rfl
        rw [List.filter_cons_of_neg (by simp [hdull])]
        exact ih (List.nil_append _)
      · exact .stay hpiece (ih rfl)
  | @up names es piece rest n found hpiece _ ih =>
      rcases List.append_eq_cons_iff.1 hpieces with ⟨rfl, rfl⟩ | ⟨front', rfl, rfl⟩
      · have hmoving : isMoving piece = true := by rw [isMoving, hpiece]; rfl
        rw [List.filter_cons_of_pos hmoving]
        exact .up hpiece (ih (List.nil_append _))
      · exact .up hpiece (ih rfl)
  | @enter names es piece rest n found name child hpiece hlength hchild hnode _ ih =>
      rcases List.append_eq_cons_iff.1 hpieces with ⟨rfl, rfl⟩ | ⟨front', rfl, rfl⟩
      · have hmoving : isMoving piece = true := by rw [isMoving, hpiece]; rfl
        rw [List.filter_cons_of_pos hmoving]
        exact .enter hpiece hlength hchild hnode (ih (List.nil_append _))
      · exact .enter hpiece hlength hchild hnode (ih rfl)
  | @pass names why rest n found _ ih =>
      rcases List.append_eq_cons_iff.1 hpieces with ⟨rfl, rfl⟩ | ⟨front', rfl, rfl⟩
      · rw [List.filter_cons_of_neg (by decide)]
        exact ih (List.nil_append _)
      · exact .pass (ih rfl)
  | @link names es piece rest n found name target hpiece hlength hchild _ ih =>
      rcases List.append_eq_cons_iff.1 hpieces with ⟨rfl, rfl⟩ | ⟨front', rfl, rfl⟩
      · have hmoving : isMoving piece = true := by rw [isMoving, hpiece]; rfl
        rw [List.filter_cons_of_pos hmoving]
        exact .link hpiece hlength hchild (ih rfl)
      · have hkept := ih (List.append_assoc _ _ _)
        rw [List.append_assoc] at hkept
        exact .link hpiece hlength hchild hkept

/-- Pieces that stay where they are can be left out. -/
theorem Leads.moving (h : Leads root place pieces n found) :
    Leads root place (pieces.filter isMoving) n found := by
  rw [← List.nil_append pieces] at h
  exact h.without_dull

/-- The pieces that lead somewhere else are determined by their components. -/
theorem filter_isMoving_pieces (pieces : List (List Char)) :
    pieces.filter isMoving =
      (pieces.filterMap Component.ofInner?).map fun c => c.text.toList := by
  induction pieces with
  | nil => rfl
  | cons piece rest ih =>
      rw [List.filter_cons, List.filterMap_cons, isMoving]
      cases hpiece : Component.ofInner? piece with
      | none => exact ih
      | some c =>
          rw [Option.isSome_some, if_pos rfl, List.map_cons,
            Component.toList_text_of_ofInner? hpiece, ih]

end Following

/-! ## Paths -/

namespace Tree

variable {t : Tree} {p q dir : Path} {place : Place}

/-- The pieces of a path that is completed by the current directory. -/
def pieces (t : Tree) (p : Path) : List (List Char) :=
  splitOn '/' (t.current.join p.text).text.toList

/-- A path leads to where its pieces lead from the root. -/
theorem place?_eq_ok_iff : t.place? p = .ok place ↔
    p.text ≠ "" ∧ '\x00' ∉ p.text.toList ∧
      ∃ n, n ≤ linkLimit ∧ Leads t.root ⟨[], t.root⟩ (t.pieces p) n place := by
  have hland : t.place? p = .ok place ↔ t.land true p = .ok (.present place) := by
    rw [place?]
    cases t.land true p with
    | error e =>
        constructor
        · exact fun h => by cases h
        · exact fun h => by cases h
    | ok landing =>
        cases landing with
        | present found =>
            constructor
            · exact fun h => congrArg _ (congrArg _ (Except.ok.inj h))
            · exact fun h => congrArg _ (Landing.present.inj (Except.ok.inj h))
        | absent names =>
            constructor
            · exact fun h => by cases h
            · exact fun h => by cases h
  rw [hland, land, pieces]
  split
  · rename_i hempty
    exact iff_of_false (fun h => by cases h) fun h => h.1 (String.isEmpty_iff.1 hempty)
  · rename_i hempty
    split
    · rename_i hnul
      exact iff_of_false (fun h => by cases h) fun h => h.2.1 (List.contains_iff_mem.1 hnul)
    · rename_i hnul
      rw [followPieces_eq_ok_iff]
      exact ⟨fun h => ⟨fun htext => hempty (String.isEmpty_iff.2 htext),
        fun hmem => hnul (List.contains_iff_mem.2 hmem), h⟩, fun h => h.2.2⟩

/-- The name of an entry behind a path leads to the entry, if it is no link. -/
theorem place?_join {names : List String} {es : List (String × Node)} {name : String}
    {child : Node} (hdir : t.place? dir = .ok ⟨names, .directory es⟩)
    (hname : isEntryName name = true) (hchild : es.lookup name = some child)
    (hnode : ∀ target, child ≠ .link target) :
    t.place? (dir.join name) = .ok ⟨names ++ [name], child⟩ := by
  obtain ⟨htext, hnul, n, hn, hleads⟩ := place?_eq_ok_iff.1 hdir
  have hrelative := isAbsolute_of_isEntryName hname
  have hjoined : ∃ middle, (dir.join name).text = dir.text ++ middle ++ name ∧
      '\x00' ∉ middle.toList := by
    rcases Path.join_of_relative htext hrelative with ⟨-, hjoin⟩ | ⟨-, hjoin⟩
    · exact ⟨"", by rw [hjoin, String.append_empty], List.not_mem_nil⟩
    · exact ⟨"/", by rw [hjoin], by decide⟩
  obtain ⟨middle, hmiddle, hclean⟩ := hjoined
  refine place?_eq_ok_iff.2 ⟨?_, ?_, n, hn, ?_⟩
  · rw [hmiddle]
    exact fun h => htext (String.append_eq_empty_iff.1 (String.append_eq_empty_iff.1 h).1).1
  · rw [hmiddle, String.toList_append, String.toList_append]
    simp only [List.mem_append, not_or]
    exact ⟨⟨hnul, hclean⟩, nul_not_mem_of_isEntryName hname⟩
  · have hcompleted : (t.current.join dir.text).text ≠ "" := by
      obtain ⟨above, -, habove⟩ := Path.exists_join_eq t.current dir.isAbsolute
      rw [habove dir.text rfl]
      exact fun h => htext (String.append_eq_empty_iff.1 h).2
    obtain ⟨front, -, hback, hfront⟩ := Path.pieces_join hcompleted hrelative
    rw [splitOn_of_not_mem (slash_not_mem_of_isEntryName hname)] at hback
    have hbefore : Leads t.root ⟨[], t.root⟩ front n ⟨names, .directory es⟩ := by
      rcases hfront with hfront | hfront
      · exact hfront ▸ hleads
      · rw [pieces, hfront] at hleads
        exact hleads.without_end
    rw [pieces, Path.join_join t.current htext hrelative, hback]
    exact leads_append.2 ⟨_, n, 0, rfl, hbefore, .enter (ofInner?_of_isEntryName hname)
      (length_le_of_isEntryName hname) hchild hnode (.done _)⟩

/-- Paths with the same components have the same pieces but for some that lead nowhere else. -/
theorem filter_pieces_congr (h : p.components = q.components) :
    (t.pieces p).filter isMoving = (t.pieces q).filter isMoving := by
  have hpieces : (splitOn '/' p.text.toList).filter isMoving =
      (splitOn '/' q.text.toList).filter isMoving := by
    rw [filter_isMoving_pieces, filter_isMoving_pieces, Path.filterMap_pieces,
      Path.filterMap_pieces, h]
  obtain ⟨front, hfront, hjoin⟩ := Path.exists_join_eq t.current p.isAbsolute
  rw [pieces, pieces, hjoin p.text rfl, hjoin q.text (Path.isAbsolute_congr h).symm,
    String.toList_append, String.toList_append]
  rcases hfront with hfront | ⟨above, hfront⟩
  · rw [hfront, List.nil_append, List.nil_append, hpieces]
  · rw [hfront, List.append_assoc, List.append_assoc, List.singleton_append,
      List.singleton_append, splitOn_append_sep, splitOn_append_sep, List.filter_append,
      List.filter_append, hpieces]

/-- Paths with the same components lead to the same place, if both lead anywhere. -/
theorem place?_congr {place' : Place} (h : p.components = q.components)
    (hp : t.place? p = .ok place) (hq : t.place? q = .ok place') : place = place' := by
  obtain ⟨-, -, n, -, hleads⟩ := place?_eq_ok_iff.1 hp
  obtain ⟨-, -, n', -, hleads'⟩ := place?_eq_ok_iff.1 hq
  have hmoving := hleads.moving
  rw [filter_pieces_congr h] at hmoving
  exact hmoving.unique hleads'.moving

end Tree

end TestCensus.Files
