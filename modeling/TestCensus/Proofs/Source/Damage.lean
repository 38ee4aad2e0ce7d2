import TestCensus.Source.Reading

/-!
# A search that leaves out sound trees finds all damage

`damage` does not enter nodes whose flag is down.  Flags that tell the truth (`Truthful`) are down
only where nothing is damaged, so what is left out is sound, and the search finds what a walk
through all nodes finds (`search_eq`).  It notes a node before it looks at the flag, and it goes on
below a damaged node, so it misses neither a damaged node without children nor damage inside
damage.

A report is made of a tree whose flag is up.  Such a tree has a damaged node, so the report tells
of the first one (`Truthful.tells`).
-/

namespace TestCensus.Source

namespace DamageTree

/-! ## Nodes -/

mutual

/-- The nodes of a tree, a node before those below it. -/
def nodes : DamageTree → List DamageTree
  | .node s p f cs => .node s p f cs :: nodesAll cs

/-- The nodes of several trees, one tree after the other. -/
def nodesAll : List DamageTree → List DamageTree
  | [] => []
  | t :: rest => nodes t ++ nodesAll rest

end

/-- The damaged nodes of a tree, in the order of the tree. -/
def damagedNodes (t : DamageTree) : List DamageTree := t.nodes.filter isDamaged

/-- Every flag of the tree is up where there is damage at the node or below it, and only there. -/
def Truthful (t : DamageTree) : Prop :=
  ∀ n ∈ t.nodes, n.flag = true ↔ ∃ m ∈ n.nodes, m.isDamaged = true

instance (t : DamageTree) : Decidable t.Truthful :=
  inferInstanceAs (Decidable (∀ n ∈ t.nodes, n.flag = true ↔ ∃ m ∈ n.nodes, m.isDamaged = true))

variable {t : DamageTree} {ts cs : List DamageTree} {s : NodeState} {p : Position} {f : Bool}

theorem self_mem_nodes (t : DamageTree) : t ∈ t.nodes := by
  cases t
  rw [nodes]
  exact .head _

theorem mem_nodesAll {n : DamageTree} : n ∈ nodesAll ts ↔ ∃ t ∈ ts, n ∈ t.nodes := by
  induction ts with
  | nil => simp [nodesAll]
  | cons t ts ih => simp [nodesAll, ih]

theorem mem_nodes_node {n : DamageTree} :
    n ∈ (node s p f cs).nodes ↔ n = node s p f cs ∨ ∃ c ∈ cs, n ∈ c.nodes := by
  rw [nodes, List.mem_cons, mem_nodesAll]

theorem damagedNodes_node :
    (node s p f cs).damagedNodes =
      [node s p f cs].filter isDamaged ++ (nodesAll cs).filter isDamaged := by
  rw [damagedNodes, nodes, ← List.singleton_append, List.filter_append]

/-! ## Flags -/

/-- What lies below a node tells the truth as well. -/
theorem Truthful.below (h : (node s p f cs).Truthful) : ∀ c ∈ cs, c.Truthful := by
  intro c hc n hn
  exact h n (mem_nodes_node.2 (.inr ⟨c, hc, hn⟩))

/-- The flag of a tree says whether there is damage in it. -/
theorem Truthful.flag_eq_false_iff (h : t.Truthful) : t.flag = false ↔ t.damagedNodes = [] := by
  rw [← Bool.not_eq_true, h t (self_mem_nodes t), damagedNodes, List.filter_eq_nil_iff]
  simp only [not_exists, not_and]

theorem Truthful.damagedNodes_ne_nil (h : t.Truthful) (hup : t.flag = true) :
    t.damagedNodes ≠ [] := by
  intro hnone
  rw [h.flag_eq_false_iff.2 hnone] at hup
  cases hup

/-- A node flagged by what is true of it, over trees that tell the truth. -/
theorem truthful_flagged (h : ∀ c ∈ cs, c.Truthful) : (flagged s p cs).Truthful := by
  intro n hn
  rw [flagged, mem_nodes_node] at hn
  rcases hn with rfl | ⟨c, hc, hn⟩
  · show (s != .sound || cs.any flag) = true ↔ _
    simp only [Bool.or_eq_true, List.any_eq_true, mem_nodes_node]
    constructor
    · rintro (hs | ⟨c, hc, hflag⟩)
      · exact ⟨_, .inl rfl, hs⟩
      · obtain ⟨m, hm, hdamaged⟩ := (h c hc c (self_mem_nodes c)).1 hflag
        exact ⟨m, .inr ⟨c, hc, hm⟩, hdamaged⟩
    · rintro ⟨m, rfl | ⟨c, hc, hm⟩, hdamaged⟩
      · exact .inl hdamaged
      · exact .inr ⟨c, hc, (h c hc c (self_mem_nodes c)).2 ⟨m, hm, hdamaged⟩⟩
  · exact h c hc n hn

/-! ## The search -/

/-- Findings with those at damaged nodes behind them. -/
def Findings.add (found : Findings) (damaged : List DamageTree) : Findings :=
  ⟨found.count + damaged.length, found.places ++ damaged.map place⟩

@[simp] theorem Findings.add_nil (found : Findings) : found.add [] = found := by
  simp [Findings.add]

@[simp] theorem Findings.add_append (found : Findings) (xs ys : List DamageTree) :
    found.add (xs ++ ys) = (found.add xs).add ys := by
  simp [Findings.add, Nat.add_assoc]

/-- The search notes a damaged node before it looks at the flag. -/
theorem search_node (found : Findings) :
    search found (node s p f cs) =
      if f then searchAll (found.add ([node s p f cs].filter isDamaged)) cs
      else found.add ([node s p f cs].filter isDamaged) := by
  have hnoted : (if s = .sound then found else ⟨found.count + 1, found.places ++ [p]⟩) =
      found.add ([node s p f cs].filter isDamaged) := by
    cases s with
    | sound => exact (Findings.add_nil found).symm
    | error => rfl
    | missing => rfl
  rw [search, hnoted]

mutual

/-- The search finds the damaged nodes of a tree whose flags tell the truth. -/
theorem search_eq (found : Findings) : ∀ t : DamageTree, t.Truthful →
    search found t = found.add t.damagedNodes
  | .node s p false cs, h => by
      -- nothing below is damaged, so nothing is lost
      have hnone := h.flag_eq_false_iff.1 rfl
      rw [damagedNodes_node] at hnone
      rw [search_node, damagedNodes_node, hnone, (List.append_eq_nil_iff.1 hnone).1]
      rfl
  | .node s p true cs, h => by
      rw [search_node, damagedNodes_node, Findings.add_append, ← searchAll_eq _ cs h.below]
      rfl

/-- The search finds the damaged nodes of several trees. -/
theorem searchAll_eq (found : Findings) : ∀ ts : List DamageTree, (∀ t ∈ ts, t.Truthful) →
    searchAll found ts = found.add ((nodesAll ts).filter isDamaged)
  | [], _ => by simp [searchAll, nodesAll]
  | t :: ts, h => by
      obtain ⟨ht, hts⟩ := List.forall_mem_cons.1 h
      rw [searchAll, search_eq found t ht, searchAll_eq _ ts hts, nodesAll, List.filter_append,
        Findings.add_append, damagedNodes]

end

theorem damage_eq (h : t.Truthful) :
    t.damage = ⟨t.damagedNodes.length, t.damagedNodes.map place⟩ := by
  rw [damage, search_eq _ t h, Findings.add, Nat.zero_add, List.nil_append]

/-! ## Reports -/

/-- The report tells of the first damaged node of a tree and of how many there are. -/
structure Tells (failure : SyntaxFailure) (t : DamageTree) : Prop where
  /-- There is a first damaged node, and its place is reported, counted from one. -/
  first : ∃ before n after, t.nodes = before ++ n :: after ∧ n.isDamaged = true ∧
    (∀ m ∈ before, m.isDamaged = false) ∧
    failure.line = n.place.line + 1 ∧ failure.column = n.place.column + 1
  /-- All damaged nodes are counted. -/
  count : failure.count = t.damagedNodes.length
  /-- There is one at least. -/
  pos : 1 ≤ failure.count

/-- A tree whose flag is up is reported by its first damaged node. -/
theorem Truthful.tells (h : t.Truthful) (hup : t.flag = true) : Tells t.failure t := by
  have hsome := h.damagedNodes_ne_nil hup
  obtain ⟨n, more, hdamaged⟩ := List.exists_cons_of_ne_nil hsome
  obtain ⟨before, after, hnodes, hbefore, hn, -⟩ := List.filter_eq_cons_iff.1 hdamaged
  have hfailure : t.failure = ⟨n.place.line + 1, n.place.column + 1, t.damagedNodes.length⟩ := by
    rw [failure, damage_eq h, hdamaged]
    rfl
  rw [hfailure]
  exact {
    first := ⟨before, n, after, hnodes, hn,
      fun m hm => Bool.eq_false_iff.2 (hbefore m hm), rfl, rfl⟩
    count := rfl
    pos := List.length_pos_iff.2 hsome }

/-- The tree of a source that cannot be read has truthful flags, and its own is up. -/
theorem truthful_tree (d : Damage) : d.tree.Truthful ∧ d.tree.flag = true := by
  have hleaf : ∀ s p, ∀ c ∈ [flagged s p []], c.Truthful := by
    intro s p c hc
    rw [List.mem_singleton.1 hc]
    exact truthful_flagged fun c hc => absurd hc List.not_mem_nil
  cases d with
  | unexpected p => exact ⟨truthful_flagged (hleaf .error p), rfl⟩
  | broken p => exact ⟨truthful_flagged (hleaf .error p), rfl⟩
  | missing p => exact ⟨truthful_flagged (hleaf .missing p), rfl⟩

/-- The search for damage loses nothing, although it does not enter every node.

* It lists the places of all damaged nodes in the order of the tree, and counts them.
* If the flag of the tree is up, there is a first one, and the report is about it.  So a report is
  never about the beginning of a source for want of a place.
* A source that cannot be read is reported so. -/
theorem damage_complete (t : DamageTree) (h : t.Truthful) :
    t.damage.places = t.damagedNodes.map place ∧
    t.damage.count = t.damage.places.length ∧
    t.damage.count ≤ t.nodes.length ∧
    (t.flag = true → t.damage.places ≠ [] ∧ Tells t.failure t) ∧
    ∀ source failure, readSource source = .error failure →
      ∃ d : Damage, parse source.toList = .error d ∧ d.tree.Truthful ∧ d.tree.flag = true ∧
        failure = d.tree.failure ∧ Tells failure d.tree := by
  refine ⟨by rw [damage_eq h], by rw [damage_eq h, List.length_map], ?_,
    fun hup => ⟨?_, h.tells hup⟩, ?_⟩
  · rw [damage_eq h]
    exact List.length_filter_le _ _
  · rw [damage_eq h]
    exact fun hnil => h.damagedNodes_ne_nil hup (List.map_eq_nil_iff.1 hnil)
  · intro source failure hfailure
    rw [readSource] at hfailure
    split at hfailure
    · cases hfailure
    · rename_i d hparse
      cases hfailure
      obtain ⟨htruthful, hup⟩ := truthful_tree d
      exact ⟨d, hparse, htruthful, hup, rfl, htruthful.tells hup⟩

/-- A tree with a sound part that is left out, damage inside damage, and a missing token. -/
def scattered : DamageTree :=
  flagged .sound ⟨0, 0⟩
    [flagged .sound ⟨0, 0⟩ [flagged .sound ⟨0, 4⟩ []],
      flagged .error ⟨1, 2⟩ [flagged .sound ⟨1, 2⟩ [], flagged .error ⟨1, 5⟩ []],
      flagged .missing ⟨3, 0⟩ []]

/-- All three places are found in `scattered`, and the first of them is reported. -/
theorem damage_complete_scattered :
    scattered.Truthful ∧ scattered.damage = ⟨3, [⟨1, 2⟩, ⟨1, 5⟩, ⟨3, 0⟩]⟩ ∧
    Tells ⟨2, 3, 3⟩ scattered := by
  have htruthful : scattered.Truthful := by decide
  obtain ⟨-, -, -, htells, -⟩ := damage_complete scattered htruthful
  exact ⟨htruthful, rfl, (htells rfl).2⟩

end DamageTree

end TestCensus.Source
