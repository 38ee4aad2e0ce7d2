import TestCensus.Proofs.Files.Pieces

/-!
# The outline of a tree

The outline of a tree is what is left when the contents of its files are forgotten:
the names, and what is a file, a directory or a link.  Following a path looks at
nothing else, so in two trees with one outline every path leads to the same place or
fails in the same way (`land_outline`).

What stands at a place is what the names of the place lead to from the root
(`at?_of_place?`).  So a path to a place whose file is left alone reads the same when
another file is changed (`readBytes_put`).
-/

namespace TestCensus.Files

/-! ## Outlines -/

mutual

/-- The node without the contents of files. -/
def Node.outline : Node → Node
  | .file _ => .file []
  | .directory es => .directory (outlineEntries es)
  | .closed why => .closed why
  | .link target => .link target

/-- The entries without the contents of files. -/
def outlineEntries : List (String × Node) → List (String × Node)
  | [] => []
  | (name, node) :: rest => (name, node.outline) :: outlineEntries rest

end

/-- The nodes have one outline: they are files, directories whose entries have one outline, the same
closed directory, or the same link. -/
inductive Node.SameOutline : Node → Node → Prop where
  /-- Files, whatever they contain. -/
  | file (content content' : List UInt8) : SameOutline (.file content) (.file content')
  /-- Directories. -/
  | directory {es es' : List (String × Node)} : outlineEntries es' = outlineEntries es →
      SameOutline (.directory es) (.directory es')
  /-- Closed directories. -/
  | closed (why : PathError) : SameOutline (.closed why) (.closed why)
  /-- Links. -/
  | link (target : String) : SameOutline (.link target) (.link target)

theorem Node.sameOutline {node node' : Node} (h : node'.outline = node.outline) :
    node.SameOutline node' := by
  cases node with
  | file content =>
      cases node' with
      | file content' => exact .file content content'
      | directory es' | closed why' | link target' => cases h
  | directory es =>
      cases node' with
      | directory es' => exact .directory (Node.directory.inj h)
      | file content' | closed why' | link target' => cases h
  | closed why =>
      cases node' with
      | closed why' =>
          cases h
          exact .closed why
      | file content' | directory es' | link target' => cases h
  | link target =>
      cases node' with
      | link target' =>
          cases h
          exact .link target
      | file content' | directory es' | closed why' => cases h

/-- The place without the contents of files. -/
def Place.outline (p : Place) : Place := ⟨p.names, p.node.outline⟩

/-- Where a path leads, without the contents of files. -/
def Landing.outline : Landing → Landing
  | .present place => .present place.outline
  | .absent names => .absent names

/-- The tree without the contents of files. -/
def Tree.outline (t : Tree) : Tree := { t with root := t.root.outline }

theorem lookup_outlineEntries (es : List (String × Node)) (name : String) :
    (outlineEntries es).lookup name = (es.lookup name).map Node.outline := by
  induction es with
  | nil => rfl
  | cons e rest ih =>
      obtain ⟨first, node⟩ := e
      rw [outlineEntries, List.lookup_cons, List.lookup_cons, ih]
      cases name == first with
      | true => rfl
      | false => rfl

theorem outlineEntries_putEntry (name : String) (node : Node) (es : List (String × Node)) :
    outlineEntries (putEntry name node es) = putEntry name node.outline (outlineEntries es) := by
  induction es with
  | nil => rfl
  | cons e rest ih =>
      obtain ⟨first, old⟩ := e
      rw [putEntry, outlineEntries, putEntry]
      split
      · rw [outlineEntries]
      · rw [outlineEntries, ih]

theorem lookup_entry_cons (first name : String) (node : Node) (es : List (String × Node)) :
    ((first, node) :: es).lookup name = if name = first then some node else es.lookup name := by
  by_cases h : name = first
  · subst h
    rw [List.lookup_cons_self, if_pos rfl]
  · rw [List.lookup_cons, beq_false_of_ne h, if_neg h]

theorem lookup_putEntry_self (name : String) (node : Node) (es : List (String × Node)) :
    (putEntry name node es).lookup name = some node := by
  induction es with
  | nil => rw [putEntry, List.lookup_cons_self]
  | cons e rest ih =>
      obtain ⟨first, old⟩ := e
      rw [putEntry]
      split
      · rename_i hfirst
        rw [hfirst, List.lookup_cons_self]
      · rename_i hfirst
        rw [lookup_entry_cons, if_neg (Ne.symm hfirst), ih]

theorem lookup_putEntry_other {name other : String} (h : other ≠ name) (node : Node)
    (es : List (String × Node)) : (putEntry name node es).lookup other = es.lookup other := by
  induction es with
  | nil => rw [putEntry, lookup_entry_cons, if_neg h]
  | cons e rest ih =>
      obtain ⟨first, old⟩ := e
      rw [putEntry]
      split
      · rename_i hfirst
        rw [lookup_entry_cons, lookup_entry_cons, hfirst, if_neg h, if_neg h]
      · rw [lookup_entry_cons, lookup_entry_cons, ih]

/-- Putting an entry back where it stands changes nothing. -/
theorem putEntry_of_lookup {name : String} {node : Node} {es : List (String × Node)}
    (h : es.lookup name = some node) : putEntry name node es = es := by
  induction es with
  | nil => cases h
  | cons e rest ih =>
      obtain ⟨first, old⟩ := e
      rw [lookup_entry_cons] at h
      rw [putEntry]
      by_cases hfirst : first = name
      · rw [if_pos hfirst.symm] at h
        rw [if_pos hfirst, hfirst, Option.some.inj h]
      · rw [if_neg (Ne.symm hfirst)] at h
        rw [if_neg hfirst, ih h]

namespace Node

@[simp] theorem outline_isDirectory (node : Node) :
    node.outline.isDirectory = node.isDirectory := by
  cases node with
  | file content => rfl
  | directory es => rfl
  | closed why => rfl
  | link target => rfl

@[simp] theorem outline_isFile (node : Node) : node.outline.isFile = node.isFile := by
  cases node with
  | file content => rfl
  | directory es => rfl
  | closed why => rfl
  | link target => rfl

theorem outline_entries (node : Node) : node.outline.entries = outlineEntries node.entries := by
  cases node with
  | file content => rfl
  | directory es => rfl
  | closed why => rfl
  | link target => rfl

/-- Names lead to the outline of what they lead to. -/
theorem outline_at? (node : Node) (names : List String) :
    node.outline.at? names = (node.at? names).map outline := by
  induction names generalizing node with
  | nil => rfl
  | cons name rest ih =>
      cases node with
      | file content => rfl
      | closed why => rfl
      | link target => rfl
      | directory es =>
          rw [outline, at?, at?, lookup_outlineEntries]
          cases es.lookup name with
          | none => rfl
          | some child => exact ih child

theorem outline_put (new node : Node) (names : List String) :
    (put new node names).outline = put new.outline node.outline names := by
  induction names generalizing node with
  | nil => rfl
  | cons name rest ih =>
      have hchild : ((node.entries.lookup name).getD (directory [])).outline =
          (node.outline.entries.lookup name).getD (directory []) := by
        rw [outline_entries, lookup_outlineEntries]
        cases node.entries.lookup name with
        | none => rfl
        | some child => rfl
      rw [put, put, outline, outlineEntries_putEntry, ih, hchild, outline_entries]

/-- What names lead to in an outline, with the root in place of what is missing. -/
theorem outline_above (root : Node) (names : List String) :
    ((root.at? names).getD root).outline = (root.outline.at? names).getD root.outline := by
  rw [outline_at?]
  cases root.at? names with
  | none => rfl
  | some node => rfl

theorem outline_ne_link {node : Node} (h : ∀ target, node ≠ .link target) (target : String) :
    node.outline ≠ .link target := by
  cases node with
  | link target' => exact absurd rfl (h target')
  | file content => exact nofun
  | directory entries => exact nofun
  | closed why => exact nofun

/-- Putting a node back where it stands changes nothing. -/
theorem put_of_at? {node new : Node} {names : List String} (h : node.at? names = some new) :
    put new node names = node := by
  induction names generalizing node with
  | nil => exact (Option.some.inj h).symm
  | cons name rest ih =>
      cases node with
      | file content => cases h
      | closed why => cases h
      | link target => cases h
      | directory es =>
          rw [at?] at h
          cases hchild : es.lookup name with
          | none =>
              rw [hchild] at h
              cases h
          | some child =>
              rw [hchild] at h
              rw [put, entries, hchild, Option.getD_some, ih h, putEntry_of_lookup hchild]

/-- A file that gets another content leaves the outline as it is. -/
theorem outline_put_file {node : Node} {names : List String} {old new : List UInt8}
    (h : node.at? names = some (.file old)) :
    (put (.file new) node names).outline = node.outline := by
  rw [outline_put]
  refine put_of_at? ?_
  rw [outline_at?, h]
  rfl

/-- Other files keep their contents. -/
theorem put_at?_other {node : Node} {names others : List String} {old content : List UInt8}
    (h : node.at? names = some (.file old)) (new : List UInt8)
    (hother : node.at? others = some (.file content))
    (hne : others ≠ names) : (put (.file new) node names).at? others = some (.file content) := by
  induction names generalizing node others with
  | nil =>
      -- The changed file is the node itself, and nothing is below a file.
      cases h
      cases others with
      | nil => exact absurd rfl hne
      | cons other rest => cases hother
  | cons name names ih =>
      cases node with
      | file content => cases h
      | closed why => cases h
      | link target => cases h
      | directory es =>
          cases others with
          | nil => cases hother
          | cons other others =>
              rw [at?] at h hother
              rw [put, at?, entries]
              by_cases hsame : other = name
              · subst hsame
                rw [lookup_putEntry_self]
                cases hchild : es.lookup other with
                | none =>
                    rw [hchild] at h
                    cases h
                | some child =>
                    rw [hchild] at h hother
                    exact ih h hother fun heq => hne (by rw [heq])
              · rw [lookup_putEntry_other hsame]
                exact hother

end Node

/-! ## Following paths -/

section Following

variable {root : Node} {followLast : Bool}
  {follow follow' : Place → List (List Char) → Except PathError Landing}

theorem stepThrough_outline
    (hfollow : ∀ place pieces,
      follow' place.outline pieces = (follow place pieces).map Landing.outline)
    (place : Place) (pieces : List (List Char)) :
    stepThrough root.outline followLast follow' place.outline pieces =
      (stepThrough root followLast follow place pieces).map Landing.outline := by
  induction pieces generalizing place with
  | nil => rfl
  | cons piece rest ih =>
      obtain ⟨names, node⟩ := place
      cases node with
      | file content => rfl
      | closed why =>
          rw [Place.outline, Node.outline]
          by_cases hpiece : piece = []
          · rw [hpiece, stepThrough_pass, stepThrough_pass]
            exact ih ⟨names, .closed why⟩
          · rw [stepThrough_closed hpiece, stepThrough_closed hpiece]
            rfl
      | link target => rfl
      | directory es =>
          have hentry : ∀ {name found}, es.lookup name = found →
              (outlineEntries es).lookup name = found.map Node.outline := fun hfound => by
            rw [lookup_outlineEntries, hfound]
          rw [Place.outline, Node.outline]
          cases turn es piece with
          | stay hpiece =>
              rw [stepThrough_stay hpiece, stepThrough_stay hpiece]
              exact ih ⟨names, .directory es⟩
          | up hpiece =>
              rw [stepThrough_up hpiece, stepThrough_up hpiece, ← Node.outline_above]
              exact ih ⟨names.dropLast, (root.at? names.dropLast).getD root⟩
          | long hpiece hlength =>
              rw [stepThrough_long hpiece hlength, stepThrough_long hpiece hlength]
              rfl
          | missing hpiece hlength hchild =>
              rw [stepThrough_missing hpiece hlength hchild,
                stepThrough_missing hpiece hlength (hentry hchild)]
              split
              · rfl
              · rfl
          | link hpiece hlength hchild =>
              rw [stepThrough_link hpiece hlength hchild,
                stepThrough_link hpiece hlength (hentry hchild)]
              split
              · rfl
              · split
                · exact hfollow ⟨[], root⟩ _
                · exact hfollow ⟨names, .directory es⟩ _
          | @enter name child hpiece hlength hchild hnode =>
              rw [stepThrough_enter hpiece hlength hchild hnode,
                stepThrough_enter hpiece hlength (hentry hchild) (Node.outline_ne_link hnode)]
              exact ih ⟨names ++ [name], child⟩

theorem followPieces_outline (root : Node) (followLast : Bool) (links : Nat) (place : Place)
    (pieces : List (List Char)) :
    followPieces root.outline followLast links place.outline pieces =
      (followPieces root followLast links place pieces).map Landing.outline := by
  induction links generalizing place pieces with
  | zero => exact stepThrough_outline (fun _ _ => rfl) place pieces
  | succ links ih => exact stepThrough_outline ih place pieces

/-- A path leads to the same place in the outline of a tree. -/
theorem land_outline (t : Tree) (followLast : Bool) (p : Path) :
    t.outline.land followLast p = (t.land followLast p).map Landing.outline := by
  unfold Tree.land
  split
  · rfl
  · split
    · rfl
    · exact followPieces_outline t.root followLast linkLimit ⟨[], t.root⟩ _

theorem place?_outline (t : Tree) (p : Path) :
    t.outline.place? p = (t.place? p).map Place.outline := by
  rw [Tree.place?, Tree.place?, land_outline]
  cases t.land true p with
  | error e => rfl
  | ok landing =>
      cases landing with
      | present place => rfl
      | absent names => rfl

theorem node?_outline (t : Tree) (p : Path) : t.outline.node? p = (t.node? p).map Node.outline := by
  rw [Tree.node?, Tree.node?, place?_outline]
  cases t.place? p with
  | error e => rfl
  | ok place => rfl

@[simp] theorem has_outline (t : Tree) (p : Path) : t.outline.has p = t.has p := by
  rw [Tree.has, Tree.has, node?_outline, Option.isSome_map]

end Following

/-! ## Places -/

theorem Node.at?_append (node : Node) (names more : List String) :
    node.at? (names ++ more) = (node.at? names).bind (·.at? more) := by
  induction names generalizing node with
  | nil => rfl
  | cons name rest ih =>
      cases node with
      | file content => rfl
      | closed why => rfl
      | link target => rfl
      | directory es =>
          rw [List.cons_append, at?, at?]
          cases es.lookup name with
          | none => rfl
          | some child => exact ih child

/-- The place stands in the tree: its names lead to it from the root. -/
def Place.Stands (root : Node) (p : Place) : Prop := root.at? p.names = some p.node

theorem Place.Stands.enter {root child : Node} {names : List String} {es : List (String × Node)}
    {name : String} (h : Place.Stands root ⟨names, .directory es⟩)
    (hchild : es.lookup name = some child) : Place.Stands root ⟨names ++ [name], child⟩ := by
  unfold Place.Stands at *
  dsimp only at *
  rw [Node.at?_append, h, Option.bind_some, Node.at?, hchild]
  rfl

theorem Place.Stands.leave {root : Node} {p : Place} (h : Place.Stands root p) :
    Place.Stands root ⟨p.names.dropLast, (root.at? p.names.dropLast).getD root⟩ := by
  have habove : ∃ node, root.at? p.names.dropLast = some node := by
    rcases List.eq_nil_or_concat p.names with hnames | ⟨above, name, hnames⟩
    · rw [hnames]
      exact ⟨root, rfl⟩
    · rw [List.concat_eq_append] at hnames
      rw [Place.Stands, hnames, Node.at?_append] at h
      obtain ⟨node, hnode, -⟩ := Option.bind_eq_some_iff.1 h
      rw [hnames, List.dropLast_concat]
      exact ⟨node, hnode⟩
  obtain ⟨node, hnode⟩ := habove
  unfold Place.Stands
  dsimp only
  rw [hnode]
  rfl

/-- Following pieces of a path from a place that stands in the tree leads to such a
place again. -/
theorem stepThrough_stands {root : Node} {followLast : Bool}
    {follow : Place → List (List Char) → Except PathError Landing}
    (hfollow : ∀ place pieces found, place.Stands root →
      follow place pieces = .ok (.present found) → found.Stands root)
    {place found : Place} {pieces : List (List Char)} (hplace : place.Stands root)
    (h : stepThrough root followLast follow place pieces = .ok (.present found)) :
    found.Stands root := by
  induction pieces generalizing place with
  | nil =>
      cases h
      exact hplace
  | cons piece rest ih =>
      obtain ⟨names, node⟩ := place
      cases node with
      | file content => cases h
      | closed why =>
          by_cases hpiece : piece = []
          · rw [hpiece, stepThrough_pass] at h
            exact ih hplace h
          · rw [stepThrough_closed hpiece] at h
            cases h
      | link target => cases h
      | directory es =>
          cases turn es piece with
          | stay hpiece =>
              rw [stepThrough_stay hpiece] at h
              exact ih hplace h
          | up hpiece =>
              rw [stepThrough_up hpiece] at h
              exact ih hplace.leave h
          | long hpiece hlength =>
              rw [stepThrough_long hpiece hlength] at h
              cases h
          | missing hpiece hlength hchild =>
              rw [stepThrough_missing hpiece hlength hchild] at h
              split at h
              · cases h
              · cases h
          | link hpiece hlength hchild =>
              rw [stepThrough_link hpiece hlength hchild] at h
              split at h
              · cases h
                exact hplace.enter hchild
              · split at h
                · exact hfollow _ _ _ (rfl : Place.Stands root ⟨[], root⟩) h
                · exact hfollow _ _ _ hplace h
          | enter hpiece hlength hchild hnode =>
              rw [stepThrough_enter hpiece hlength hchild hnode] at h
              exact ih (hplace.enter hchild) h

theorem followPieces_stands {root : Node} {followLast : Bool} {links : Nat} {place found : Place}
    {pieces : List (List Char)} (hplace : place.Stands root)
    (h : followPieces root followLast links place pieces = .ok (.present found)) :
    found.Stands root := by
  induction links generalizing place pieces found with
  | zero => exact stepThrough_stands (fun _ _ _ _ hnone => by cases hnone) hplace h
  | succ links ih => exact stepThrough_stands (fun _ _ _ hp hf => ih hp hf) hplace h

/-- What a path leads to is where it lands. -/
theorem land_of_place? {t : Tree} {p : Path} {place : Place} (h : t.place? p = .ok place) :
    t.land true p = .ok (.present place) := by
  rw [Tree.place?] at h
  cases hland : t.land true p with
  | error e =>
      rw [hland] at h
      cases h
  | ok landing =>
      rw [hland] at h
      cases landing with
      | absent names => cases h
      | present found =>
          cases h
          rfl

/-- What a path leads to is what the names of the place lead to. -/
theorem at?_of_place? {t : Tree} {p : Path} {place : Place} (h : t.place? p = .ok place) :
    t.root.at? place.names = some place.node := by
  have hland := land_of_place? h
  unfold Tree.land at hland
  split at hland
  · cases hland
  · split at hland
    · cases hland
    · exact followPieces_stands (rfl : Place.Stands t.root ⟨[], t.root⟩) hland

/-! ## Reading after a file has changed -/

namespace Tree

/-- The path leads to the place with these names. -/
def LeadsTo (t : Tree) (p : Path) (names : List String) : Prop :=
  ∃ place, t.place? p = .ok place ∧ place.names = names

variable {t : Tree} {names : List String} {old new : List UInt8}

theorem outline_put_file (h : t.root.at? names = some (.file old)) (new : List UInt8) :
    (t.put names (.file new)).outline = t.outline := by
  rw [outline, outline, put, Node.outline_put_file h]

/-- A path leads to the same names in two trees with one outline, or fails alike. -/
theorem place?_cases {t t' : Tree} (h : t'.outline = t.outline) (p : Path) :
    (∃ e, t.place? p = .error e ∧ t'.place? p = .error e) ∨
      ∃ place place', t.place? p = .ok place ∧ t'.place? p = .ok place' ∧
        place'.names = place.names ∧ place'.node.outline = place.node.outline := by
  have hplaces := place?_outline t' p
  rw [h, place?_outline] at hplaces
  cases hplace : t.place? p with
  | error e =>
      cases hplace' : t'.place? p with
      | error e' =>
          rw [hplace, hplace'] at hplaces
          cases hplaces
          exact .inl ⟨e, rfl, rfl⟩
      | ok place' =>
          rw [hplace, hplace'] at hplaces
          cases hplaces
  | ok place =>
      cases hplace' : t'.place? p with
      | error e' =>
          rw [hplace, hplace'] at hplaces
          cases hplaces
      | ok place' =>
          rw [hplace, hplace'] at hplaces
          have hsame : place.outline = place'.outline := Except.ok.inj hplaces
          exact .inr ⟨place, place', rfl, rfl, (congrArg Place.names hsame).symm,
            (congrArg Place.node hsame).symm⟩

/-- Paths to another place read the same when the file at a place has changed. -/
theorem readBytes_put (h : t.root.at? names = some (.file old)) {p : Path}
    (hp : ¬t.LeadsTo p names) : (t.put names (.file new)).readBytes p = t.readBytes p := by
  rcases place?_cases (outline_put_file h new) p with
    ⟨e, hplace, hplace'⟩ | ⟨place, place', hplace, hplace', hnames, hnode⟩
  · rw [readBytes, readBytes, hplace, hplace']
  · have hstands := at?_of_place? hplace
    have hstands' := at?_of_place? hplace'
    have hother : place.names ≠ names := fun heq => hp ⟨place, hplace, heq⟩
    rw [readBytes, readBytes, hplace, hplace']
    obtain ⟨placeNames, node⟩ := place
    obtain ⟨placeNames', node'⟩ := place'
    cases hnames
    cases Node.sameOutline hnode with
    | file content content' =>
        have hkept := Node.put_at?_other h new hstands hother
        cases hstands'.symm.trans hkept
        rfl
    | directory hentries => rfl
    | closed why => rfl
    | link target => rfl

theorem exists_of_hasFile {p : Path} (h : t.hasFile p = true) :
    ∃ names content, t.place? p = .ok ⟨names, .file content⟩ := by
  rw [hasFile, node?] at h
  cases hplace : t.place? p with
  | error e =>
      rw [hplace] at h
      cases h
  | ok place =>
      rw [hplace] at h
      obtain ⟨names, node⟩ := place
      cases node with
      | file content => exact ⟨names, content, rfl⟩
      | directory es => cases h
      | closed why => cases h
      | link target => cases h

/-- A path to a file without slashes at the end is written at its place, and any other is not. -/
theorem write_of_place? {changed : Tree} {p : Path} (h : t.place? p = .ok ⟨names, .file old⟩)
    (hwrite : t.write p new = .ok changed) : changed = t.put names (.file new) := by
  unfold write at hwrite
  dsimp only at hwrite
  split at hwrite
  · split at hwrite
    · cases hbare : t.land true p.withoutEndSlashes with
      | error e =>
          rw [hbare] at hwrite
          cases hwrite
      | ok landing =>
          rw [hbare] at hwrite
          cases hwrite
    · cases hwrite
  · rw [land_of_place? h] at hwrite
    cases hwrite
    rfl

/-- Writing to a file that exists changes the file at its place. -/
theorem write_eq_put {changed : Tree} {p : Path} (hfile : t.hasFile p = true)
    (hwrite : t.write p new = .ok changed) :
    ∃ names old, t.LeadsTo p names ∧ t.root.at? names = some (.file old) ∧
      changed = t.put names (.file new) := by
  obtain ⟨names, old, hplace⟩ := exists_of_hasFile hfile
  exact ⟨names, old, ⟨_, hplace, rfl⟩, at?_of_place? hplace, write_of_place? hplace hwrite⟩

theorem readText_put (h : t.root.at? names = some (.file old)) {p : Path}
    (hp : ¬t.LeadsTo p names) : (t.put names (.file new)).readText p = t.readText p := by
  rw [readText, readText, readBytes_put h hp]

end Tree

end TestCensus.Files
