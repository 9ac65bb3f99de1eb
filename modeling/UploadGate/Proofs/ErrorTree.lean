import UploadGate.ErrorTree
import UploadGate.Proofs.Number.Denotation
import UploadGate.Proofs.Text.Tables

/-! # Flattened errors

Flattening a tree of errors puts under each path the texts of the fields that have it, in the order
of the tree, and no other path appears. Where the paths are distinct, every field stands by itself;
they are in a structure without members of its own, and in a list of such structures, since an index
can be read off the path.
-/

namespace UploadGate

namespace ErrorTree

variable {leaves : List Leaf} {table : NameTable (List String)} {path : String}

theorem get?_collect (table : NameTable (List String)) (leaf : Leaf) (path : String) :
    (collect table leaf).get? path =
      if path = leaf.path then some ((table.get? path).getD [] ++ leaf.texts)
      else table.get? path := by
  rw [collect, NameTable.alter, NameTable.get?_insert]
  split
  next h => rw [h]
  next => rfl

/-- A path that no field has keeps what it had. -/
theorem get?_foldl_collect_of_forall_ne (h : ∀ leaf ∈ leaves, leaf.path ≠ path) :
    (leaves.foldl collect table).get? path = table.get? path := by
  induction leaves generalizing table with
  | nil => rfl
  | cons first rest ih =>
    obtain ⟨hfirst, hrest⟩ := List.forall_mem_cons.mp h
    rw [List.foldl_cons, ih hrest, get?_collect, if_neg (Ne.symm hfirst)]

/-- A path that some field has gets the texts of all that have it. -/
theorem get?_foldl_collect_of_exists (h : ∃ leaf ∈ leaves, leaf.path = path) :
    (leaves.foldl collect table).get? path =
      some ((table.get? path).getD [] ++
        (leaves.filter (·.path = path)).flatMap Leaf.texts) := by
  induction leaves generalizing table with
  | nil => simp at h
  | cons first rest ih =>
    rw [List.foldl_cons]
    by_cases hrest : ∃ leaf ∈ rest, leaf.path = path
    · rw [ih hrest, get?_collect]
      by_cases hfirst : first.path = path
      · rw [if_pos hfirst.symm, List.filter_cons_of_pos (by simpa using hfirst), List.flatMap_cons,
          Option.getD_some, List.append_assoc]
      · rw [if_neg (Ne.symm hfirst), List.filter_cons_of_neg (by simpa using hfirst)]
    · -- The first field is the last one with the path.
      have hfirst : first.path = path := by
        obtain ⟨leaf, hmem, hleaf⟩ := h
        rcases List.mem_cons.mp hmem with rfl | hmem
        · exact hleaf
        · exact absurd ⟨leaf, hmem, hleaf⟩ hrest
      have hothers : ∀ leaf ∈ rest, leaf.path ≠ path := fun leaf hmem hleaf =>
        hrest ⟨leaf, hmem, hleaf⟩
      have hnil : rest.filter (·.path = path) = [] := by
        simpa [List.filter_eq_nil_iff] using hothers
      rw [get?_foldl_collect_of_forall_ne hothers, get?_collect, if_pos hfirst.symm,
        List.filter_cons_of_pos (by simpa using hfirst), hnil, List.flatMap_cons, List.flatMap_nil,
        List.append_nil]

variable {tree : ErrorTree} {texts : List String}

/-- The texts under a path are those of the fields that have it, in their order. -/
theorem get?_messages_eq_some_iff :
    tree.messages.get? path = some texts ↔
      (∃ leaf ∈ tree.leaves, leaf.path = path) ∧
        texts = (tree.leaves.filter (·.path = path)).flatMap Leaf.texts := by
  rw [messages]
  by_cases h : ∃ leaf ∈ tree.leaves, leaf.path = path
  · rw [get?_foldl_collect_of_exists h, NameTable.get?_empty, Option.getD_none, List.nil_append,
      Option.some_inj]
    exact ⟨fun htexts => ⟨h, htexts.symm⟩, fun htexts => htexts.2.symm⟩
  · have hnone : ∀ leaf ∈ tree.leaves, leaf.path ≠ path := fun leaf hmem hleaf =>
      h ⟨leaf, hmem, hleaf⟩
    rw [get?_foldl_collect_of_forall_ne hnone, NameTable.get?_empty]
    simp [h]

/-- Fields with distinct paths are flattened one by one. -/
theorem get?_messages_of_nodup (hdistinct : (tree.leaves.map Leaf.path).Nodup) :
    tree.messages.get? path = some texts ↔
      ∃ leaf ∈ tree.leaves, leaf.path = path ∧ texts = leaf.texts := by
  rw [get?_messages_eq_some_iff]
  constructor
  · rintro ⟨⟨leaf, hmem, rfl⟩, rfl⟩
    refine ⟨leaf, hmem, rfl, ?_⟩
    rw [filter_of_nodup_map hdistinct hmem, List.flatMap_singleton]
  · rintro ⟨leaf, hmem, rfl, rfl⟩
    refine ⟨⟨leaf, hmem, rfl⟩, ?_⟩
    rw [filter_of_nodup_map hdistinct hmem, List.flatMap_singleton]

/-! ## Structures without members of their own -/

theorem memberPath_top (name : String) : memberPath "" name = name := if_pos rfl

theorem memberPath_of_ne {path : String} (h : path ≠ "") (name : String) :
    memberPath path name = path ++ "." ++ name := if_neg h

/-- The nodes of a structure that has nothing but fields. -/
def fieldNodes (fields : List (String × List Issue)) : List (String × ErrorNode) :=
  fields.map fun (name, issues) => (name, .field issues)

theorem leavesUnder_fieldNodes (path : String) (fields : List (String × List Issue)) :
    leavesUnder path (fieldNodes fields) =
      fields.map fun (name, issues) => ⟨memberPath path name, issues⟩ := by
  induction fields with
  | nil => rfl
  | cons first rest ih =>
    rw [fieldNodes, List.map_cons, leavesUnder, nodeLeaves, ← fieldNodes, ih]
    rfl

theorem leaves_ofIssues (fields : NameTable (List Issue)) :
    (ofIssues fields).leaves = fields.entries.map fun (name, issues) => ⟨name, issues⟩ := by
  rw [leaves, ofIssues, ← fieldNodes, leavesUnder_fieldNodes]
  simp only [memberPath_top]

/-- A structure without members of its own has the texts of each field under its name. -/
theorem get?_messages_ofIssues (fields : NameTable (List Issue)) (name : String) :
    (ofIssues fields).messages.get? name = (fields.get? name).map (List.map Issue.text) := by
  have hdistinct : ((ofIssues fields).leaves.map Leaf.path).Nodup := by
    rw [leaves_ofIssues, List.map_map]
    exact fields.nodup_names
  ext texts
  rw [get?_messages_of_nodup hdistinct, leaves_ofIssues]
  simp only [List.mem_map, Prod.exists, Option.map_eq_some_iff, NameTable.get?_eq_some_iff]
  constructor
  · rintro ⟨_, ⟨_, issues, hmem, rfl⟩, rfl, rfl⟩
    exact ⟨issues, hmem, rfl⟩
  · rintro ⟨issues, hmem, rfl⟩
    exact ⟨_, ⟨name, issues, hmem, rfl⟩, rfl, rfl⟩

/-! ## Lists of such structures -/

/-- The path of a member of an item. -/
def memberOfItem (list : String) (index : Nat) (name : String) : String :=
  memberPath (itemPath list index) name

theorem itemPath_ne_empty (list : String) (index : Nat) : itemPath list index ≠ "" := by
  intro h
  have hlength := congrArg (fun path => path.toList.length) h
  simp [itemPath] at hlength

theorem memberOfItem_eq (list : String) (index : Nat) (name : String) :
    memberOfItem list index name = list ++ "[" ++ toString index ++ "]." ++ name := by
  rw [memberOfItem, memberPath_of_ne (itemPath_ne_empty list index), itemPath,
    Numeral.text_natCast]
  simp only [String.append_assoc]
  rfl

theorem toList_memberOfItem (list : String) (index : Nat) (name : String) :
    (memberOfItem list index name).toList =
      list.toList ++ '[' :: (Numeral.ofNat index ++ ']' :: '.' :: name.toList) := by
  rw [memberOfItem, memberPath_of_ne (itemPath_ne_empty list index)]
  have htext : Numeral.ofInt index = Numeral.ofNat index := if_neg (by omega)
  simp [itemPath, Numeral.text, htext]

/-- The index of an item and the name of its member can be read off the path. -/
theorem memberOfItem_inj {list : String} {first second : Nat} {name other : String} :
    memberOfItem list first name = memberOfItem list second other ↔
      first = second ∧ name = other := by
  refine ⟨fun h => ?_, fun ⟨hindex, hname⟩ => by rw [hindex, hname]⟩
  have hlists : (memberOfItem list first name).toList = (memberOfItem list second other).toList :=
    congrArg String.toList h
  rw [toList_memberOfItem, toList_memberOfItem, List.append_cancel_left_eq,
    List.cons.injEq] at hlists
  -- The index is the run of digits at the front.
  have hfront : ∀ (n : Nat) (rest : List Char),
      (Numeral.ofNat n ++ ']' :: rest).takeWhile Char.isDigit = Numeral.ofNat n := fun n rest => by
    rw [List.takeWhile_append_of_pos (Numeral.isRun_ofNat n).2,
      List.takeWhile_cons_of_neg (by decide), List.append_nil]
  have hdigits := congrArg (List.takeWhile Char.isDigit) hlists.2
  rw [hfront, hfront] at hdigits
  have hrest := hlists.2
  rw [hdigits, List.append_cancel_left_eq] at hrest
  exact ⟨Numeral.ofNat_inj.mp hdigits, String.toList_injective (by simpa using hrest)⟩

/-- An item of a list with its fields. -/
abbrev ItemFields := Nat × List (String × List Issue)

/-- The nodes of the items of a list. -/
def itemNodes (items : List ItemFields) : List (Nat × List (String × ErrorNode)) :=
  items.map fun (index, fields) => (index, fieldNodes fields)

theorem itemLeaves_itemNodes (list : String) (items : List ItemFields) :
    itemLeaves list (itemNodes items) =
      items.flatMap fun (index, fields) =>
        fields.map fun (name, issues) => ⟨memberOfItem list index name, issues⟩ := by
  induction items with
  | nil => rfl
  | cons first rest ih =>
    rw [itemNodes, List.map_cons, itemLeaves, ← itemNodes, ih, leavesUnder_fieldNodes]
    rfl

theorem nodup_paths_itemLeaves {list : String} {items : List ItemFields}
    (hindices : (items.map Prod.fst).Nodup)
    (hnames : ∀ item ∈ items, (item.2.map Prod.fst).Nodup) :
    ((itemLeaves list (itemNodes items)).map Leaf.path).Nodup := by
  have hpaths : (itemLeaves list (itemNodes items)).map Leaf.path =
      items.flatMap fun item => (item.2.map Prod.fst).map (memberOfItem list item.1) := by
    rw [itemLeaves_itemNodes, List.map_flatMap]
    simp only [List.map_map, Function.comp_def]
  rw [hpaths, List.nodup_flatMap]
  constructor
  · intro item hmem
    exact (hnames item hmem).map fun name other h => (memberOfItem_inj.mp h).2
  · refine (List.pairwise_map.mp hindices).imp fun {first second} hne path hfirst hsecond => ?_
    obtain ⟨name, -, rfl⟩ := List.mem_map.mp hfirst
    obtain ⟨other, -, hpath⟩ := List.mem_map.mp hsecond
    exact hne (memberOfItem_inj.mp hpath).1.symm

/-- A list of structures without members of their own has the texts of each field under the path of
the item and the field's name. -/
theorem get?_messages_items {list : String} {items : List ItemFields}
    (hindices : (items.map Prod.fst).Nodup)
    (hnames : ∀ item ∈ items, (item.2.map Prod.fst).Nodup) :
    (messages [(list, .items (itemNodes items))]).get? path = some texts ↔
      ∃ item ∈ items, ∃ field ∈ item.2, memberOfItem list item.1 field.1 = path ∧
        texts = field.2.map Issue.text := by
  have hleaves : leaves [(list, .items (itemNodes items))] = itemLeaves list (itemNodes items) := by
    rw [leaves, leavesUnder, leavesUnder, nodeLeaves, memberPath_top, List.append_nil]
  rw [get?_messages_of_nodup (hleaves ▸ nodup_paths_itemLeaves hindices hnames), hleaves,
    itemLeaves_itemNodes]
  simp only [List.mem_flatMap, List.mem_map]
  constructor
  · rintro ⟨_, ⟨item, hitem, field, hfield, rfl⟩, hpath, rfl⟩
    exact ⟨item, hitem, field, hfield, hpath, rfl⟩
  · rintro ⟨item, hitem, field, hfield, hpath, rfl⟩
    exact ⟨_, ⟨item, hitem, field, hfield, rfl⟩, hpath, rfl⟩

end ErrorTree

end UploadGate
