import Mathlib.Algebra.BigOperators.Group.Finset.Basic
import UploadGate.Proofs.ErrorTree

/-! # Where the fields of a tree of errors go

The fields of a tree are given by the steps that lead to them, into structures and into lists. A
path is what is left of the steps when a tree is flattened, and steps with awkward names can leave
the same one. Flattening puts under each path the texts of just the fields whose steps leave it, a
field at a time. Where no name is empty or has a dot or an opening bracket, the steps can be read
back from the path, and no two fields share one.
-/

namespace UploadGate

namespace ErrorNode

/-- A step into a structure or into a list. -/
inductive Step where
  | member (name : String)
  | item (index : Nat)
deriving DecidableEq

/-- The steps that lead to a field, and the issues of the field. -/
abbrev Field := List Step × List Issue

variable {node : ErrorNode} {steps : List Step} {issues : List Issue}

/-- Steps lead from a node to a field with issues. -/
inductive Reaches : ErrorNode → List Step → List Issue → Prop
  | field {issues : List Issue} : Reaches (.field issues) [] issues
  | member {members : List (String × ErrorNode)} {name : String} {node : ErrorNode}
      {steps : List Step} {issues : List Issue} (hmember : (name, node) ∈ members)
      (h : Reaches node steps issues) : Reaches (.group members) (.member name :: steps) issues
  | item {found : List (Nat × List (String × ErrorNode))} {index : Nat}
      {members : List (String × ErrorNode)} {steps : List Step} {issues : List Issue}
      (hitem : (index, members) ∈ found) (h : Reaches (.group members) steps issues) :
    Reaches (.items found) (.item index :: steps) issues

/-- The names in every structure are distinct, and so are the indices in every list. -/
inductive IsKeyed : ErrorNode → Prop
  | field (issues : List Issue) : IsKeyed (.field issues)
  | group {members : List (String × ErrorNode)} (hnames : (members.map Prod.fst).Nodup)
      (h : ∀ member ∈ members, IsKeyed member.2) : IsKeyed (.group members)
  | items {found : List (Nat × List (String × ErrorNode))}
      (hindices : (found.map Prod.fst).Nodup)
      (h : ∀ item ∈ found, IsKeyed (.group item.2)) : IsKeyed (.items found)

/-! ## The fields of a node -/

/-- Induction over the nodes, with one case for each kind. -/
theorem inductionOn {motive : ErrorNode → Prop} (field : ∀ issues, motive (.field issues))
    (group : ∀ members, (∀ member ∈ members, motive member.2) → motive (.group members))
    (items : ∀ found, (∀ item ∈ found, motive (.group item.2)) → motive (.items found))
    (node : ErrorNode) : motive node :=
  @ErrorNode.rec motive (fun members => ∀ member ∈ members, motive member.2)
    (fun found => ∀ item ∈ found, motive (.group item.2)) (fun member => motive member.2)
    (fun item => motive (.group item.2)) field group items
    (List.forall_mem_nil _) (fun _ _ hfirst hlater => List.forall_mem_cons.mpr ⟨hfirst, hlater⟩)
    (List.forall_mem_nil _) (fun _ _ hfirst hlater => List.forall_mem_cons.mpr ⟨hfirst, hlater⟩)
    (fun _ _ h => h) (fun _ members h => group members h) node

/-- A field that lies one step farther away. -/
def Field.after (step : Step) (field : Field) : Field := (step :: field.1, field.2)

mutual

/-- The fields of a node. -/
def fields : ErrorNode → List Field
  | .field issues => [([], issues)]
  | .group members => memberFields members
  | .items found => itemFields found

def memberFields : List (String × ErrorNode) → List Field
  | [] => []
  | (name, node) :: later => (fields node).map (Field.after (.member name)) ++ memberFields later

def itemFields : List (Nat × List (String × ErrorNode)) → List Field
  | [] => []
  | (index, members) :: later =>
    (memberFields members).map (Field.after (.item index)) ++ itemFields later

end

theorem fields_field (issues : List Issue) : fields (.field issues) = [([], issues)] := by
  rw [fields]

theorem fields_group (members : List (String × ErrorNode)) :
    fields (.group members) =
      members.flatMap fun member => (fields member.2).map (Field.after (.member member.1)) := by
  rw [fields]
  induction members with
  | nil => rfl
  | cons first later ih => rw [memberFields, List.flatMap_cons, ih]

theorem fields_items (found : List (Nat × List (String × ErrorNode))) :
    fields (.items found) =
      found.flatMap fun item => (fields (.group item.2)).map (Field.after (.item item.1)) := by
  rw [fields]
  induction found with
  | nil => rfl
  | cons first later ih => rw [itemFields, List.flatMap_cons, ih, fields]

theorem mem_fields_iff : (steps, issues) ∈ fields node ↔ Reaches node steps issues := by
  induction node using inductionOn generalizing steps with
  | field found =>
    rw [fields_field, List.mem_singleton, Prod.mk.injEq]
    constructor
    · rintro ⟨rfl, rfl⟩
      exact .field
    · rintro ⟨⟩
      exact ⟨rfl, rfl⟩
  | group members ih =>
    rw [fields_group, List.mem_flatMap]
    constructor
    · rintro ⟨⟨name, node⟩, hmember, hfield⟩
      obtain ⟨⟨later, _⟩, hlater, ⟨⟩⟩ := List.mem_map.mp hfield
      exact .member hmember ((ih _ hmember).mp hlater)
    · rintro (_ | ⟨hmember, h⟩)
      exact ⟨_, hmember, List.mem_map.mpr ⟨_, (ih _ hmember).mpr h, rfl⟩⟩
  | items found ih =>
    rw [fields_items, List.mem_flatMap]
    constructor
    · rintro ⟨⟨index, members⟩, hitem, hfield⟩
      obtain ⟨⟨later, _⟩, hlater, ⟨⟩⟩ := List.mem_map.mp hfield
      exact .item hitem ((ih _ hitem).mp hlater)
    · rintro (_ | _ | ⟨hitem, h⟩)
      exact ⟨_, hitem, List.mem_map.mpr ⟨_, (ih _ hitem).mpr h, rfl⟩⟩

/-- Fields behind distinct steps are told apart by their first steps. -/
theorem nodup_flatMap_after {α : Type} {list : List α} {step : α → Step} {inner : α → List Field}
    (hsteps : (list.map step).Nodup) (hinner : ∀ a ∈ list, ((inner a).map Prod.fst).Nodup) :
    ((list.flatMap fun a => (inner a).map (Field.after (step a))).map Prod.fst).Nodup := by
  have hmap : (list.flatMap fun a => (inner a).map (Field.after (step a))).map Prod.fst =
      list.flatMap fun a => ((inner a).map Prod.fst).map (step a :: ·) := by
    rw [List.map_flatMap]
    simp only [List.map_map, Function.comp_def, Field.after]
  rw [hmap, List.nodup_flatMap]
  constructor
  · intro a ha
    exact (hinner a ha).map fun _ _ h => (List.cons.inj h).2
  · refine (List.pairwise_map.mp hsteps).imp fun {a b} hne steps ha hb => ?_
    obtain ⟨_, -, rfl⟩ := List.mem_map.mp ha
    obtain ⟨_, -, hsame⟩ := List.mem_map.mp hb
    exact hne (List.cons.inj hsame).1.symm

theorem nodup_map_fst_fields (h : IsKeyed node) : ((fields node).map Prod.fst).Nodup := by
  induction h with
  | field issues => simp [fields_field]
  | group hnames h ih =>
    have hsteps := hnames.map fun name other (h : Step.member name = .member other) =>
      Step.member.inj h
    rw [List.map_map] at hsteps
    rw [fields_group]
    exact nodup_flatMap_after hsteps ih
  | items hindices h ih =>
    have hsteps := hindices.map fun index other (h : Step.item index = .item other) =>
      Step.item.inj h
    rw [List.map_map] at hsteps
    rw [fields_items]
    exact nodup_flatMap_after hsteps ih

/-! ## Paths -/

/-- The path after one more step. A name without anything before it stands alone. -/
def Step.extend (path : String) : Step → String
  | .member name => if path = "" then name else path ++ "." ++ name
  | .item index => path ++ "[" ++ toString index ++ "]"

/-- The path of a field that is reached by steps. -/
def pathOf (steps : List Step) : String := steps.foldl Step.extend ""

theorem extend_member (path name : String) :
    Step.extend path (.member name) = ErrorTree.memberPath path name := rfl

theorem extend_item (path : String) (index : Nat) :
    Step.extend path (.item index) = ErrorTree.itemPath path index := by
  rw [Step.extend, ErrorTree.itemPath, Numeral.text_natCast]

open ErrorTree (nodeLeaves leavesUnder itemLeaves)

theorem leavesUnder_eq_flatMap (path : String) (members : List (String × ErrorNode)) :
    leavesUnder path members = members.flatMap fun member =>
      nodeLeaves (Step.extend path (.member member.1)) member.2 := by
  induction members with
  | nil => rfl
  | cons first later ih => rw [leavesUnder, List.flatMap_cons, ih, extend_member]

theorem itemLeaves_eq_flatMap (path : String) (found : List (Nat × List (String × ErrorNode))) :
    itemLeaves path found = found.flatMap fun item =>
      nodeLeaves (Step.extend path (.item item.1)) (.group item.2) := by
  induction found with
  | nil => rfl
  | cons first later ih => rw [itemLeaves, List.flatMap_cons, ih, extend_item, nodeLeaves]

theorem nodeLeaves_eq_map (path : String) (node : ErrorNode) :
    nodeLeaves path node =
      (fields node).map fun field => ⟨field.1.foldl Step.extend path, field.2⟩ := by
  induction node using inductionOn generalizing path with
  | field issues => rw [nodeLeaves, fields_field]; rfl
  | group members ih =>
    rw [nodeLeaves, leavesUnder_eq_flatMap, fields_group, List.map_flatMap]
    refine List.flatMap_congr fun member hmember => ?_
    rw [ih member hmember, List.map_map]
    rfl
  | items found ih =>
    rw [nodeLeaves, itemLeaves_eq_flatMap, fields_items, List.map_flatMap]
    refine List.flatMap_congr fun item hitem => ?_
    rw [ih item hitem, List.map_map]
    rfl

/-! ## Paths that are read back -/

namespace Step

/-- The step has a name that does not look like part of a longer path, or has none. -/
def IsPlain : Step → Prop
  | .member name => name ≠ "" ∧ '.' ∉ name.toList ∧ '[' ∉ name.toList
  | .item _ => True

instance : DecidablePred IsPlain
  | .member name => inferInstanceAs (Decidable (name ≠ "" ∧ '.' ∉ name.toList ∧ '[' ∉ name.toList))
  | .item _ => inferInstanceAs (Decidable True)

/-- The character that tells that a step starts. -/
def mark : Step → Char
  | .member _ => '.'
  | .item _ => '['

/-- What stands in a path for a step, after its mark. -/
def body : Step → List Char
  | .member name => name.toList
  | .item index => (toString index).toList ++ [']']

def isMark (c : Char) : Bool := c = '.' || c = '['

theorem isMark_mark (step : Step) : isMark step.mark = true := by
  cases step <;> rfl

theorem isMark_eq_false_of_mem_body {step : Step} (h : step.IsPlain) :
    ∀ c ∈ step.body, isMark c = false := by
  intro c hc
  cases step with
  | member name =>
    obtain ⟨-, hdot, hbracket⟩ := h
    simp only [isMark, Bool.or_eq_false_iff, decide_eq_false_iff_not]
    exact ⟨fun hsame => hdot (hsame ▸ hc), fun hsame => hbracket (hsame ▸ hc)⟩
  | item index =>
    rcases List.mem_append.mp hc with hdigit | hlast
    · have hdigits : (toString index).toList = Nat.toDigits 10 index := String.toList_ofList
      rw [hdigits] at hdigit
      have hisDigit := Nat.isDigit_of_mem_toDigits (by decide) (by decide) hdigit
      simp only [isMark, Bool.or_eq_false_iff, decide_eq_false_iff_not]
      constructor
      · rintro rfl
        exact absurd hisDigit (by decide)
      · rintro rfl
        exact absurd hisDigit (by decide)
    · rw [List.mem_singleton.mp hlast]
      rfl

theorem eq_of_mark_body {step other : Step} (hmark : step.mark = other.mark)
    (hbody : step.body = other.body) : step = other := by
  have hne : '.' ≠ '[' := by decide
  cases step with
  | member name =>
    cases other with
    | member other => rw [String.toList_injective hbody]
    | item index => exact absurd hmark hne
  | item index =>
    cases other with
    | member name => exact absurd hmark.symm hne
    | item other =>
      have hdigits : Nat.toDigits 10 index = Nat.toDigits 10 other :=
        String.ofList_injective (String.toList_injective (List.append_cancel_right hbody))
      rw [← Numeral.ofNat_eq_toDigits, ← Numeral.ofNat_eq_toDigits, Numeral.ofNat_inj] at hdigits
      rw [hdigits]

def tokens (steps : List Step) : List Char := steps.flatMap fun step => step.mark :: step.body

theorem toList_foldl_extend {path : String} (hpath : path ≠ "") (steps : List Step) :
    (steps.foldl extend path).toList = path.toList ++ tokens steps := by
  induction steps generalizing path with
  | nil => simp [tokens]
  | cons step later ih =>
    have hstep : (extend path step).toList = path.toList ++ step.mark :: step.body := by
      cases step <;> simp [extend, hpath, mark, body]
    have hne : extend path step ≠ "" := by
      intro h
      rw [h] at hstep
      simp at hstep
    rw [List.foldl_cons, ih hne, hstep, tokens, tokens, List.flatMap_cons, List.append_assoc]

theorem takeWhile_append_tokens {front : List Char} (hfront : ∀ c ∈ front, isMark c = false)
    (steps : List Step) : (front ++ tokens steps).takeWhile (!isMark ·) = front := by
  rw [List.takeWhile_append_of_pos (by simpa using hfront)]
  cases steps with
  | nil => simp [tokens]
  | cons step later => simp [tokens, isMark_mark]

/-- What stands before the first mark can be cut off. -/
theorem cut_tokens {front front' : List Char} {steps steps' : List Step}
    (hfront : ∀ c ∈ front, isMark c = false) (hfront' : ∀ c ∈ front', isMark c = false)
    (h : front ++ tokens steps = front' ++ tokens steps') :
    front = front' ∧ tokens steps = tokens steps' := by
  have hsame : front = front' := by
    rw [← takeWhile_append_tokens hfront, h, takeWhile_append_tokens hfront']
  rw [hsame, List.append_cancel_left_eq] at h
  exact ⟨hsame, h⟩

/-- Steps can be read off their marks and bodies, and so can what stands before them. -/
theorem append_tokens_inj {front front' : List Char} {steps steps' : List Step}
    (hfront : ∀ c ∈ front, isMark c = false) (hfront' : ∀ c ∈ front', isMark c = false)
    (hsteps : ∀ step ∈ steps, step.IsPlain) (hsteps' : ∀ step ∈ steps', step.IsPlain)
    (h : front ++ tokens steps = front' ++ tokens steps') : front = front' ∧ steps = steps' := by
  induction steps generalizing front front' steps' with
  | nil =>
    obtain ⟨hsame, htokens⟩ := cut_tokens hfront hfront' h
    cases steps' with
    | nil => exact ⟨hsame, rfl⟩
    | cons step' later' => exact absurd htokens (by simp [tokens])
  | cons step later ih =>
    obtain ⟨hsame, htokens⟩ := cut_tokens hfront hfront' h
    cases steps' with
    | nil => exact absurd htokens (by simp [tokens])
    | cons step' later' =>
      -- The body of the first step is what stands before the marks of the later ones.
      obtain ⟨hmark, hlater⟩ := List.cons.inj htokens
      obtain ⟨hfirst, hrest⟩ := List.forall_mem_cons.mp hsteps
      obtain ⟨hfirst', hrest'⟩ := List.forall_mem_cons.mp hsteps'
      obtain ⟨hbody, rfl⟩ := ih (isMark_eq_false_of_mem_body hfirst)
        (isMark_eq_false_of_mem_body hfirst') hrest hrest' hlater
      exact ⟨hsame, by rw [eq_of_mark_body hmark hbody]⟩

end Step

theorem exists_eq_cons_of_reaches_group {members : List (String × ErrorNode)}
    (h : Reaches (.group members) steps issues) : ∃ name later, steps = .member name :: later := by
  obtain _ | _ := h
  exact ⟨_, _, rfl⟩

theorem toList_pathOf {name : String} (hname : name ≠ "") (later : List Step) :
    (pathOf (.member name :: later)).toList = name.toList ++ Step.tokens later :=
  Step.toList_foldl_extend hname later

/-- The steps to a field of a structure can be read off its path. -/
theorem eq_of_pathOf_eq {name name' : String} {later later' : List Step}
    (hplain : ∀ step ∈ .member name :: later, step.IsPlain)
    (hplain' : ∀ step ∈ .member name' :: later', step.IsPlain)
    (h : pathOf (.member name :: later) = pathOf (.member name' :: later')) :
    Step.member name :: later = .member name' :: later' := by
  obtain ⟨hfirst, hlater⟩ := List.forall_mem_cons.mp hplain
  obtain ⟨hfirst', hlater'⟩ := List.forall_mem_cons.mp hplain'
  have hlists := congrArg String.toList h
  rw [toList_pathOf hfirst.1, toList_pathOf hfirst'.1] at hlists
  obtain ⟨hname, rfl⟩ := Step.append_tokens_inj (Step.isMark_eq_false_of_mem_body hfirst)
    (Step.isMark_eq_false_of_mem_body hfirst') hlater hlater' hlists
  rw [String.toList_injective hname]

end ErrorNode

namespace ErrorTree

open ErrorNode

variable {tree : ErrorTree}

theorem leaves_eq_map (tree : ErrorTree) :
    tree.leaves = (fields (.group tree)).map fun field => ⟨pathOf field.1, field.2⟩ := by
  rw [leaves, ← nodeLeaves, nodeLeaves_eq_map]
  rfl

theorem get?_messages_eq_some_iff_fields {path : String} {texts : List String} :
    tree.messages.get? path = some texts ↔
      (∃ field ∈ fields (.group tree), pathOf field.1 = path) ∧
        texts = ((fields (.group tree)).filter (pathOf ·.1 = path)).flatMap
          (·.2.map Issue.text) := by
  rw [get?_messages_eq_some_iff, leaves_eq_map, List.filter_map, List.flatMap_map]
  simp only [List.mem_map, exists_exists_and_eq_and]
  rfl

theorem exists_get?_messages_iff {path : String} :
    (∃ texts, tree.messages.get? path = some texts) ↔
      ∃ field ∈ fields (.group tree), pathOf field.1 = path := by
  simp only [get?_messages_eq_some_iff_fields, exists_and_left, exists_eq, and_true]

/-- What stands under a path: nothing where there is no text to put there. -/
theorem getD_messages (tree : ErrorTree) (path : String) :
    (tree.messages.get? path).getD [] =
      ((fields (.group tree)).filter (pathOf ·.1 = path)).flatMap (·.2.map Issue.text) := by
  cases h : tree.messages.get? path with
  | some texts => exact (get?_messages_eq_some_iff_fields.mp h).2
  | none =>
    have hnone : ∀ field ∈ fields (.group tree), pathOf field.1 ≠ path := fun field hfield hpath =>
      absurd (exists_get?_messages_iff.mpr ⟨field, hfield, hpath⟩) (by simp [h])
    have hfilter : (fields (.group tree)).filter (pathOf ·.1 = path) = [] := by
      simpa [List.filter_eq_nil_iff] using hnone
    rw [hfilter, List.flatMap_nil, Option.getD_none]

theorem coe_getD_messages_eq_sum (hkeyed : IsKeyed (.group tree)) (path : String) :
    (((tree.messages.get? path).getD [] : List String) : Multiset String) =
      ∑ field ∈ (fields (.group tree)).toFinset with pathOf field.1 = path,
        ((field.2.map Issue.text : List String) : Multiset String) := by
  have hnodup : (fields (.group tree)).Nodup := (nodup_map_fst_fields hkeyed).of_map
  have hfilter : (fields (.group tree)).toFinset.filter (pathOf ·.1 = path) =
      ((fields (.group tree)).filter (pathOf ·.1 = path)).toFinset := by
    simp [List.toFinset_filter]
  rw [getD_messages, hfilter, List.sum_toFinset _ (hnodup.filter _), ← Multiset.coe_bind]
  rfl

/-- The texts of a field stay together. -/
theorem exists_infix_messages {field : Field} (hfield : field ∈ fields (.group tree)) :
    ∃ texts, tree.messages.get? (pathOf field.1) = some texts ∧
      field.2.map Issue.text <:+: texts := by
  refine ⟨_, get?_messages_eq_some_iff_fields.mpr ⟨⟨field, hfield, rfl⟩, rfl⟩, ?_⟩
  rw [List.flatMap_def]
  exact List.infix_of_mem_flatten
    (List.mem_map_of_mem (List.mem_filter.mpr ⟨hfield, decide_eq_true rfl⟩))

/-- No two fields of a tree with plain names share a path. -/
theorem nodup_map_pathOf (hkeyed : IsKeyed (.group tree))
    (hplain : ∀ field ∈ fields (.group tree), ∀ step ∈ field.1, step.IsPlain) :
    ((fields (.group tree)).map (pathOf ·.1)).Nodup := by
  have hsteps := nodup_map_fst_fields hkeyed
  refine hsteps.of_map.map_on fun field hfield other hother hpath => ?_
  refine List.inj_on_of_nodup_map hsteps hfield hother ?_
  obtain ⟨name, later, hname⟩ := exists_eq_cons_of_reaches_group (mem_fields_iff.mp hfield)
  obtain ⟨name', later', hname'⟩ := exists_eq_cons_of_reaches_group (mem_fields_iff.mp hother)
  have hfirst := hplain field hfield
  have hsecond := hplain other hother
  rw [hname, hname'] at hpath ⊢
  rw [hname] at hfirst
  rw [hname'] at hsecond
  exact eq_of_pathOf_eq hfirst hsecond hpath

theorem get?_messages_pathOf (hpaths : ((fields (.group tree)).map (pathOf ·.1)).Nodup)
    {field : Field} (hfield : field ∈ fields (.group tree)) :
    tree.messages.get? (pathOf field.1) = some (field.2.map Issue.text) := by
  have hleaves : (tree.leaves.map Leaf.path).Nodup := by
    rwa [leaves_eq_map, List.map_map]
  rw [get?_messages_of_nodup hleaves, leaves_eq_map]
  exact ⟨_, List.mem_map_of_mem hfield, rfl, rfl⟩

/-- Flattening puts under each path the texts of the fields that have it, those of one field
together, and keeps no other path. In a tree of plain names every field has a path of its own. -/
theorem messages_gather_fields (hkeyed : IsKeyed (.group tree)) :
    ∃ fields : Finset Field,
      (∀ steps issues, (steps, issues) ∈ fields ↔ Reaches (.group tree) steps issues) ∧
      (∀ path,
        ((∃ texts, tree.messages.get? path = some texts) ↔
          ∃ field ∈ fields, pathOf field.1 = path) ∧
        (((tree.messages.get? path).getD [] : List String) : Multiset String) =
          ∑ field ∈ fields with pathOf field.1 = path,
            ((field.2.map Issue.text : List String) : Multiset String)) ∧
      (∀ field ∈ fields, ∃ texts, tree.messages.get? (pathOf field.1) = some texts ∧
        field.2.map Issue.text <:+: texts) ∧
      ((∀ field ∈ fields, ∀ step ∈ field.1, step.IsPlain) → ∀ field ∈ fields,
        (∀ other ∈ fields, pathOf other.1 = pathOf field.1 → other = field) ∧
        tree.messages.get? (pathOf field.1) = some (field.2.map Issue.text)) := by
  refine ⟨(fields (.group tree)).toFinset, ?_, ?_, ?_, ?_⟩
  · intro steps issues
    rw [List.mem_toFinset, mem_fields_iff]
  · intro path
    exact ⟨by simpa only [List.mem_toFinset] using exists_get?_messages_iff,
      coe_getD_messages_eq_sum hkeyed path⟩
  · intro field hfield
    exact exists_infix_messages (List.mem_toFinset.mp hfield)
  · intro hplain field hfield
    simp only [List.mem_toFinset] at hplain hfield ⊢
    have hpaths := nodup_map_pathOf hkeyed hplain
    exact ⟨fun other hother => List.inj_on_of_nodup_map hpaths hother hfield,
      get?_messages_pathOf hpaths hfield⟩

-- Two fields that leave the same path meet under it.
example : (messages [("a", .group [("b", .field [⟨"length", none⟩])]),
    ("a.b", .field [⟨"regex", none⟩])]).get? "a.b" = some ["length", "regex"] := by decide

/-- Errors of the second of two files and of the target. -/
def fileAndTarget : ErrorTree :=
  [("files", .items [(0, [("filename", .field [])]),
    (1, [("filename", .field [⟨"length", none⟩, ⟨"regex", some "No dots."⟩])])]),
    ("target", .group [("name", .field [⟨"length", none⟩])])]

theorem isKeyed_fileAndTarget : IsKeyed (.group fileAndTarget) := by
  have hfield : ∀ name issues, IsKeyed (.group [(name, .field issues)]) := fun name issues =>
    .group (List.nodup_singleton name) (List.forall_mem_singleton.mpr (.field issues))
  have hfiles : IsKeyed (.items [(0, [("filename", .field [])]),
      (1, [("filename", .field [⟨"length", none⟩, ⟨"regex", some "No dots."⟩])])]) :=
    .items (by decide)
      (List.forall_mem_cons.mpr ⟨hfield _ _, List.forall_mem_singleton.mpr (hfield _ _)⟩)
  exact .group (by decide)
    (List.forall_mem_cons.mpr ⟨hfiles, List.forall_mem_singleton.mpr (hfield _ _)⟩)

theorem messages_gather_fileAndTarget_fields :
    IsKeyed (.group fileAndTarget) ∧
      Reaches (.group fileAndTarget) [.member "files", .item 1, .member "filename"]
        [⟨"length", none⟩, ⟨"regex", some "No dots."⟩] ∧
      fileAndTarget.messages.get? "files[1].filename" = some ["length", "No dots."] := by
  obtain ⟨found, hfound, -, -, hown⟩ := messages_gather_fields isKeyed_fileAndTarget
  have hplain : ∀ field ∈ found, ∀ step ∈ field.1, step.IsPlain := fun field hfield =>
    have hall : ∀ field ∈ fields (.group fileAndTarget), ∀ step ∈ field.1, step.IsPlain := by decide
    hall field (mem_fields_iff.mpr ((hfound field.1 field.2).mp hfield))
  have hreach : Reaches (.group fileAndTarget) [.member "files", .item 1, .member "filename"]
      [⟨"length", none⟩, ⟨"regex", some "No dots."⟩] := mem_fields_iff.mp (by decide)
  exact ⟨isKeyed_fileAndTarget, hreach, (hown hplain _ ((hfound _ _).mpr hreach)).2⟩

end ErrorTree

end UploadGate
