import UploadGate.Proofs.Keys
import UploadGate.Text.Names

/-! # Sets and tables of names

A set is built again from its own elements. What a table holds, by its names: a table that is built
from entries one after another holds for each name the last entry of that name.
-/

namespace UploadGate

namespace NameSet

theorem place_of_forall_lt {name : String} {names : List String}
    (h : ∀ other ∈ names, name < other) : place name names = name :: names := by
  cases names with
  | nil => rfl
  | cons first rest => rw [place, if_pos (h first List.mem_cons_self)]

theorem toList_ofList {names : List String} (h : names.Pairwise (· < ·)) :
    (ofList names).toList = names := by
  induction names with
  | nil => rfl
  | cons first rest ih =>
    obtain ⟨hfirst, hrest⟩ := List.pairwise_cons.mp h
    change place first (ofList rest).toList = first :: rest
    rw [ih hrest, place_of_forall_lt hfirst]

theorem ofList_toList (names : NameSet) : ofList names.toList = names := by
  have hsame := toList_ofList names.ascending
  cases hbuilt : ofList names.toList with
  | mk elements ascending =>
    cases names
    simp_all

/-- Sets of the same names are equal. -/
theorem ext_mem {first second : NameSet} (h : ∀ name, name ∈ first ↔ name ∈ second) :
    first = second := by
  have hnodup : ∀ set : NameSet, set.toList.Nodup := fun set => set.ascending.imp String.ne_of_lt
  have hperm : first.toList.Perm second.toList :=
    (List.perm_ext_iff_of_nodup (hnodup first) (hnodup second)).mpr h
  rw [← ofList_toList first, ← ofList_toList second,
    hperm.eq_of_pairwise _ first.ascending second.ascending]
  intro name other _ _ hlt hgt
  exact absurd (String.lt_trans hlt hgt) (String.lt_irrefl _)

end NameSet

namespace NameTable

variable {α : Type} {table : NameTable α} {entries : List (String × α)} {name : String}

@[simp] theorem isEmpty_empty : (∅ : NameTable α).isEmpty = true := rfl

@[simp] theorem isEmpty_insert (table : NameTable α) (name : String) (value : α) :
    (table.insert name value).isEmpty = false := by
  obtain ⟨entries, ascending⟩ := table
  cases entries with
  | nil => rfl
  | cons first rest =>
    unfold insert place isEmpty
    split
    · rfl
    · split <;> rfl

/-- A table is empty if none of its names has a value. -/
theorem isEmpty_iff : table.isEmpty = true ↔ ∀ name, table.get? name = none := by
  rw [isEmpty, List.isEmpty_iff]
  constructor
  · intro h name
    rw [get?, h]
    rfl
  · intro h
    cases hentries : table.entries with
    | nil => rfl
    | cons first rest =>
      have hfirst := h first.1
      rw [get?, hentries, lookup_cons_eq_ite, if_pos rfl] at hfirst
      exact absurd hfirst (by simp)

/-- The names of a table are those that have a value. -/
theorem mem_names_iff : name ∈ table.names ↔ ∃ value, table.get? name = some value := by
  rw [← Option.isSome_iff_exists, get?, names, List.lookup_isSome_iff, List.mem_map]
  simp only [beq_iff_eq, @eq_comm _ name]

theorem nodup_names (table : NameTable α) : table.names.Nodup :=
  List.pairwise_map.mpr (table.ascending.imp fun h => String.ne_of_lt h)

/-- A name has the value of its entry. -/
theorem get?_eq_some_iff {value : α} :
    table.get? name = some value ↔ (name, value) ∈ table.entries :=
  lookup_eq_some_iff_of_nodup table.nodup_names

/-- Tables that give every name the same value are equal. -/
theorem ext_get? {first second : NameTable α} (h : ∀ name, first.get? name = second.get? name) :
    first = second := by
  have hnodup : ∀ table : NameTable α, table.entries.Nodup := fun table =>
    List.Nodup.of_map Prod.fst table.nodup_names
  have hperm : first.entries.Perm second.entries := by
    apply (List.perm_ext_iff_of_nodup (hnodup first) (hnodup second)).mpr
    rintro ⟨name, value⟩
    rw [← get?_eq_some_iff, ← get?_eq_some_iff, h]
  -- Both lists of entries ascend, so that they hold the same entries in the same order.
  have hentries : first.entries = second.entries := by
    apply hperm.eq_of_pairwise _ first.ascending second.ascending
    intro entry other _ _ hlt hgt
    exact absurd (String.lt_trans hlt hgt) (String.lt_irrefl _)
  cases first
  cases second
  simpa using hentries

@[simp] theorem get?_map {β : Type} (f : α → β) (table : NameTable α) (name : String) :
    (table.map f).get? name = (table.get? name).map f := by
  ext value
  simp only [Option.map_eq_some_iff, get?_eq_some_iff, map, List.mem_map, Prod.exists,
    Prod.mk.injEq]
  constructor
  · rintro ⟨_, old, hmem, rfl, rfl⟩
    exact ⟨old, hmem, rfl⟩
  · rintro ⟨old, hmem, rfl⟩
    exact ⟨name, old, hmem, rfl, rfl⟩

theorem get?_foldl_insert :
    (entries.foldl (fun table entry => table.insert entry.1 entry.2) table).get? name =
      (entries.reverse.lookup name).or (table.get? name) := by
  induction entries generalizing table with
  | nil => simp
  | cons first rest ih =>
    have hfirst : [first].lookup name = if name = first.1 then some first.2 else none :=
      lookup_cons_eq_ite first [] name
    rw [List.foldl_cons, ih, get?_insert, List.reverse_cons, List.lookup_append, Option.or_assoc,
      hfirst]
    split
    · rfl
    · rfl

/-- Of the entries of a name the last one counts. -/
theorem get?_ofList : (ofList entries).get? name = entries.reverse.lookup name := by
  rw [ofList, get?_foldl_insert]
  simp

end NameTable

end UploadGate
