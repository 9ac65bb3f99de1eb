import Mathlib.Data.List.Nodup

/-! # Lists searched by a key

What is found in a list under the key of an element: the element itself if the keys are distinct,
and otherwise the first or the last one of the key, by the end from which the list is searched.
-/

namespace UploadGate

variable {α β : Type} [DecidableEq β] {list : List α} {a : α}

/-- Where keys are distinct, an element is found under its key. -/
theorem find?_of_nodup_map {key : α → β} (hdistinct : (list.map key).Nodup) (hmem : a ∈ list) :
    list.find? (key · = key a) = some a := by
  cases hfound : list.find? (key · = key a) with
  | none => exact absurd (List.find?_eq_none.mp hfound a hmem) (by simp)
  | some other =>
    have hkey : key other = key a := by simpa using List.find?_some hfound
    rw [List.inj_on_of_nodup_map hdistinct (List.mem_of_find?_eq_some hfound) hmem hkey]

/-- Where keys are distinct, the order of a list makes no difference to what is found. -/
theorem find?_eq_of_perm {key : α → β} {other : List α} (hdistinct : (list.map key).Nodup)
    (hperm : other.Perm list) (k : β) : other.find? (key · = k) = list.find? (key · = k) := by
  have hother : (other.map key).Nodup := (hperm.map key).nodup_iff.mpr hdistinct
  cases hfound : list.find? (key · = k) with
  | none =>
    rw [List.find?_eq_none] at hfound ⊢
    intro a ha
    exact hfound a (hperm.mem_iff.mp ha)
  | some a =>
    obtain rfl : key a = k := by simpa using List.find?_some hfound
    exact find?_of_nodup_map hother (hperm.mem_iff.mpr (List.mem_of_find?_eq_some hfound))

/-- Where keys are distinct, an element is the only one of its key. -/
theorem filter_of_nodup_map {key : α → β} (hdistinct : (list.map key).Nodup) (hmem : a ∈ list) :
    list.filter (key · = key a) = [a] := by
  induction list with
  | nil => exact absurd hmem List.not_mem_nil
  | cons first rest ih =>
    obtain ⟨hfirst, hrest⟩ := List.nodup_cons.mp hdistinct
    have hne : ∀ other ∈ rest, key other ≠ key first := fun other hother hsame =>
      hfirst (List.mem_map.mpr ⟨other, hother, hsame⟩)
    rcases List.mem_cons.mp hmem with rfl | hmem
    · have hnil : rest.filter (key · = key a) = [] := by simpa [List.filter_eq_nil_iff] using hne
      rw [List.filter_cons_of_pos (by simp), hnil]
    · rw [List.filter_cons_of_neg (by simpa using Ne.symm (hne a hmem)), ih hrest hmem]

/-- Where keys are distinct, looking one up finds the value that stands beside it. -/
theorem lookup_eq_some_iff_of_nodup {entries : List (β × α)}
    (hdistinct : (entries.map Prod.fst).Nodup) {k : β} :
    entries.lookup k = some a ↔ (k, a) ∈ entries := by
  induction entries with
  | nil => simp
  | cons first rest ih =>
    obtain ⟨hfirst, hrest⟩ := List.nodup_cons.mp hdistinct
    rw [List.lookup_cons, List.mem_cons, ← ih hrest]
    by_cases hkey : k = first.1
    · -- The key of the first entry is that of no other, so only the first can be found.
      subst hkey
      have hnone : rest.lookup first.1 ≠ some a := fun h =>
        hfirst (List.mem_map.mpr ⟨_, (ih hrest).mp h, rfl⟩)
      simp [hnone, Prod.ext_iff, eq_comm]
    · have hbeq : (k == first.1) = false := by simpa using hkey
      simp [hbeq, Prod.ext_iff, hkey]

/-- Looking a key up among the elements paired with their keys. -/
theorem lookup_map_key {key : α → β} {k : β} :
    (list.map fun a => (key a, a)).lookup k = list.find? (key · = k) := by
  induction list with
  | nil => rfl
  | cons first rest ih =>
    rw [List.map_cons, List.lookup_cons, List.find?_cons, ih]
    by_cases hkey : key first = k
    · simp [hkey]
    · have hbeq : (k == key first) = false := by simpa using Ne.symm hkey
      simp [hkey, hbeq]

/-- The first of a list from its end is the last one of those that are searched for. -/
theorem find?_reverse_eq_getLast?_filter {p : α → Bool} :
    list.reverse.find? p = (list.filter p).getLast? := by
  rw [← List.head?_filter, List.filter_reverse, List.head?_reverse]

end UploadGate
