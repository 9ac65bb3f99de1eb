/-! # Cutting texts at a separator

Three ways to cut a list of characters: at every separator, at the first one, at the last one.
Cutting at every separator gives at least one piece, joining the pieces gives the text back, and
pieces without separator are what their join is cut into. What stands before a marker of several
characters is found if the first of them does not come again in the marker.
-/

namespace UploadGate.Text

/-- The pieces between the separators, in order; a text without separator is one piece. -/
def split (sep : Char) : List Char → List (List Char)
  | [] => [[]]
  | c :: cs =>
    if c = sep then [] :: split sep cs
    else match split sep cs with
      | [] => [[c]]
      | piece :: pieces => (c :: piece) :: pieces

/-- What stands before and after the first separator. -/
def cutFirst (sep : Char) : List Char → Option (List Char × List Char)
  | [] => none
  | c :: cs =>
    if c = sep then some ([], cs)
    else (cutFirst sep cs).map fun (before, after) => (c :: before, after)

/-- What stands before and after the last separator. -/
def cutLast (sep : Char) (cs : List Char) : Option (List Char × List Char) :=
  (cutFirst sep cs.reverse).map fun (after, before) => (before.reverse, after.reverse)

/-- What stands before the first occurrence of a marker; the whole text if there is none. -/
def before (marker : List Char) : List Char → List Char
  | [] => []
  | c :: cs => if marker.isPrefixOf (c :: cs) then [] else c :: before marker cs

theorem split_cons_self (sep : Char) (cs : List Char) :
    split sep (sep :: cs) = [] :: split sep cs := if_pos rfl

theorem split_cons_of_ne {sep c : Char} (h : c ≠ sep) (cs : List Char) :
    split sep (c :: cs) = match split sep cs with
      | [] => [[c]]
      | piece :: pieces => (c :: piece) :: pieces := if_neg h

theorem split_ne_nil (sep : Char) (cs : List Char) : split sep cs ≠ [] := by
  cases cs with
  | nil => exact List.cons_ne_nil _ _
  | cons c cs =>
    by_cases h : c = sep
    · rw [h, split_cons_self]
      exact List.cons_ne_nil _ _
    · rw [split_cons_of_ne h]
      split <;> exact List.cons_ne_nil _ _

/-- A character that is no separator is put in front of the first piece. -/
theorem exists_split_cons {sep c : Char} (h : c ≠ sep) (cs : List Char) :
    ∃ piece pieces, split sep cs = piece :: pieces ∧
      split sep (c :: cs) = (c :: piece) :: pieces := by
  obtain ⟨piece, pieces, hpieces⟩ := List.exists_cons_of_ne_nil (split_ne_nil sep cs)
  exact ⟨piece, pieces, hpieces, by rw [split_cons_of_ne h, hpieces]⟩

/-- Joining the pieces with the separator gives the text back. -/
theorem intercalate_split (sep : Char) (cs : List Char) :
    [sep].intercalate (split sep cs) = cs := by
  induction cs with
  | nil => rfl
  | cons c cs ih =>
    by_cases h : c = sep
    · obtain ⟨piece, pieces, hpieces⟩ := List.exists_cons_of_ne_nil (split_ne_nil sep cs)
      rw [hpieces] at ih
      rw [h, split_cons_self, hpieces, List.intercalate_cons_cons, ih]
      rfl
    · obtain ⟨piece, pieces, hpieces, hcons⟩ := exists_split_cons h cs
      rw [hpieces] at ih
      rw [hcons]
      cases pieces with
      | nil => simpa using ih
      | cons piece' pieces =>
        rw [List.intercalate_cons_cons] at ih ⊢
        simpa using ih

/-- No piece holds the separator. -/
theorem not_mem_of_mem_split {sep : Char} {cs piece : List Char} (h : piece ∈ split sep cs) :
    sep ∉ piece := by
  induction cs generalizing piece with
  | nil =>
    obtain rfl := List.mem_singleton.mp h
    exact List.not_mem_nil
  | cons c cs ih =>
    by_cases hc : c = sep
    · rw [hc, split_cons_self] at h
      rcases List.mem_cons.mp h with rfl | h
      · exact List.not_mem_nil
      · exact ih h
    · obtain ⟨first, rest, hpieces, hcons⟩ := exists_split_cons hc cs
      rw [hcons] at h
      rcases List.mem_cons.mp h with rfl | h
      · simpa [Ne.symm hc] using ih (hpieces ▸ List.mem_cons_self)
      · exact ih (hpieces ▸ List.mem_cons_of_mem _ h)

theorem split_of_not_mem {sep : Char} {cs : List Char} (h : sep ∉ cs) : split sep cs = [cs] := by
  induction cs with
  | nil => rfl
  | cons c cs ih =>
    have hc : c ≠ sep := (List.ne_of_not_mem_cons h).symm
    rw [split_cons_of_ne hc, ih (List.not_mem_of_not_mem_cons h)]

theorem split_append_cons {sep : Char} {front back : List Char} (h : sep ∉ front) :
    split sep (front ++ sep :: back) = front :: split sep back := by
  induction front with
  | nil => exact split_cons_self sep back
  | cons c front ih =>
    have hc : c ≠ sep := (List.ne_of_not_mem_cons h).symm
    rw [List.cons_append, split_cons_of_ne hc, ih (List.not_mem_of_not_mem_cons h)]

/-- Pieces without separator are what their join is cut into. -/
theorem split_intercalate {sep : Char} {pieces : List (List Char)} (hne : pieces ≠ [])
    (h : ∀ piece ∈ pieces, sep ∉ piece) : split sep ([sep].intercalate pieces) = pieces := by
  induction pieces with
  | nil => exact absurd rfl hne
  | cons first rest ih =>
    obtain ⟨hfirst, hrest⟩ := List.forall_mem_cons.mp h
    cases rest with
    | nil => simpa using split_of_not_mem hfirst
    | cons second rest =>
      rw [List.intercalate_cons_cons, List.append_assoc, List.singleton_append,
        split_append_cons hfirst, ih (by simp) hrest]

theorem cutFirst_eq_some_iff {sep : Char} {cs front back : List Char} :
    cutFirst sep cs = some (front, back) ↔ cs = front ++ sep :: back ∧ sep ∉ front := by
  induction cs generalizing front with
  | nil => simp [cutFirst]
  | cons c cs ih =>
    by_cases h : c = sep
    · subst h
      cases front with
      | nil => simp [cutFirst]
      | cons d front => simp [cutFirst]; grind
    · cases front with
      | nil => simp [cutFirst, h]
      | cons d front => simp [cutFirst, h, ih]; grind

theorem cutLast_eq_some_iff {sep : Char} {cs front back : List Char} :
    cutLast sep cs = some (front, back) ↔ cs = front ++ sep :: back ∧ sep ∉ back := by
  simp only [cutLast, Option.map_eq_some_iff, Prod.exists, Prod.mk.injEq, cutFirst_eq_some_iff]
  constructor
  · rintro ⟨after, before, ⟨h, hmem⟩, rfl, rfl⟩
    refine ⟨?_, by simpa using hmem⟩
    rw [← List.reverse_reverse cs, h]
    simp
  · rintro ⟨rfl, hmem⟩
    exact ⟨back.reverse, front.reverse, ⟨by simp, by simpa using hmem⟩, by simp, by simp⟩

/-! ## Markers -/

variable {marker front back : List Char} {sep c : Char}

theorem before_eq_self_of_not_infix (h : ¬ marker <:+: front) : before marker front = front := by
  induction front with
  | nil => rfl
  | cons first front ih =>
    rw [List.infix_cons_iff, not_or] at h
    rw [before, if_neg (by simpa using h.1), ih h.2]

/-- A marker starts nowhere in front of its place, if its first character does not come again in
it. -/
theorem not_prefix_append_of_not_infix (hc : c ∉ marker) (hne : front ≠ [])
    (h : ¬ (c :: marker) <:+: front) : ¬ (c :: marker) <+: front ++ (c :: (marker ++ back)) := by
  intro hprefix
  obtain ⟨first, front, rfl⟩ := List.exists_cons_of_ne_nil hne
  rcases List.prefix_or_prefix_of_prefix hprefix (List.prefix_append _ _) with hin | ⟨tail, htail⟩
  · exact h hin.isInfix
  · obtain ⟨rfl, hmarker⟩ := List.cons.inj htail
    obtain rfl : front ++ tail = marker := hmarker
    rw [← List.cons_append, List.prefix_append_right_inj] at hprefix
    cases tail with
    | nil => exact h (by simp)
    | cons second tail =>
      obtain ⟨rfl, -⟩ := List.cons_prefix_cons.mp hprefix
      exact hc (List.mem_append_right _ List.mem_cons_self)

theorem before_append (hc : c ∉ marker) (h : ¬ (c :: marker) <:+: front) :
    before (c :: marker) (front ++ (c :: (marker ++ back))) = front := by
  induction front with
  | nil =>
    rw [List.nil_append, before, if_pos]
    simp
  | cons first front ih =>
    have hstart : ¬ (c :: marker) <+: first :: front ++ (c :: (marker ++ back)) :=
      not_prefix_append_of_not_infix hc (List.cons_ne_nil _ _) h
    rw [List.infix_cons_iff, not_or] at h
    rw [List.cons_append, before, if_neg (by simpa using hstart), ih h.2]

theorem prefix_of_prefix_append_cons (hsep : sep ∉ marker) (h : marker <+: front ++ sep :: back) :
    marker <+: front := by
  rcases List.prefix_or_prefix_of_prefix h (List.prefix_append _ _) with h | ⟨tail, rfl⟩
  · exact h
  · rw [List.prefix_append_right_inj] at h
    cases tail with
    | nil => simp
    | cons first tail =>
      obtain ⟨rfl, -⟩ := List.cons_prefix_cons.mp h
      exact absurd (List.mem_append_right _ List.mem_cons_self) hsep

/-- A marker does not reach over a character that it does not hold. -/
theorem infix_or_infix_of_append_cons (hsep : sep ∉ marker) (h : marker <:+: front ++ sep :: back) :
    marker <:+: front ∨ marker <:+: back := by
  induction front with
  | nil =>
    rcases List.infix_cons_iff.mp h with h | h
    · have hfront : marker <+: [] := prefix_of_prefix_append_cons hsep h
      exact .inl hfront.isInfix
    · exact .inr h
  | cons first front ih =>
    rcases List.infix_cons_iff.mp h with h | h
    · have hfront : marker <+: first :: front := prefix_of_prefix_append_cons hsep h
      exact .inl hfront.isInfix
    · exact (ih h).imp_left List.infix_cons

end UploadGate.Text
