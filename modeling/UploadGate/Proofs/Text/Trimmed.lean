import Mathlib.Data.List.Induction
import Mathlib.Data.List.TakeWhile
import UploadGate.Text.Blank
import UploadGate.Text.Split

/-! # Trimmed texts

A text is trimmed when it has no white space at either end. Trimming gives such a text, and changes
no text that is one already, nor does white space around a text change what it is trimmed to. It
makes no difference to the trimmed pieces of a text whether the text was trimmed itself.
-/

namespace UploadGate.Text

variable {p : Char → Bool} {cs : List Char}

theorem dropWhile_eq_self_iff_head? :
    cs.dropWhile p = cs ↔ ∀ c, cs.head? = some c → p c = false := by
  rw [List.dropWhile_eq_self_iff]
  cases cs <;> simp

/-- What is left after the front is cut does not start in the class. -/
theorem head?_dropWhile {c : Char} (h : (cs.dropWhile p).head? = some c) : p c = false := by
  have := List.head?_dropWhile_not p cs
  rw [h] at this
  simpa using this

theorem dropEndWhile_eq_self_iff :
    dropEndWhile p cs = cs ↔ ∀ c, cs.getLast? = some c → p c = false := by
  rw [dropEndWhile, ← List.head?_reverse, ← dropWhile_eq_self_iff_head?, List.reverse_eq_iff]

theorem getLast?_dropEndWhile {c : Char} (h : (dropEndWhile p cs).getLast? = some c) :
    p c = false := by
  rw [dropEndWhile, List.getLast?_reverse] at h
  exact head?_dropWhile h

/-- Cutting the end leaves the front as it is, unless it cuts everything. -/
theorem head?_dropEndWhile {c : Char} (h : (dropEndWhile p cs).head? = some c) :
    cs.head? = some c := by
  obtain ⟨back, hback⟩ := List.dropWhile_suffix (l := cs.reverse) p
  have hfront : dropEndWhile p cs ++ back.reverse = cs := by
    rw [dropEndWhile, ← List.reverse_append, hback, List.reverse_reverse]
  rw [← hfront, List.head?_append, h]
  rfl

theorem strip_eq_self_iff :
    strip p cs = cs ↔
      (∀ c, cs.head? = some c → p c = false) ∧ ∀ c, cs.getLast? = some c → p c = false := by
  constructor
  · intro h
    refine ⟨fun c hc => ?_, fun c hc => ?_⟩
    · rw [← h, strip] at hc
      exact head?_dropWhile (head?_dropEndWhile hc)
    · rw [← h, strip] at hc
      exact getLast?_dropEndWhile hc
  · rintro ⟨hhead, hlast⟩
    rw [strip, dropWhile_eq_self_iff_head?.mpr hhead, dropEndWhile_eq_self_iff.mpr hlast]

theorem strip_sublist (p : Char → Bool) (cs : List Char) : (strip p cs).Sublist cs := by
  have hfront : (cs.dropWhile p).Sublist cs := (List.dropWhile_suffix p).sublist
  have hend := (List.dropWhile_suffix (l := (cs.dropWhile p).reverse) p).sublist.reverse
  rw [List.reverse_reverse] at hend
  exact hend.trans hfront

/-- Stripping adds no character. -/
theorem mem_of_mem_strip {c : Char} (h : c ∈ strip p cs) : c ∈ cs := (strip_sublist p cs).subset h

theorem strip_eq_self_of_forall (h : ∀ c ∈ cs, p c = false) : strip p cs = cs :=
  strip_eq_self_iff.mpr
    ⟨fun c hc => h c (List.mem_of_mem_head? hc), fun c hc => h c (List.mem_of_mem_getLast? hc)⟩

@[simp] theorem strip_strip : strip p (strip p cs) = strip p cs :=
  strip_eq_self_iff.mpr
    ⟨fun _ hc => head?_dropWhile (head?_dropEndWhile hc), fun _ hc => getLast?_dropEndWhile hc⟩

@[simp] theorem trim_trim (s : String) : trim (trim s) = trim s := by
  rw [trim, toList_trim, strip_strip]
  rfl

/-- A text without white space is trimmed. -/
theorem trim_eq_self_of_forall {s : String} (h : ∀ c ∈ s.toList, isBlank c = false) :
    trim s = s := by
  rw [trim, strip_eq_self_of_forall h, String.ofList_toList]

theorem not_mem_of_blank {s : String} {c : Char} (hc : isBlank c = false) (h : blank s = true) :
    c ∉ s.toList := by
  intro hmem
  have hblank : isBlank c = true := List.all_eq_true.mp h c hmem
  exact absurd hblank (by simp [hc])

theorem blank_append (s t : String) : blank (s ++ t) = (blank s && blank t) := by
  rw [blank, String.toList_append, List.all_append, blank, blank]

/-- A text is what it is trimmed to, with white space around it. -/
theorem exists_append_trim (s : String) :
    ∃ front back, s = front ++ trim s ++ back ∧ blank front = true ∧ blank back = true := by
  have hall : ∀ cs : List Char, (cs.takeWhile isBlank).all isBlank = true := fun cs =>
    List.all_eq_true.mpr fun c hc => List.mem_takeWhile_imp hc
  refine ⟨.ofList (s.toList.takeWhile isBlank),
    .ofList ((s.toList.dropWhile isBlank).reverse.takeWhile isBlank).reverse, ?_, ?_, ?_⟩
  · rw [← String.toList_inj]
    simp only [String.toList_append, String.toList_ofList, toList_trim, strip, dropEndWhile]
    rw [List.append_assoc, ← List.reverse_append, List.takeWhile_append_dropWhile,
      List.reverse_reverse, List.takeWhile_append_dropWhile]
  · rw [blank, String.toList_ofList, hall]
  · rw [blank, String.toList_ofList, List.all_reverse, hall]

/-! ## Pieces of a trimmed text -/

theorem dropEndWhile_cons (c : Char) (cs : List Char) :
    dropEndWhile p (c :: cs) =
      if dropEndWhile p cs = [] ∧ p c = true then [] else c :: dropEndWhile p cs := by
  rw [dropEndWhile, dropEndWhile, List.reverse_cons, List.dropWhile_append]
  simp only [List.isEmpty_iff, List.reverse_eq_nil_iff]
  by_cases hnil : cs.reverse.dropWhile p = []
  · rw [if_pos hnil]
    by_cases hc : p c = true <;> simp [hnil, hc]
  · rw [if_neg hnil, if_neg fun h => hnil h.1]
    simp

/-- The two ends of a text can be cut in either order. -/
theorem dropWhile_dropEndWhile (cs : List Char) :
    (dropEndWhile p cs).dropWhile p = strip p cs := by
  induction cs with
  | nil => rfl
  | cons c cs ih =>
    rw [strip, dropEndWhile_cons]
    by_cases hc : p c = true
    · rw [List.dropWhile_cons_of_pos hc, ← strip, ← ih]
      split
      next hnil => rw [hnil.1]
      next => rw [List.dropWhile_cons_of_pos hc]
    · rw [List.dropWhile_cons_of_neg hc, dropEndWhile_cons, if_neg fun h => hc h.2,
        List.dropWhile_cons_of_neg hc]

theorem dropWhile_append_of_all {front : List Char} (h : front.all p = true) :
    (front ++ cs).dropWhile p = cs.dropWhile p := by
  rw [List.dropWhile_append, dropWhile_eq_nil_iff.mpr h]
  rfl

theorem dropEndWhile_append_of_all {back : List Char} (h : back.all p = true) :
    dropEndWhile p (cs ++ back) = dropEndWhile p cs := by
  rw [dropEndWhile, List.reverse_append, dropWhile_append_of_all (by rwa [List.all_reverse])]
  rfl

/-- What is put around a text from the class is stripped with it. -/
theorem strip_append {front back : List Char} (hfront : front.all p = true)
    (hback : back.all p = true) : strip p (front ++ cs ++ back) = strip p cs := by
  rw [← dropWhile_dropEndWhile, dropEndWhile_append_of_all hback, dropWhile_dropEndWhile, strip,
    dropWhile_append_of_all hfront, ← strip]

theorem trim_append {front text back : String} (hfront : blank front = true)
    (hback : blank back = true) : trim (front ++ text ++ back) = trim text := by
  rw [trim, trim, String.toList_append, String.toList_append, strip_append hfront hback]

theorem map_dropEndWhile_split_concat {sep c : Char} (hsep : c ≠ sep) (hc : p c = true)
    (cs : List Char) :
    (split sep (cs ++ [c])).map (dropEndWhile p) = (split sep cs).map (dropEndWhile p) := by
  induction cs with
  | nil =>
    have hpiece : split sep [c] = [[c]] := split_of_not_mem (by simpa using hsep.symm)
    have hempty : split sep [] = [[]] := rfl
    rw [List.nil_append, hpiece, hempty]
    simp [dropEndWhile, hc]
  | cons first rest ih =>
    rw [List.cons_append]
    by_cases hfirst : first = sep
    · rw [hfirst, split_cons_self, split_cons_self, List.map_cons, List.map_cons, ih]
    · obtain ⟨piece, pieces, hpieces, hcons⟩ := exists_split_cons hfirst rest
      obtain ⟨piece', pieces', hpieces', hcons'⟩ := exists_split_cons hfirst (rest ++ [c])
      rw [hpieces, hpieces'] at ih
      obtain ⟨hpiece, hrest⟩ := List.cons.inj ih
      simp only [hcons, hcons', List.map_cons, dropEndWhile_cons, hpiece, hrest]

theorem map_strip_split_dropEndWhile {sep : Char} (hsep : p sep = false) (cs : List Char) :
    (split sep (dropEndWhile p cs)).map (strip p) = (split sep cs).map (strip p) := by
  have hends : ∀ cs, (split sep (dropEndWhile p cs)).map (dropEndWhile p) =
      (split sep cs).map (dropEndWhile p) := by
    intro cs
    -- The characters are cut one after another from the end.
    induction cs using List.reverseRecOn with
    | nil => rfl
    | append_singleton cs c ih =>
      by_cases hc : p c = true
      · have hne : c ≠ sep := by
          rintro rfl
          exact absurd hc (by simp [hsep])
        have hcut : dropEndWhile p (cs ++ [c]) = dropEndWhile p cs := by
          simp [dropEndWhile, hc]
        rw [hcut, ih, map_dropEndWhile_split_concat hne hc]
      · have hkeep : dropEndWhile p (cs ++ [c]) = cs ++ [c] := by simp [dropEndWhile, hc]
        rw [hkeep]
  have hstrip : ∀ pieces : List (List Char),
      pieces.map (strip p) = (pieces.map (dropEndWhile p)).map (List.dropWhile p) := by
    intro pieces
    rw [List.map_map]
    exact List.map_congr_left fun piece _ => (dropWhile_dropEndWhile piece).symm
  rw [hstrip, hends, ← hstrip]

theorem map_strip_split_dropWhile {sep : Char} (hsep : p sep = false) (cs : List Char) :
    (split sep (cs.dropWhile p)).map (strip p) = (split sep cs).map (strip p) := by
  induction cs with
  | nil => rfl
  | cons c cs ih =>
    by_cases hc : p c = true
    · have hne : c ≠ sep := by
        rintro rfl
        exact absurd hc (by simp [hsep])
      obtain ⟨piece, pieces, hpieces, hcons⟩ := exists_split_cons hne cs
      rw [List.dropWhile_cons_of_pos hc, ih, hpieces, hcons]
      simp [strip, hc]
    · rw [List.dropWhile_cons_of_neg hc]

/-- A text has the same stripped pieces as what is left of it after it is stripped. -/
theorem map_strip_split_strip {sep : Char} (hsep : p sep = false) (cs : List Char) :
    (split sep (strip p cs)).map (strip p) = (split sep cs).map (strip p) := by
  rw [strip, map_strip_split_dropEndWhile hsep, map_strip_split_dropWhile hsep]

end UploadGate.Text
