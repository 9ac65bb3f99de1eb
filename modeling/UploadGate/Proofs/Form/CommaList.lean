import UploadGate.Proofs.Form.Cleaning

/-! # Lists between commas

The pieces of a text between commas carry a list of items: each item stands in a piece of its own,
in order and with any white space around it, and any number of blank pieces stand between them. The
pieces of every text carry exactly one list, and that is what a field reads from it; null stands for
the list without items. Joined by commas, the items are read again as they are.
-/

namespace UploadGate.Form

/-- Pieces between commas carry a list of items: each item stands in a piece of its own, with any
white space around it, and all other pieces are blank. -/
inductive Carries : List String → List String → Prop
  | nothing : Carries [] []
  | blank {piece : String} {pieces items : List String} (hblank : Text.blank piece = true)
    (hrest : Carries pieces items) : Carries (piece :: pieces) items
  | item {front item back : String} {pieces items : List String} (hitem : IsItem item)
    (hfront : Text.blank front = true) (hback : Text.blank back = true)
    (hrest : Carries pieces items) : Carries ((front ++ item ++ back) :: pieces) (item :: items)

/-- The items of a list; any other value has none. -/
def Value.items : Value → List String
  | .list items => items
  | _ => []

@[simp] theorem Value.items_ofItems (items : List String) : (ofItems items).items = items := by
  cases items <;> rfl

/-! ## Pieces -/

variable {pieces items : List String} {text : String}

namespace Carries

theorem comma_not_mem (h : Carries pieces items) : ∀ piece ∈ pieces, ',' ∉ piece.toList := by
  have hcomma : Text.isBlank ',' = false := by decide
  induction h with
  | nothing => simp
  | blank hblank _ ih => exact List.forall_mem_cons.mpr ⟨Text.not_mem_of_blank hcomma hblank, ih⟩
  | item hitem hfront hback _ ih =>
    refine List.forall_mem_cons.mpr ⟨?_, ih⟩
    simp [Text.not_mem_of_blank hcomma hfront, hitem.comma, Text.not_mem_of_blank hcomma hback]

theorem filter_trim (h : Carries pieces items) :
    (pieces.map Text.trim).filter (· ≠ "") = items := by
  induction h with
  | nothing => rfl
  | blank hblank _ ih =>
    have htrim := Text.blank_iff_trim_eq_empty.mp hblank
    rw [List.map_cons, htrim, List.filter_cons_of_neg (by simp), ih]
  | item hitem hfront hback _ ih =>
    have htrim := (Text.trim_append hfront hback).trans hitem.trimmed
    rw [List.map_cons, htrim, List.filter_cons_of_pos (by simpa using hitem.nonempty), ih]

/-- Every list of pieces without comma carries some items. -/
theorem of_comma_not_mem (h : ∀ piece ∈ pieces, ',' ∉ piece.toList) :
    Carries pieces ((pieces.map Text.trim).filter (· ≠ "")) := by
  induction pieces with
  | nil => exact .nothing
  | cons piece pieces ih =>
    obtain ⟨hpiece, hpieces⟩ := List.forall_mem_cons.mp h
    rw [List.map_cons]
    by_cases hblank : Text.trim piece = ""
    · rw [List.filter_cons_of_neg (by simpa using hblank)]
      exact .blank (Text.blank_iff_trim_eq_empty.mpr hblank) (ih hpieces)
    · rw [List.filter_cons_of_pos (by simpa using hblank)]
      obtain ⟨front, back, hpadded, hfront, hback⟩ := Text.exists_append_trim piece
      have hcarries := Carries.item (isItem_trim hpiece hblank) hfront hback (ih hpieces)
      rwa [← hpadded] at hcarries

/-- Items carry themselves. -/
theorem of_isItem (h : ∀ item ∈ items, IsItem item) : Carries items items := by
  induction items with
  | nil => exact .nothing
  | cons item items ih =>
    obtain ⟨hitem, hitems⟩ := List.forall_mem_cons.mp h
    have hcarries : Carries (("" ++ item ++ "") :: items) (item :: items) :=
      .item hitem rfl rfl (ih hitems)
    simpa using hcarries

end Carries

/-! ## Texts -/

theorem commaItems_intercalate (h : ∀ piece ∈ pieces, ',' ∉ piece.toList) :
    commaItems (",".intercalate pieces) = (pieces.map Text.trim).filter (· ≠ "") := by
  cases pieces with
  | nil => rfl
  | cons first rest =>
    have hsplit : Text.split ',' (",".intercalate (first :: rest)).toList =
        (first :: rest).map String.toList := by
      rw [String.toList_intercalate]
      exact Text.split_intercalate (by simp) (by simpa using h)
    rw [commaItems, hsplit, List.map_map]
    rfl

/-- The items of a text are those that its pieces carry. -/
theorem commaItems_eq_iff :
    commaItems text = items ↔ ∃ pieces, Carries pieces items ∧ ",".intercalate pieces = text := by
  constructor
  · rintro rfl
    let pieces := (Text.split ',' text.toList).map String.ofList
    have hcomma : ∀ piece ∈ pieces, ',' ∉ piece.toList := by
      simpa [pieces] using fun piece hpiece => Text.not_mem_of_mem_split hpiece
    have hjoined : ",".intercalate pieces = text := by
      rw [← String.toList_inj, String.toList_intercalate]
      simpa [pieces, Function.comp_def] using Text.intercalate_split ',' text.toList
    refine ⟨pieces, ?_, hjoined⟩
    have hcarries := Carries.of_comma_not_mem hcomma
    rwa [← commaItems_intercalate hcomma, hjoined] at hcarries
  · rintro ⟨pieces, hcarries, rfl⟩
    rw [commaItems_intercalate hcarries.comma_not_mem, hcarries.filter_trim]

theorem commaItems_intercalate_commaItems (text : String) :
    commaItems (",".intercalate (commaItems text)) = commaItems text :=
  commaItems_eq_iff.mpr
    ⟨commaItems text, .of_isItem fun _ hitem => isItem_of_mem_commaItems hitem, rfl⟩

namespace Field

/-- A field reads exactly the list that the pieces of its text carry, and what it has read is read
again from its items joined by commas. -/
theorem read_commaList_iff_carries_and_rereads (field : Field) (databases : List Choice) :
    (∀ text value, field.read .commaList databases text = .ok value ↔
      ∃ pieces items, Carries pieces items ∧ ",".intercalate pieces = text ∧
        value = .ofItems items) ∧
    ∀ text, ∃ value, field.read .commaList databases text = .ok value ∧
      field.read .commaList databases (",".intercalate value.items) = .ok value := by
  refine ⟨fun text value => ?_, fun text => ?_⟩
  · rw [read_commaList, Except.ok.injEq]
    constructor
    · rintro rfl
      obtain ⟨pieces, hcarries, hjoined⟩ := commaItems_eq_iff.mp (Eq.refl (commaItems text))
      exact ⟨pieces, _, hcarries, hjoined, rfl⟩
    · rintro ⟨pieces, items, hcarries, hjoined, rfl⟩
      rw [commaItems_eq_iff.mpr ⟨pieces, hcarries, hjoined⟩]
  · refine ⟨.ofItems (commaItems text), read_commaList field databases text, ?_⟩
    rw [read_commaList, Value.items_ofItems, commaItems_intercalate_commaItems]

example (field : Field) (databases : List Choice) :
    field.read .commaList databases ", day,,first month\u3000,\u2028,day" =
      .ok (.list ["day", "first month", "day"]) := by
  rfl

end Field

end UploadGate.Form
