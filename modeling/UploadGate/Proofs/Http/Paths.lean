import UploadGate.Http.Route

/-! # The paths of routes

Each route has one path, whose segments tell it from every other route. A path is known exactly if
it is the path of a route, where the name of a form is one segment that is not empty.
-/

namespace UploadGate

namespace Text

theorem intercalate_cons_eq_append_flatMap (sep : Char) (first : List Char)
    (rest : List (List Char)) :
    [sep].intercalate (first :: rest) = first ++ rest.flatMap (sep :: ·) := by
  induction rest generalizing first with
  | nil => simp
  | cons second rest ih =>
    rw [List.intercalate_cons_cons, ih, List.flatMap_cons, List.append_assoc]
    rfl

end Text

namespace Http.Route

variable {route : Route}

/-- The segments of the path of a route. -/
def segments : Route → List (List Char)
  | databases => ["api".toList, "upload".toList, "databases".toList]
  | forms => ["api".toList, "upload".toList, "forms".toList]
  | form name => ["api".toList, "upload".toList, "forms".toList, name]
  | validate name => ["api".toList, "upload".toList, "forms".toList, name, "validate".toList]
  | health => ["api".toList, "health".toList]
  | apiDocs => ["api-docs".toList, "openapi.json".toList]

/-- The path of a route, with a slash before each segment. -/
def path (route : Route) : List Char := route.segments.flatMap ('/' :: ·)

/-- The name of a form is a segment that is not empty. -/
def HasName : Route → Prop
  | form name | validate name => name ≠ [] ∧ '/' ∉ name
  | databases | forms | health | apiDocs => True

theorem ofSegments?_segments (h : route.HasName) : ofSegments? route.segments = some route := by
  cases route with
  | form name | validate name => simp [segments, ofSegments?, h.1]
  | databases | forms | health | apiDocs => rfl

theorem segments_of_ofSegments? {pieces : List (List Char)} (h : ofSegments? pieces = some route) :
    pieces = route.segments ∧ ∀ name, route = form name ∨ route = validate name → name ≠ [] := by
  revert h
  -- The cases of known segments, each with what was tested; in the others there is no route.
  fun_cases ofSegments? pieces <;> rintro ⟨⟩
  case case1 htest | case2 htest | case4 htest | case5 htest _ =>
    exact ⟨by rw [htest.1, htest.2]; rfl, by simp⟩
  case case8 name htest =>
    obtain ⟨rfl, rfl, rfl, hname⟩ := htest
    exact ⟨rfl, by simp [hname]⟩
  case case10 name _ htest =>
    obtain ⟨rfl, rfl, rfl, hname, rfl⟩ := htest
    exact ⟨rfl, by simp [hname]⟩

theorem slash_not_mem_segments (h : route.HasName) :
    ∀ segment ∈ route.segments, '/' ∉ segment := by
  cases route with
  | form name | validate name => simp [segments, h.2]
  | databases | forms | health | apiDocs => decide

/-- A path is known exactly if it is the path of a route. -/
theorem ofPath?_eq_some_iff {cs : List Char} :
    ofPath? cs = some route ↔ route.HasName ∧ cs = route.path := by
  constructor
  · intro h
    unfold ofPath? at h
    split at h
    next pieces hsplit =>
      obtain ⟨rfl, hname⟩ := segments_of_ofSegments? h
      have hjoin := Text.intercalate_split '/' cs
      rw [hsplit, Text.intercalate_cons_eq_append_flatMap, List.nil_append] at hjoin
      refine ⟨?_, hjoin.symm⟩
      -- What a path is cut into holds no slash.
      have hslash : ∀ segment ∈ route.segments, '/' ∉ segment := fun segment hsegment =>
        Text.not_mem_of_mem_split (hsplit ▸ List.mem_cons_of_mem _ hsegment)
      cases route with
      | form name => exact ⟨hname name (Or.inl rfl), hslash name (by simp [segments])⟩
      | validate name => exact ⟨hname name (Or.inr rfl), hslash name (by simp [segments])⟩
      | databases | forms | health | apiDocs => trivial
    next => exact absurd h (by simp)
  · rintro ⟨hname, rfl⟩
    have hpieces : ∀ piece ∈ [] :: route.segments, '/' ∉ piece :=
      List.forall_mem_cons.mpr ⟨List.not_mem_nil, slash_not_mem_segments hname⟩
    have hsplit : Text.split '/' route.path = [] :: route.segments := by
      rw [← Text.split_intercalate (by simp) hpieces, Text.intercalate_cons_eq_append_flatMap]
      rfl
    rw [ofPath?, hsplit]
    exact ofSegments?_segments hname

end Http.Route

end UploadGate
