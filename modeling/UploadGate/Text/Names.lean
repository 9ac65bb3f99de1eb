/-! # Sets and tables of names

A set of names is kept as the strictly ascending list of its elements, so that two sets with the
same elements are equal, and writing a set out writes it sorted and without duplicates. A table
gives each of its names one value, in the same order. Names are compared code point by code point,
which is also the order of their UTF-8 bytes.
-/

namespace UploadGate

/-- A finite set of names. -/
structure NameSet where
  toList : List String
  ascending : toList.Pairwise (· < ·)
deriving DecidableEq

namespace NameSet

/-- Put a name at its place in an ascending list. -/
def place (name : String) : List String → List String
  | [] => [name]
  | other :: rest =>
    if name < other then name :: other :: rest
    else if name = other then other :: rest
    else other :: place name rest

theorem mem_place {name other : String} {names : List String} :
    other ∈ place name names ↔ other = name ∨ other ∈ names := by
  induction names with
  | nil => simp [place]
  | cons first rest ih =>
    unfold place
    split
    · simp
    · split
      next h => simp [h]
      next => simp only [List.mem_cons, ih]; grind

theorem pairwise_place {name : String} {names : List String} (h : names.Pairwise (· < ·)) :
    (place name names).Pairwise (· < ·) := by
  induction names with
  | nil => simp [place]
  | cons first rest ih =>
    obtain ⟨hfirst, hrest⟩ := List.pairwise_cons.mp h
    unfold place
    split
    next hlt =>
      refine List.pairwise_cons.mpr ⟨?_, h⟩
      intro other hother
      rcases List.mem_cons.mp hother with rfl | hother
      · exact hlt
      · exact String.lt_trans hlt (hfirst other hother)
    · split
      next => exact h
      next hlt hne =>
        refine List.pairwise_cons.mpr ⟨?_, ih hrest⟩
        intro other hother
        rcases mem_place.mp hother with rfl | hother
        · exact Std.lt_of_le_of_ne (String.not_lt.mp hlt) (Ne.symm hne)
        · exact hfirst other hother

def empty : NameSet := ⟨[], .nil⟩

instance : Inhabited NameSet := ⟨empty⟩
instance : EmptyCollection NameSet := ⟨empty⟩

def insert (name : String) (names : NameSet) : NameSet :=
  ⟨place name names.toList, pairwise_place names.ascending⟩

/-- The set of the elements of a list. -/
def ofList (names : List String) : NameSet := names.foldr insert ∅

instance : Membership String NameSet := ⟨fun names name => name ∈ names.toList⟩

instance (name : String) (names : NameSet) : Decidable (name ∈ names) :=
  inferInstanceAs (Decidable (name ∈ names.toList))

def isEmpty (names : NameSet) : Bool := names.toList.isEmpty

/-- The elements for which a test holds. -/
def filter (p : String → Bool) (names : NameSet) : NameSet :=
  ⟨names.toList.filter p, names.ascending.filter p⟩

def union (first second : NameSet) : NameSet := first.toList.foldr insert second

def inter (first second : NameSet) : NameSet := first.filter (· ∈ second)

instance : Union NameSet := ⟨union⟩
instance : Inter NameSet := ⟨inter⟩

theorem mem_def {name : String} {names : NameSet} : name ∈ names ↔ name ∈ names.toList := .rfl

@[simp] theorem not_mem_empty (name : String) : name ∉ (∅ : NameSet) := by
  simp [mem_def, EmptyCollection.emptyCollection, empty]

@[simp] theorem mem_insert {name other : String} {names : NameSet} :
    other ∈ names.insert name ↔ other = name ∨ other ∈ names := mem_place

@[simp] theorem mem_ofList {name : String} {names : List String} :
    name ∈ ofList names ↔ name ∈ names := by
  induction names with
  | nil => simp [ofList]
  | cons first rest ih =>
    have h : ofList (first :: rest) = (ofList rest).insert first := rfl
    simp [h, ih]

@[simp] theorem mem_filter {p : String → Bool} {name : String} {names : NameSet} :
    name ∈ names.filter p ↔ name ∈ names ∧ p name = true := List.mem_filter

@[simp] theorem mem_inter {name : String} {first second : NameSet} :
    name ∈ first ∩ second ↔ name ∈ first ∧ name ∈ second := by
  change name ∈ first.filter (· ∈ second) ↔ _
  simp

@[simp] theorem mem_union {name : String} {first second : NameSet} :
    name ∈ first ∪ second ↔ name ∈ first ∨ name ∈ second := by
  change name ∈ first.toList.foldr insert second ↔ name ∈ first.toList ∨ _
  induction first.toList with
  | nil => simp
  | cons head rest ih => simp [ih, or_assoc]

end NameSet

/-- A finite table that gives each of its names one value. -/
structure NameTable (α : Type) where
  entries : List (String × α)
  ascending : entries.Pairwise (·.1 < ·.1)

namespace NameTable

variable {α β : Type}

instance [DecidableEq α] : DecidableEq (NameTable α) := fun first second =>
  decidable_of_iff (first.entries = second.entries)
    ⟨fun h => by cases first; cases second; simp_all, fun h => h ▸ rfl⟩

/-- Give a name of an ascending list of entries a value, in place of the one that it has. -/
def place (name : String) (value : α) : List (String × α) → List (String × α)
  | [] => [(name, value)]
  | other :: rest =>
    if name < other.1 then (name, value) :: other :: rest
    else if name = other.1 then (name, value) :: rest
    else other :: place name value rest

theorem name_of_mem_place {name : String} {value : α} {entries : List (String × α)}
    {entry : String × α} (h : entry ∈ place name value entries) :
    entry = (name, value) ∨ entry ∈ entries := by
  induction entries with
  | nil => simpa [place] using h
  | cons first rest ih =>
    unfold place at h
    split at h
    · simpa using h
    · split at h
      next => rcases List.mem_cons.mp h with h | h <;> simp [h]
      next =>
        rcases List.mem_cons.mp h with h | h
        · simp [h]
        · rcases ih h with h | h <;> simp [h]

theorem pairwise_place {name : String} {value : α} {entries : List (String × α)}
    (h : entries.Pairwise (·.1 < ·.1)) : (place name value entries).Pairwise (·.1 < ·.1) := by
  induction entries with
  | nil => simp [place]
  | cons first rest ih =>
    obtain ⟨hfirst, hrest⟩ := List.pairwise_cons.mp h
    unfold place
    split
    next hlt =>
      refine List.pairwise_cons.mpr ⟨?_, h⟩
      intro other hother
      rcases List.mem_cons.mp hother with rfl | hother
      · exact hlt
      · exact String.lt_trans hlt (hfirst other hother)
    · split
      next heq =>
        exact List.pairwise_cons.mpr ⟨fun other hother => heq ▸ hfirst other hother, hrest⟩
      next hlt hne =>
        refine List.pairwise_cons.mpr ⟨?_, ih hrest⟩
        intro other hother
        rcases name_of_mem_place hother with rfl | hother
        · exact Std.lt_of_le_of_ne (String.not_lt.mp hlt) (Ne.symm hne)
        · exact hfirst other hother

def empty : NameTable α := ⟨[], .nil⟩

instance : Inhabited (NameTable α) := ⟨empty⟩
instance : EmptyCollection (NameTable α) := ⟨empty⟩

/-- Give a name a value, in place of the one that it has. -/
def insert (name : String) (value : α) (table : NameTable α) : NameTable α :=
  ⟨place name value table.entries, pairwise_place table.ascending⟩

/-- The value of a name. -/
def get? (table : NameTable α) (name : String) : Option α := table.entries.lookup name

/-- The table of a list of entries, of which the last for a name counts. -/
def ofList (entries : List (String × α)) : NameTable α :=
  entries.foldl (fun table entry => table.insert entry.1 entry.2) ∅

/-- Change the value of a name, which a name without value does not have. -/
def alter (name : String) (change : Option α → α) (table : NameTable α) : NameTable α :=
  table.insert name (change (table.get? name))

def names (table : NameTable α) : List String := table.entries.map (·.1)

def isEmpty (table : NameTable α) : Bool := table.entries.isEmpty

/-- Change every value. -/
def map (f : α → β) (table : NameTable α) : NameTable β where
  entries := table.entries.map fun entry => (entry.1, f entry.2)
  ascending := List.pairwise_map.mpr table.ascending

theorem lookup_cons_eq_ite (first : String × α) (rest : List (String × α)) (name : String) :
    (first :: rest).lookup name = if name = first.1 then some first.2 else rest.lookup name := by
  obtain ⟨key, value⟩ := first
  by_cases h : name = key
  · simp [h]
  · have hbeq : (name == key) = false := by simpa using h
    simp [List.lookup_cons, h, hbeq]

theorem lookup_place (name other : String) (value : α) (entries : List (String × α)) :
    (place name value entries).lookup other =
      if other = name then some value else entries.lookup other := by
  induction entries with
  | nil => simp [place, lookup_cons_eq_ite]
  | cons first rest ih =>
    unfold place
    split
    · simp [lookup_cons_eq_ite]
    · split
      next hname => subst hname; simp only [lookup_cons_eq_ite]; split <;> rfl
      next hne => simp only [lookup_cons_eq_ite, ih]; grind

@[simp] theorem get?_insert (table : NameTable α) (name other : String) (value : α) :
    (table.insert name value).get? other = if other = name then some value else table.get? other :=
  lookup_place name other value table.entries

@[simp] theorem get?_empty (name : String) : (∅ : NameTable α).get? name = none := rfl

end NameTable

end UploadGate
