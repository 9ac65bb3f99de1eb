import UploadGate.Proofs.Text.Tables
import UploadGate.Settings.EnvFile

/-! # Where the loading of an environment file stops

Loading a file carries out its definitions one after another. It stops at the first one that no
environment can hold, unless a variable of that name is set by then: by the environment that the
loading began with, or by an earlier definition. A file without such a definition is loaded to its
end.
-/

namespace UploadGate.EnvFile

variable {environment : Environment} {definitions : List Definition} {definition : Definition}

theorem settable_eq_false_iff :
    definition.settable = false ↔
      definition.name = "" ∨ '\x00' ∈ definition.name.toList ∨
        '\x00' ∈ definition.value.toList := by
  simp only [Definition.settable, Bool.and_eq_false_iff, Bool.not_eq_false', List.contains_iff_mem,
    decide_eq_false_iff_not, ne_eq, not_not, or_assoc]

/-- A definition that cannot be carried out, behind others of other names. -/
structure BlockedAt (environment : Environment) (front : List Definition)
    (definition : Definition) : Prop where
  unusable : definition.name = "" ∨ '\x00' ∈ definition.name.toList ∨
    '\x00' ∈ definition.value.toList
  unset : environment.get? definition.name = none
  first : ∀ earlier ∈ front, earlier.name ≠ definition.name

/-- Some of the definitions, with others in front of it, cannot be carried out. -/
def Blocked (environment : Environment) (definitions : List Definition) : Prop :=
  ∃ front definition back, definitions = front ++ definition :: back ∧
    BlockedAt environment front definition

/-- The first of some definitions is the one at which they are blocked, or it is among those in
front of that one. -/
theorem blocked_cons_iff :
    Blocked environment (definition :: definitions) ↔
      BlockedAt environment [] definition ∨
        ∃ front blocking back, definitions = front ++ blocking :: back ∧
          BlockedAt environment (definition :: front) blocking := by
  constructor
  · rintro ⟨front, blocking, back, hsplit, hblocked⟩
    cases front with
    | nil =>
      obtain ⟨rfl, -⟩ := List.cons.inj hsplit
      exact Or.inl hblocked
    | cons first front =>
      obtain ⟨rfl, hrest⟩ := List.cons.inj hsplit
      exact Or.inr ⟨front, blocking, back, hrest, hblocked⟩
  · rintro (hblocked | ⟨front, blocking, back, rfl, hblocked⟩)
    · exact ⟨[], definition, definitions, rfl, hblocked⟩
    · exact ⟨definition :: front, blocking, back, rfl, hblocked⟩

/-- A definition for a variable that is set has no effect on the later ones. -/
theorem blocked_cons_of_set (hset : (environment.get? definition.name).isSome = true) :
    Blocked environment (definition :: definitions) ↔ Blocked environment definitions := by
  rw [blocked_cons_iff]
  constructor
  · rintro (hblocked | ⟨front, blocking, back, hsplit, hblocked⟩)
    · rw [hblocked.unset] at hset
      exact absurd hset (by simp)
    · refine ⟨front, blocking, back, hsplit, hblocked.unusable, hblocked.unset, ?_⟩
      exact (List.forall_mem_cons.mp hblocked.first).2
  · rintro ⟨front, blocking, back, hsplit, hblocked⟩
    have hne : definition.name ≠ blocking.name := by
      intro hsame
      rw [hsame, hblocked.unset] at hset
      exact absurd hset (by simp)
    refine Or.inr ⟨front, blocking, back, hsplit, hblocked.unusable, hblocked.unset, ?_⟩
    exact List.forall_mem_cons.mpr ⟨hne, hblocked.first⟩

/-- A definition that is carried out keeps later ones of its name from being looked at. -/
theorem blocked_cons_of_settable (hsettable : definition.settable = true) :
    Blocked environment (definition :: definitions) ↔
      Blocked (environment.insert definition.name definition.value) definitions := by
  rw [blocked_cons_iff]
  constructor
  · rintro (hblocked | ⟨front, blocking, back, hsplit, hblocked⟩)
    · have hunusable := settable_eq_false_iff.mpr hblocked.unusable
      rw [hsettable] at hunusable
      exact absurd hunusable (by simp)
    · obtain ⟨hne, hfirst⟩ := List.forall_mem_cons.mp hblocked.first
      refine ⟨front, blocking, back, hsplit, hblocked.unusable, ?_, hfirst⟩
      rw [NameTable.get?_insert, if_neg (Ne.symm hne)]
      exact hblocked.unset
  · rintro ⟨front, blocking, back, hsplit, hblocked⟩
    have hunset := hblocked.unset
    rw [NameTable.get?_insert] at hunset
    split at hunset
    next => exact absurd hunset (by simp)
    next hne =>
      refine Or.inr ⟨front, blocking, back, hsplit, hblocked.unusable, hunset, ?_⟩
      exact List.forall_mem_cons.mpr ⟨Ne.symm hne, hblocked.first⟩

theorem stopped_apply_iff :
    (apply environment definitions).stopped = true ↔ Blocked environment definitions := by
  induction definitions generalizing environment with
  | nil => simp [apply, Blocked]
  | cons first rest ih =>
    rw [apply]
    split
    next hset => rw [ih, blocked_cons_of_set hset]
    next hunset =>
      split
      next hsettable => rw [ih, blocked_cons_of_settable hsettable]
      next hunusable =>
        have hblocked : BlockedAt environment [] first :=
          ⟨settable_eq_false_iff.mp (by simpa using hunusable), by simpa using hunset, by simp⟩
        simp [blocked_cons_iff, hblocked]

/-- Loading a file stops exactly if it holds a definition with an empty name, or with a NUL in its
name or value, for a variable that neither the environment nor an earlier definition of the file
has set. A file that is missing is nothing to stop at. -/
theorem stopped_load_iff_blocked (environment : Environment) (content : Option String) :
    (load environment content).stopped = true ↔
      ∃ text, content = some text ∧ ∃ front definition back,
        EnvFile.definitions text = front ++ definition :: back ∧
          BlockedAt environment front definition := by
  rw [load, stopped_apply_iff]
  cases content with
  | none => simp [Blocked]
  | some text => simp [Blocked]

/-- Loading does not reach the end of every file: a line with nothing before its equals sign stops
it. -/
theorem nameless_definition_stops_loading :
    ¬ ∀ (environment : Environment) (content : Option String),
      (load environment content).stopped = false := by
  intro hreaches
  have hstopped : (load ∅ (some "=novalue\n")).stopped = true := by decide +kernel
  rw [hreaches] at hstopped
  exact absurd hstopped (by simp)

end UploadGate.EnvFile
