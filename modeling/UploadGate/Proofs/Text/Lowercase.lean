import Mathlib.Data.List.Basic
import UploadGate.Text.Blank
import UploadGate.Text.Lowercase

/-! # Texts in lower case

The lower-case form of a text is made of characters that are their own lower-case form in every
context, so that it, and every part of it, is in lower case already. For the case table this says
that no run of characters leads into a run. White space, dots and commas have no case: none is
dropped from a text or put into one by its lower-case form, nor comes to stand at an end.
-/

namespace UploadGate.Text

/-! ## The case table -/

namespace CaseRun

variable {run other : CaseRun} {code : Nat}

/-- The run of the lower-case forms. -/
def image (run : CaseRun) : CaseRun :=
  ⟨(run.first + run.shift).toNat, (run.last + run.shift).toNat, run.step, -run.shift⟩

/-- Two runs share no character: one ends before the other starts, or the characters of the one
stand between those of the other, of which every second one counts. -/
def isApart (run other : CaseRun) : Bool :=
  Nat.blt run.last other.first || (Nat.blt other.last run.first ||
    (other.step == 2 && (run.step == 2 || run.first == run.last) &&
      (run.first + other.first) % 2 == 1))

theorem covers_iff :
    run.covers code = true ↔
      run.first ≤ code ∧ code ≤ run.last ∧ (code - run.first) % run.step = 0 := by
  simp [covers, and_assoc]

theorem isApart_iff :
    run.isApart other = true ↔ run.last < other.first ∨ other.last < run.first ∨
      (other.step = 2 ∧ (run.step = 2 ∨ run.first = run.last)) ∧
        (run.first + other.first) % 2 = 1 := by
  simp only [isApart, Bool.or_eq_true, Bool.and_eq_true, beq_iff_eq, Nat.blt_eq]

theorem covers_eq_false_of_isApart (h : run.isApart other = true)
    (hcode : run.covers code = true) : other.covers code = false := by
  obtain ⟨hfirst, hlast, hstep⟩ := covers_iff.mp hcode
  rw [Bool.eq_false_iff]
  intro hcovers
  obtain ⟨hfirst', hlast', hstep'⟩ := covers_iff.mp hcovers
  rcases isApart_iff.mp h with hbefore | hafter | ⟨⟨hother, hrun⟩, hodd⟩
  · omega
  · omega
  · -- Both distances would have to be even.
    rw [hother] at hstep'
    rcases hrun with hrun | hsingle
    · rw [hrun] at hstep
      omega
    · omega

theorem covers_image (h : run.covers code = true) (hshift : 0 ≤ run.first + run.shift) :
    run.image.covers (code + run.shift).toNat = true := by
  obtain ⟨hfirst, hlast, hstep⟩ := covers_iff.mp h
  have hdistance : (code + run.shift).toNat - (run.first + run.shift).toNat = code - run.first := by
    omega
  refine covers_iff.mpr ⟨?_, ?_, ?_⟩
  · simp only [image]
    omega
  · simp only [image]
    omega
  · simp only [image, hdistance, hstep]

end CaseRun

theorem image_isApart : ∀ run ∈ lowerRuns, ∀ other ∈ lowerRuns, run.image.isApart other = true := by
  have hall : (lowerRuns.all fun run => lowerRuns.all fun other => run.image.isApart other) =
      true := by decide +kernel
  simpa only [List.all_eq_true] using hall

/-- No run leads to the capital I with a dot, which no run holds either. -/
theorem image_isApart_dotted : ∀ run ∈ lowerRuns,
    run.image.isApart ⟨0x130, 0x130, 1, 0⟩ = true ∧ 0 ≤ run.first + run.shift := by
  decide +kernel

/-! ## Characters -/

/-- A character that is its own lower-case form in every context. -/
def IsLower (c : Char) : Prop := c ≠ 'Σ' ∧ lowerChar c = [c]

instance (c : Char) : Decidable (IsLower c) := inferInstanceAs (Decidable (_ ∧ _))

theorem isLower_of_not_covered {c : Char} (hdotted : c ≠ '\u0130')
    (h : ∀ run ∈ lowerRuns, run.covers c.toNat = false) : IsLower c := by
  refine ⟨?_, ?_⟩
  · rintro rfl
    have hrun : (⟨0x3A3, 0x3AB, 1, 32⟩ : CaseRun) ∈ lowerRuns := by decide +kernel
    exact absurd (h _ hrun) (by decide)
  · have hnone : lowerRuns.find? (·.covers c.toNat) = none := by
      simpa [List.find?_eq_none] using h
    rw [lowerChar, if_neg hdotted, hnone]

/-- The characters of lower-case forms that come from no run. -/
def others : List Char := ['i', '\u0307', 'ς', 'σ', '\x00']

theorem isLower_of_mem_others {c : Char} (h : c ∈ others) : IsLower c := by
  have hall : (others.all fun c =>
      c != '\u0130' && lowerRuns.all fun run => !run.covers c.toNat) = true := by decide +kernel
  have hc := List.all_eq_true.mp hall c h
  simp only [Bool.and_eq_true, bne_iff_ne, List.all_eq_true, Bool.not_eq_true'] at hc
  exact isLower_of_not_covered hc.1 hc.2

/-- A character of a lower-case form is the character itself if no run holds it, or comes from no
run, or stands where a run leads to. -/
theorem cases_of_mem_lowerChar {c d : Char} (h : d ∈ lowerChar c) :
    (d = c ∧ c ≠ '\u0130' ∧ ∀ run ∈ lowerRuns, run.covers c.toNat = false) ∨ d ∈ others ∨
      ∃ run ∈ lowerRuns, run.image.covers d.toNat = true := by
  unfold lowerChar at h
  split at h
  next =>
    have hsubset : ['i', '\u0307'] ⊆ others := by simp [others]
    exact .inr (.inl (hsubset h))
  next hdotted =>
    split at h
    next run hrun =>
      obtain rfl := List.mem_singleton.mp h
      have hmem := List.mem_of_find?_eq_some hrun
      have hcovers : run.covers c.toNat = true := by simpa using List.find?_some hrun
      by_cases hvalid : (c.toNat + run.shift).toNat.isValidChar
      · have hcode : (Char.ofNat (c.toNat + run.shift).toNat).toNat =
            (c.toNat + run.shift).toNat := by
          rw [Char.ofNat, dif_pos hvalid]
          rfl
        refine .inr (.inr ⟨run, hmem, ?_⟩)
        rw [hcode]
        exact CaseRun.covers_image hcovers (image_isApart_dotted run hmem).2
      · have hnul : Char.ofNat (c.toNat + run.shift).toNat = '\x00' := dif_neg hvalid
        rw [hnul]
        exact .inr (.inl (by simp [others]))
    next hnone =>
      obtain rfl := List.mem_singleton.mp h
      exact .inl ⟨rfl, hdotted, by simpa [List.find?_eq_none] using hnone⟩

theorem lowerChar_ne_nil (c : Char) : lowerChar c ≠ [] := by
  unfold lowerChar
  split
  · exact List.cons_ne_nil _ _
  · split <;> exact List.cons_ne_nil _ _

/-- The lower-case form of a character is in lower case. -/
theorem isLower_of_mem_lowerChar {c d : Char} (h : d ∈ lowerChar c) : IsLower d := by
  rcases cases_of_mem_lowerChar h with ⟨rfl, hdotted, hnone⟩ | hother | ⟨run, hrun, himage⟩
  · exact isLower_of_not_covered hdotted hnone
  · exact isLower_of_mem_others hother
  · refine isLower_of_not_covered ?_ fun other hother => ?_
    · rintro rfl
      exact absurd (CaseRun.covers_eq_false_of_isApart (image_isApart_dotted run hrun).1 himage)
        (by decide)
    · exact CaseRun.covers_eq_false_of_isApart (image_isApart run hrun other hother) himage

/-- A character that is its own lower-case form and part of no other. -/
structure IsCaseless (c : Char) : Prop where
  lowerChar_self : lowerChar c = [c]
  eq_of_mem : ∀ d, c ∈ lowerChar d → d = c
  ne_sigma : c ∉ ['Σ', 'σ', 'ς']

/-- Nothing in the case table holds or leads to white space, a comma or a dot. -/
theorem separators_isApart : ∀ c ∈ ',' :: '.' :: blanks, c ∉ 'Σ' :: '\u0130' :: others ∧
    ∀ run ∈ lowerRuns, run.covers c.toNat = false ∧
      run.image.isApart ⟨c.toNat, c.toNat, 1, 0⟩ = true := by
  -- A quantifier over characters would be decided for all of them.
  have hall : ((',' :: '.' :: blanks).all fun c => !('Σ' :: '\u0130' :: others).contains c &&
      lowerRuns.all fun run =>
        !run.covers c.toNat && run.image.isApart ⟨c.toNat, c.toNat, 1, 0⟩) = true := by
    decide +kernel
  simpa only [List.all_eq_true, Bool.and_eq_true, Bool.not_eq_true', List.contains_eq_mem,
    decide_eq_false_iff_not] using hall

/-- White space, commas and dots have no case. -/
theorem isCaseless_of_mem {c : Char} (h : c ∈ ',' :: '.' :: blanks) : IsCaseless c := by
  obtain ⟨hspecial, hruns⟩ := separators_isApart c h
  obtain ⟨hsigma, hdotted, hothers⟩ : c ≠ 'Σ' ∧ c ≠ '\u0130' ∧ c ∉ others := by
    simpa only [List.mem_cons, not_or] using hspecial
  have hsigmas : ['σ', 'ς'] ⊆ others := by simp [others]
  refine ⟨(isLower_of_not_covered hdotted fun run hrun => (hruns run hrun).1).2, ?_, ?_⟩
  · intro d hd
    rcases cases_of_mem_lowerChar hd with ⟨hsame, -⟩ | hother | ⟨run, hrun, himage⟩
    · exact hsame.symm
    · exact absurd hother hothers
    · have hself : CaseRun.covers ⟨c.toNat, c.toNat, 1, 0⟩ c.toNat = true :=
        CaseRun.covers_iff.mpr ⟨Nat.le_refl _, Nat.le_refl _, Nat.mod_one _⟩
      rw [CaseRun.covers_eq_false_of_isApart (hruns run hrun).2 himage] at hself
      exact absurd hself (by decide)
  · exact List.not_mem_cons_of_ne_of_not_mem hsigma fun hmem => hothers (hsigmas hmem)

theorem isCaseless_of_isBlank {c : Char} (h : isBlank c = true) : IsCaseless c := by
  have hblanks : c ∈ blanks := by simpa [isBlank] using h
  exact isCaseless_of_mem (List.mem_cons_of_mem _ (List.mem_cons_of_mem _ hblanks))

theorem isCaseless_dot : IsCaseless '.' := isCaseless_of_mem (by simp)

theorem isCaseless_comma : IsCaseless ',' := isCaseless_of_mem (by simp)

/-! ## Texts -/

theorem isLower_of_mem_lowerAfter {earlier cs : List Char} {c : Char}
    (h : c ∈ lowerAfter earlier cs) : IsLower c := by
  induction cs generalizing earlier with
  | nil => exact absurd h List.not_mem_nil
  | cons first later ih =>
    rw [lowerAfter] at h
    rcases List.mem_append.mp h with h | h
    · split at h
      next =>
        apply isLower_of_mem_others
        split at h <;> simp [List.mem_singleton.mp h, others]
      next => exact isLower_of_mem_lowerChar h
    · exact ih h

/-- The first character of a text makes the front of the lower-case form, in which characters
without case are where they were. -/
theorem exists_lowerAfter_cons (earlier : List Char) (first : Char) (later : List Char) :
    ∃ form, lowerAfter earlier (first :: later) = form ++ lowerAfter (first :: earlier) later ∧
      form ≠ [] ∧ (∀ c ∈ form, IsCaseless c → first = c) ∧ (IsCaseless first → form = [first]) := by
  refine ⟨_, by rw [lowerAfter], ?_⟩
  by_cases hsigma : first = 'Σ'
  · rw [if_pos hsigma]
    refine ⟨List.cons_ne_nil _ _, fun c hc hcaseless => ?_, fun hcaseless => ?_⟩
    · have hform := List.mem_singleton.mp hc
      refine absurd ?_ hcaseless.ne_sigma
      split at hform <;> simp [hform]
    · exact absurd (by simp [hsigma]) hcaseless.ne_sigma
  · rw [if_neg hsigma]
    exact ⟨lowerChar_ne_nil first, fun c hc hcaseless => hcaseless.eq_of_mem first hc,
      fun hcaseless => hcaseless.lowerChar_self⟩

theorem lowerAfter_eq_nil_iff {earlier cs : List Char} : lowerAfter earlier cs = [] ↔ cs = [] := by
  cases cs with
  | nil => exact ⟨fun _ => rfl, fun _ => rfl⟩
  | cons first later =>
    obtain ⟨form, hform, hne, -⟩ := exists_lowerAfter_cons earlier first later
    simp [hform, hne]

theorem mem_of_mem_lowerAfter {earlier cs : List Char} {c : Char} (hcaseless : IsCaseless c)
    (h : c ∈ lowerAfter earlier cs) : c ∈ cs := by
  induction cs generalizing earlier with
  | nil => exact absurd h List.not_mem_nil
  | cons first later ih =>
    obtain ⟨form, hform, -, hfirst, -⟩ := exists_lowerAfter_cons earlier first later
    rw [hform, List.mem_append] at h
    rcases h with h | h
    · exact List.mem_cons.mpr (.inl (hfirst c h hcaseless).symm)
    · exact List.mem_cons_of_mem _ (ih h)

theorem head?_lowerAfter_eq_some_iff {earlier cs : List Char} {c : Char}
    (hcaseless : IsCaseless c) :
    (lowerAfter earlier cs).head? = some c ↔ cs.head? = some c := by
  cases cs with
  | nil => rfl
  | cons first later =>
    obtain ⟨form, hform, hne, hfirst, hself⟩ := exists_lowerAfter_cons earlier first later
    rw [hform, List.head?_append_of_ne_nil _ hne, List.head?_cons, Option.some_inj]
    constructor
    · intro h
      exact hfirst c (List.mem_of_mem_head? h) hcaseless
    · rintro rfl
      rw [hself hcaseless]
      rfl

theorem getLast?_of_getLast?_lowerAfter {earlier cs : List Char} {c : Char}
    (hcaseless : IsCaseless c) (h : (lowerAfter earlier cs).getLast? = some c) :
    cs.getLast? = some c := by
  induction cs generalizing earlier with
  | nil => exact h
  | cons first later ih =>
    obtain ⟨form, hform, -, hfirst, -⟩ := exists_lowerAfter_cons earlier first later
    rw [hform, List.getLast?_append, Option.or_eq_some_iff] at h
    rcases h with h | ⟨hnone, h⟩
    · rw [List.getLast?_cons, ih h]
      rfl
    · obtain rfl := hfirst c (List.mem_of_getLast? h) hcaseless
      rw [lowerAfter_eq_nil_iff.mp (List.getLast?_eq_none_iff.mp hnone)]
      rfl

theorem lowerAfter_of_isLower {earlier cs : List Char} (h : ∀ c ∈ cs, IsLower c) :
    lowerAfter earlier cs = cs := by
  induction cs generalizing earlier with
  | nil => rfl
  | cons first later ih =>
    obtain ⟨hfirst, hlater⟩ := List.forall_mem_cons.mp h
    rw [lowerAfter, if_neg hfirst.1, hfirst.2, ih hlater]
    rfl

theorem toList_lower (s : String) : (lower s).toList = lowerAfter [] s.toList :=
  String.toList_ofList

/-- Every part of a text in lower case is in lower case. -/
theorem lower_of_subset {part s : String} (h : part.toList ⊆ (lower s).toList) :
    lower part = part := by
  have hlower : ∀ c ∈ part.toList, IsLower c := by
    intro c hc
    have hmem := h hc
    rw [toList_lower] at hmem
    exact isLower_of_mem_lowerAfter hmem
  rw [lower, lowerAfter_of_isLower hlower, String.ofList_toList]

theorem lower_lower (s : String) : lower (lower s) = lower s :=
  lower_of_subset fun _ h => h

end UploadGate.Text
