import UploadGate.Proofs.Number.Denotation
import UploadGate.Reply.Timestamp

/-! # Points in time are read back

The text of a point in time is read back as the same point in time, for every one that the calendar
and the clock have. No other point in time is read from any text, whatever its offset.
-/

namespace UploadGate.Timestamp

open UploadGate.Numeral (IsRun padded value isRun_padded length_padded value_lt_pow value_padded)

/-- The calendar has the day, and the clock the time of day. Second 60 is a leap second. -/
structure IsValid (time : Timestamp) : Prop where
  firstYear_le : firstYear ≤ time.year
  le_lastYear : time.year ≤ lastYear
  month_pos : 1 ≤ time.month
  month_le : time.month ≤ 12
  day_pos : 1 ≤ time.day
  day_le : time.day ≤ daysInMonth time.year time.month
  hour_le : time.hour ≤ 23
  minute_le : time.minute ≤ 59
  second_le : time.second ≤ 60
  nanosecond_lt : time.nanosecond < 1000000000

theorem daysInMonth_le (year : Int) (month : Nat) : daysInMonth year month ≤ 31 := by
  unfold daysInMonth
  split_ifs <;> omega

/-! ## Parts -/

variable {run rest : List Char}

theorem skipBlanks_cons {c : Char} (h : Text.isBlank c = false) :
    skipBlanks (c :: rest) = c :: rest := by
  rw [skipBlanks, List.dropWhile_cons_of_neg (by simp [h])]

theorem mark_cons {c : Char} (h : Text.isBlank c = false) : mark c (c :: rest) = some rest := by
  rw [mark, skipBlanks_cons h]
  exact if_pos rfl

/-- A run of digits begins with a digit, which is no white space. -/
theorem skipBlanks_run (h : IsRun run) : skipBlanks (run ++ rest) = run ++ rest := by
  obtain ⟨first, later, rfl⟩ := List.exists_cons_of_ne_nil h.1
  exact skipBlanks_cons (h.not_isBlank first List.mem_cons_self)

/-- A run of digits begins with no other character. -/
theorem run_append_ne_cons {c : Char} {others : List Char} (h : IsRun run)
    (hc : c.isDigit = false) : run ++ rest ≠ c :: others := by
  obtain ⟨first, later, rfl⟩ := List.exists_cons_of_ne_nil h.1
  intro hsame
  have hfirst := h.2 first List.mem_cons_self
  rw [(List.cons.inj hsame).1, hc] at hfirst
  exact Bool.false_ne_true hfirst

/-- A run of digits is read whole if the limit lets it, and stops there if what is left of the limit
shows no digit. -/
theorem digits_append {limit : Nat} (hrun : IsRun run) (hlength : run.length ≤ limit)
    (hstop : (rest.take (limit - run.length)).takeWhile Char.isDigit = []) :
    digits limit (run ++ rest) = some (value run, rest) := by
  have htaken : ((run ++ rest).take limit).takeWhile Char.isDigit = run := by
    rw [List.take_append, List.take_of_length_le hlength, List.takeWhile_append_of_pos hrun.2,
      hstop, List.append_nil]
  rw [digits, htaken]
  simp [hrun.1]

theorem digits_padded {width n : Nat} (h : n < Nat.pow 10 width) (hwidth : 0 < width) :
    digits width (padded width n ++ rest) = some (n, rest) := by
  have hlength := length_padded h hwidth
  rw [digits_append (isRun_padded width n) (by omega) (by simp [hlength]), value_padded]

theorem part_padded {min max n : Nat} (hmin : min ≤ n) (hmax : n ≤ max) (hlimit : max < 100) :
    part min max (padded 2 n ++ rest) = some (n, rest) := by
  have hwidth : n < Nat.pow 10 2 := hmax.trans_lt hlimit
  rw [part, skipBlanks_run (isRun_padded 2 n), digits_padded hwidth (by decide)]
  simp [Option.filter, hmin, hmax]

/-- What is no digit ends a run of digits under every limit. -/
theorem takeWhile_take_cons {c : Char} (h : c.isDigit = false) (limit : Nat) :
    ((c :: rest).take limit).takeWhile Char.isDigit = [] := by
  cases limit with
  | zero => rfl
  | succ limit => rw [List.take_succ_cons, List.takeWhile_cons_of_neg (by simp [h])]

/-- A signed year is read up to the mark behind it. -/
theorem digits_signed (n : Nat) :
    digits (padded 4 n ++ '-' :: rest).length (padded 4 n ++ '-' :: rest) =
      some (n, '-' :: rest) := by
  have hstop : ∀ limit, (('-' :: rest).take limit).takeWhile Char.isDigit = [] :=
    takeWhile_take_cons (by decide)
  rw [digits_append (isRun_padded 4 n) (by simp) (hstop _), value_padded]

theorem readYear_yearText {year : Int} (hfirst : firstYear ≤ year) (hlast : year ≤ lastYear) :
    readYear (yearText year ++ '-' :: rest) = some (year, '-' :: rest) := by
  unfold yearText
  split_ifs with hshort hnegative
  · have hdigits : digits 4 (padded 4 year.toNat ++ '-' :: rest) =
        some (year.toNat, '-' :: rest) :=
      digits_padded (show year.toNat < 10000 by omega) (by decide)
    have hyear : (year.toNat : Int) = year := by omega
    rw [readYear, skipBlanks_run (isRun_padded 4 year.toNat)]
    dsimp only
    split
    next hsign => exact absurd hsign (run_append_ne_cons (isRun_padded 4 _) (by decide))
    next hsign => exact absurd hsign (run_append_ne_cons (isRun_padded 4 _) (by decide))
    next =>
      rw [hdigits, Option.map_some]
      simp [Option.filter, hyear, hfirst, hlast]
  · have hyear : -(year.natAbs : Int) = year := by omega
    rw [readYear, List.cons_append, skipBlanks_cons (by decide)]
    simp only [digits_signed, Option.map_some, hyear]
    simp [Option.filter, hfirst, hlast]
  · have hyear : (year.natAbs : Int) = year := by omega
    rw [readYear, List.cons_append, skipBlanks_cons (by decide)]
    simp only [digits_signed, Option.map_some, hyear]
    simp [Option.filter, hfirst, hlast]

theorem readFraction_padded {width n : Nat} (h : n < Nat.pow 10 width) (hwidth : 0 < width)
    (hlimit : width ≤ 9) :
    readFraction ('.' :: (padded width n ++ ['Z'])) = some (n * Nat.pow 10 (9 - width), ['Z']) := by
  have hlength := length_padded h hwidth
  have hrun := isRun_padded width n
  have htaken : (padded width n ++ ['Z']).takeWhile Char.isDigit = padded width n := by
    rw [List.takeWhile_append_of_pos hrun.2]
    exact List.append_nil _
  have hkept : (padded width n).take 9 = padded width n := List.take_of_length_le (by omega)
  simp only [readFraction, htaken, if_neg hrun.1, hkept, value_padded, hlength]
  simp [hlength]

/-- The groups of three digits that are left out are zeros. -/
theorem readFraction_fractionText {nanosecond : Nat} (h : nanosecond < 1000000000) :
    readFraction (fractionText nanosecond ++ ['Z']) = some (nanosecond, ['Z']) := by
  unfold fractionText
  split_ifs with hzero hmilli hmicro
  · rw [hzero]
    rfl
  · have hgroups : nanosecond / 1000000 < Nat.pow 10 3 := by
      change _ < 1000
      omega
    have hvalue : nanosecond / 1000000 * Nat.pow 10 (9 - 3) = nanosecond := by
      change _ * 1000000 = _
      omega
    rw [List.cons_append, readFraction_padded hgroups (by decide) (by decide), hvalue]
  · have hgroups : nanosecond / 1000 < Nat.pow 10 6 := by
      change _ < 1000000
      omega
    have hvalue : nanosecond / 1000 * Nat.pow 10 (9 - 6) = nanosecond := by
      change _ * 1000 = _
      omega
    rw [List.cons_append, readFraction_padded hgroups (by decide) (by decide), hvalue]
  · have hvalue : nanosecond * Nat.pow 10 (9 - 9) = nanosecond := Nat.mul_one _
    rw [List.cons_append, readFraction_padded h (by decide) (by decide), hvalue]

/-- Without an offset a minute of the day stays in the day. -/
theorem settle_minute {date : Date} {hour minute : Nat} (hhour : hour ≤ 23)
    (hminute : minute ≤ 59) :
    settle date (60 * hour + minute - 0 : Int) = some (date, 60 * hour + minute) := by
  have hcast : (60 * hour + minute - 0 : Int) = (60 * hour + minute : Nat) := by omega
  rw [hcast, settle, if_neg (by omega), if_pos (by omega), Int.toNat_natCast]

theorem toList_text (time : Timestamp) : time.text.toList =
    yearText time.year ++ '-' :: (padded 2 time.month ++ '-' :: (padded 2 time.day ++ 'T' ::
      (padded 2 time.hour ++ ':' :: (padded 2 time.minute ++ ':' :: (padded 2 time.second ++
        (fractionText time.nanosecond ++ ['Z'])))))) := by
  rw [text, String.toList_ofList]
  simp only [List.append_assoc, List.cons_append]

/-- A valid point in time is read back from its text. -/
theorem ofText?_text {time : Timestamp} (h : time.IsValid) : ofText? time.text = some time := by
  have hday_le : time.day ≤ 31 := h.day_le.trans (daysInMonth_le time.year time.month)
  have hminute_le := h.minute_le
  have hzone : readOffset (skipBlanks ['Z']) = some (0, []) := by decide
  have hhour : (60 * time.hour + time.minute) / 60 = time.hour := by omega
  have hminute : (60 * time.hour + time.minute) % 60 = time.minute := by omega
  rw [ofText?, toList_text]
  -- Each part is read up to the mark behind it, and the mark up to the next part.
  refine Option.bind_eq_some_iff.mpr ⟨_, readYear_yearText h.firstYear_le h.le_lastYear, ?_⟩
  refine Option.bind_eq_some_iff.mpr ⟨_, mark_cons (by decide), ?_⟩
  refine Option.bind_eq_some_iff.mpr ⟨_, part_padded h.month_pos h.month_le (by decide), ?_⟩
  refine Option.bind_eq_some_iff.mpr ⟨_, mark_cons (by decide), ?_⟩
  refine Option.bind_eq_some_iff.mpr ⟨_, part_padded h.day_pos hday_le (by decide), ?_⟩
  dsimp only
  rw [if_neg (Nat.not_lt.mpr h.day_le)]
  refine Option.bind_eq_some_iff.mpr ⟨_, rfl, ?_⟩
  dsimp only
  rw [if_neg (by decide)]
  refine Option.bind_eq_some_iff.mpr
    ⟨_, part_padded (Nat.zero_le time.hour) h.hour_le (by decide), ?_⟩
  refine Option.bind_eq_some_iff.mpr ⟨_, mark_cons (by decide), ?_⟩
  refine Option.bind_eq_some_iff.mpr
    ⟨_, part_padded (Nat.zero_le time.minute) h.minute_le (by decide), ?_⟩
  refine Option.bind_eq_some_iff.mpr ⟨_, mark_cons (by decide), ?_⟩
  refine Option.bind_eq_some_iff.mpr
    ⟨_, part_padded (Nat.zero_le time.second) h.second_le (by decide), ?_⟩
  refine Option.bind_eq_some_iff.mpr ⟨_, readFraction_fractionText h.nanosecond_lt, ?_⟩
  refine Option.bind_eq_some_iff.mpr ⟨_, hzone, ?_⟩
  dsimp only
  rw [if_neg (by decide)]
  refine Option.bind_eq_some_iff.mpr ⟨_, settle_minute h.hour_le h.minute_le, ?_⟩
  dsimp only
  rw [hhour, hminute]
  rfl

/-! ## What is read is valid -/

/-- The calendar has the day. -/
structure Date.IsValid (date : Date) : Prop where
  firstYear_le : firstYear ≤ date.year
  le_lastYear : date.year ≤ lastYear
  month_pos : 1 ≤ date.month
  month_le : date.month ≤ 12
  day_pos : 1 ≤ date.day
  day_le : date.day ≤ daysInMonth date.year date.month

theorem le_daysInMonth (year : Int) (month : Nat) : 28 ≤ daysInMonth year month := by
  unfold daysInMonth
  split_ifs <;> omega

variable {date other : Date} {cs rest : List Char}

theorem Date.IsValid.next (h : date.IsValid) (hnext : date.next = some other) : other.IsValid := by
  obtain ⟨hfirst, hlast, hmonth, hmonth', hday, hday'⟩ := h
  have hsome : ∀ year month, 1 ≤ daysInMonth year month := fun year month =>
    Nat.le_trans (by decide) (le_daysInMonth year month)
  unfold Date.next at hnext
  split_ifs at hnext with hwithin hyear hyears
  · obtain rfl := Option.some.inj hnext
    exact ⟨hfirst, hlast, hmonth, hmonth', by simp, hwithin⟩
  · obtain rfl := Option.some.inj hnext
    exact ⟨hfirst, hlast, by simp, hyear, by simp, hsome _ _⟩
  · obtain rfl := Option.some.inj hnext
    refine ⟨?_, hyears, by simp, by simp, by simp, hsome _ _⟩
    dsimp only
    omega

theorem Date.IsValid.previous (h : date.IsValid) (hprevious : date.previous = some other) :
    other.IsValid := by
  obtain ⟨hfirst, hlast, hmonth, hmonth', hday, hday'⟩ := h
  unfold Date.previous at hprevious
  split_ifs at hprevious with hwithin hyear hyears
  · obtain rfl := Option.some.inj hprevious
    exact ⟨hfirst, hlast, hmonth, hmonth', by dsimp only; omega, by dsimp only; omega⟩
  · obtain rfl := Option.some.inj hprevious
    have hdays := le_daysInMonth date.year (date.month - 1)
    exact ⟨hfirst, hlast, by dsimp only; omega, by dsimp only; omega, by dsimp only; omega,
      le_refl _⟩
  · obtain rfl := Option.some.inj hprevious
    exact ⟨by dsimp only; omega, by dsimp only; omega, by simp, by simp, by simp, le_refl 31⟩

/-- A minute that lies at most a day off a day of the calendar is a minute of such a day. -/
theorem isValid_of_settle {minute : Int} {inDay : Nat} (h : date.IsValid) (hlow : -1440 ≤ minute)
    (hhigh : minute < 2880) (hsettle : settle date minute = some (other, inDay)) :
    other.IsValid ∧ inDay < 1440 := by
  unfold settle at hsettle
  split_ifs at hsettle with hbefore hwithin
  · obtain ⟨found, hfound, heq⟩ := Option.map_eq_some_iff.mp hsettle
    obtain ⟨rfl, rfl⟩ := Prod.mk.inj heq
    exact ⟨h.previous hfound, by omega⟩
  · obtain ⟨rfl, rfl⟩ := Prod.mk.inj (Option.some.inj hsettle)
    exact ⟨h, by omega⟩
  · obtain ⟨found, hfound, heq⟩ := Option.map_eq_some_iff.mp hsettle
    obtain ⟨rfl, rfl⟩ := Prod.mk.inj heq
    exact ⟨h.next hfound, by omega⟩

theorem bounds_of_readYear {year : Int} (h : readYear cs = some (year, rest)) :
    firstYear ≤ year ∧ year ≤ lastYear := by
  have hfilter := (Option.filter_eq_some_iff.mp h).2
  simpa using hfilter

theorem bounds_of_part {min max n : Nat} (h : part min max cs = some (n, rest)) :
    min ≤ n ∧ n ≤ max := by
  have hfilter := (Option.filter_eq_some_iff.mp h).2
  simpa using hfilter

theorem lt_of_readFraction {n : Nat} (h : readFraction cs = some (n, rest)) : n < 1000000000 := by
  unfold readFraction at h
  split at h
  next later =>
    dsimp only at h
    split at h
    next => exact absurd h (by simp)
    next =>
      obtain ⟨rfl, -⟩ := Prod.mk.inj (Option.some.inj h)
      generalize hkept : (later.takeWhile Char.isDigit).take 9 = kept
      have hlength : kept.length ≤ 9 := hkept ▸ List.length_take_le 9 _
      have hdigits : ∀ c ∈ kept, c.isDigit = true := by
        rw [← hkept]
        exact fun c hc => List.mem_takeWhile_imp (List.mem_of_mem_take hc)
      calc value kept * Nat.pow 10 (9 - kept.length)
          < 10 ^ kept.length * 10 ^ (9 - kept.length) :=
            Nat.mul_lt_mul_of_pos_right (value_lt_pow hdigits) (Nat.pow_pos (by decide))
        _ = 10 ^ 9 := by rw [← Nat.pow_add, Nat.add_sub_cancel' hlength]
  next =>
    obtain ⟨rfl, -⟩ := Prod.mk.inj (Option.some.inj h)
    decide

/-- An offset is less than a day. -/
theorem bounds_of_readOffset {offset : Int} (h : readOffset cs = some (offset, rest)) :
    -1440 < offset ∧ offset < 1440 := by
  unfold readOffset at h
  split at h
  next =>
    obtain ⟨rfl, -⟩ := Prod.mk.inj (Option.some.inj h)
    decide
  next =>
    split at h
    next c later =>
      split at h
      next =>
        obtain ⟨rfl, -⟩ := Prod.mk.inj (Option.some.inj h)
        decide
      next =>
        split at h
        next =>
          obtain ⟨⟨hours, afterHours⟩, -, h⟩ := Option.bind_eq_some_iff.mp h
          obtain ⟨⟨minutes, afterMinutes⟩, -, h⟩ := Option.bind_eq_some_iff.mp h
          dsimp only at h
          split at h
          next hbounds =>
            obtain ⟨hoffset, -⟩ := Prod.mk.inj (Option.some.inj h)
            rw [← hoffset]
            split_ifs <;> omega
          next => exact absurd h (by simp)
        next => exact absurd h (by simp)
    next => exact absurd h (by simp)

/-- A point in time that was read from a text is one that the calendar and the clock have. -/
theorem isValid_of_ofText? {text : String} {time : Timestamp} (h : ofText? text = some time) :
    time.IsValid := by
  unfold ofText? at h
  obtain ⟨⟨year, afterYear⟩, hyear, h⟩ := Option.bind_eq_some_iff.mp h
  obtain ⟨afterMark, -, h⟩ := Option.bind_eq_some_iff.mp h
  obtain ⟨⟨month, afterMonth⟩, hmonth, h⟩ := Option.bind_eq_some_iff.mp h
  obtain ⟨afterMark, -, h⟩ := Option.bind_eq_some_iff.mp h
  obtain ⟨⟨day, afterDay⟩, hday, h⟩ := Option.bind_eq_some_iff.mp h
  dsimp only at h
  split at h
  next => exact absurd h (by simp)
  next hdays =>
    obtain ⟨⟨start, found⟩, -, h⟩ := Option.bind_eq_some_iff.mp h
    dsimp only at h
    split at h
    next => exact absurd h (by simp)
    next =>
      obtain ⟨⟨hour, afterHour⟩, hhour, h⟩ := Option.bind_eq_some_iff.mp h
      obtain ⟨afterMark, -, h⟩ := Option.bind_eq_some_iff.mp h
      obtain ⟨⟨minute, afterMinute⟩, hminute, h⟩ := Option.bind_eq_some_iff.mp h
      obtain ⟨afterMark, -, h⟩ := Option.bind_eq_some_iff.mp h
      obtain ⟨⟨second, afterSecond⟩, hsecond, h⟩ := Option.bind_eq_some_iff.mp h
      obtain ⟨⟨nanosecond, afterFraction⟩, hnanosecond, h⟩ := Option.bind_eq_some_iff.mp h
      obtain ⟨⟨offset, afterOffset⟩, hoffset, h⟩ := Option.bind_eq_some_iff.mp h
      dsimp only at h
      split at h
      next => exact absurd h (by simp)
      next =>
        obtain ⟨⟨date, inDay⟩, hsettle, h⟩ := Option.bind_eq_some_iff.mp h
        obtain ⟨hfirst, hlast⟩ := bounds_of_readYear hyear
        obtain ⟨hmonthPos, hmonthLe⟩ := bounds_of_part hmonth
        obtain ⟨hlow, hhigh⟩ := bounds_of_readOffset hoffset
        have hhourLe := (bounds_of_part hhour).2
        have hminuteLe := (bounds_of_part hminute).2
        have hday : Date.IsValid ⟨year, month, day⟩ :=
          ⟨hfirst, hlast, hmonthPos, hmonthLe, (bounds_of_part hday).1, Nat.le_of_not_lt hdays⟩
        obtain ⟨hdate, hinDay⟩ := isValid_of_settle hday (by omega) (by omega) hsettle
        obtain rfl := Option.some.inj h
        exact ⟨hdate.firstYear_le, hdate.le_lastYear, hdate.month_pos, hdate.month_le,
          hdate.day_pos, hdate.day_le, by dsimp only; omega, by dsimp only; omega,
          (bounds_of_part hsecond).2, lt_of_readFraction hnanosecond⟩

end UploadGate.Timestamp
