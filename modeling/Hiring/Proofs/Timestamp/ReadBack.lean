import Hiring.Proofs.Decimal.Digits
import Hiring.Timestamp.Reader

/-!
# Points in time read back

A point in time is read in many spellings and with any offset, and is written in one, in universal
time.  The reader keeps the calendar valid while it takes the offset off, and only a fifty-ninth
second ever is a leap second (`isKept_of_ofText?`); that is what the writer needs, since it writes a
leap second as the sixtieth, and so what was read is read again (`ofText?_text`).

* `IsKept` — a possible date and time of day, with a leap second in its place only.
* `IsKept.shiftMinutes?` — the same clock some minutes later or earlier is possible too.
* `date?_text`, `time?_text` — the two halves of the written form.
-/

set_option autoImplicit false

namespace Hiring.Timestamp

open Text

/-- A possible date and time of day, with a leap second in its place only. -/
structure IsKept (t : Timestamp) : Prop where
  isValid : t.IsValid
  leap : 1000000000 ≤ t.nanos → t.second = 59

/-! ## The calendar -/

theorem daysInMonth_ge (year : Int) (month : Nat) : 28 ≤ daysInMonth year month := by
  unfold daysInMonth
  split
  · split <;> decide
  all_goals decide

theorem daysInMonth_le (year : Int) (month : Nat) : daysInMonth year month ≤ 31 := by
  unfold daysInMonth
  split
  · split <;> decide
  all_goals decide

/-- The day is in the calendar, whatever the year. -/
structure HasDate (t : Timestamp) : Prop where
  month_pos : 1 ≤ t.month
  month_le : t.month ≤ 12
  day_pos : 1 ≤ t.day
  day_le : t.day ≤ daysInMonth t.year t.month

theorem HasDate.nextDay {t : Timestamp} (h : t.HasDate) : t.nextDay.HasDate := by
  have hfirst := daysInMonth_ge t.year (t.month + 1)
  have hnew := daysInMonth_ge (t.year + 1) 1
  unfold Timestamp.nextDay
  split
  · next hday => exact ⟨h.month_pos, h.month_le, Nat.le_add_left 1 t.day, hday⟩
  · split
    · next hmonth => exact ⟨Nat.le_add_left 1 t.month, hmonth, Nat.le_refl 1, by simp only; omega⟩
    · exact ⟨Nat.le_refl 1, by simp only; omega, Nat.le_refl 1, by simp only; omega⟩

theorem HasDate.previousDay {t : Timestamp} (h : t.HasDate) : t.previousDay.HasDate := by
  obtain ⟨hmonth, hmonth', hday, hday'⟩ := h
  have hlast := daysInMonth_ge t.year (t.month - 1)
  unfold Timestamp.previousDay
  split
  · exact ⟨hmonth, hmonth', by simp only; omega, by simp only; omega⟩
  · split
    · exact ⟨by simp only; omega, by simp only; omega, by simp only; omega, Nat.le_refl _⟩
    · exact ⟨by simp only; omega, Nat.le_refl 12, by simp only; omega, Nat.le_refl 31⟩

theorem nextDay_second (t : Timestamp) :
    t.nextDay.second = t.second ∧ t.nextDay.nanos = t.nanos := by
  unfold nextDay
  split
  · exact ⟨rfl, rfl⟩
  · split <;> exact ⟨rfl, rfl⟩

theorem previousDay_second (t : Timestamp) :
    t.previousDay.second = t.second ∧ t.previousDay.nanos = t.nanos := by
  unfold previousDay
  split
  · exact ⟨rfl, rfl⟩
  · split <;> exact ⟨rfl, rfl⟩

/-- The day before, after or the same, with another time of day. -/
theorem isKept_of_shifted {t day : Timestamp} {hour minute : Nat} (h : t.IsKept)
    (hdate : day.HasDate) (hsecond : day.second = t.second ∧ day.nanos = t.nanos)
    (hyear : firstYear ≤ day.year ∧ day.year ≤ lastYear) (hhour : hour < 24)
    (hminute : minute < 60) : IsKept { day with hour, minute } := by
  obtain ⟨⟨-, -, -, -, -, -, -, -, hsec, hnanos⟩, hleap⟩ := h
  rw [← hsecond.1, ← hsecond.2] at hleap
  rw [← hsecond.1] at hsec
  rw [← hsecond.2] at hnanos
  exact ⟨⟨hyear.1, hyear.2, hdate.month_pos, hdate.month_le, hdate.day_pos, hdate.day_le, hhour,
    hminute, hsec, hnanos⟩, hleap⟩

/-- **The same clock some minutes later or earlier is possible too**, if its year is. -/
theorem IsKept.shiftMinutes? {t t' : Timestamp} {minutes : Int} (h : t.IsKept)
    (hshift : t.shiftMinutes? minutes = some t') : t'.IsKept := by
  have hdate : t.HasDate := by
    obtain ⟨⟨-, -, h₁, h₂, h₃, h₄, -⟩, -⟩ := h
    exact ⟨h₁, h₂, h₃, h₄⟩
  obtain ⟨hyear, heq⟩ := Option.ite_none_right_eq_some.1 hshift
  cases heq
  have hofDay : (((t.hour * 60 + t.minute : Nat) + minutes) % 1440).toNat < 1440 := by omega
  refine isKept_of_shifted h ?_ ?_ hyear (Nat.div_lt_of_lt_mul hofDay) (Nat.mod_lt _ (by decide))
  · split
    · exact hdate.previousDay
    · split
      · exact hdate.nextDay
      · exact hdate
  · split
    · exact previousDay_second t
    · split
      · exact nextDay_second t
      · exact ⟨rfl, rfl⟩

/-- A clock that is not moved stays what it is. -/
theorem IsKept.shiftMinutes?_zero {t : Timestamp} (h : t.IsKept) : t.shiftMinutes? 0 = some t := by
  obtain ⟨⟨hyear, hyear', -, -, -, -, hhour, hminute, -, -⟩, -⟩ := h
  have htotal : ¬ ((t.hour * 60 + t.minute : Nat) + (0 : Int) < 0) := by omega
  have htotal' : ¬ (1440 ≤ (t.hour * 60 + t.minute : Nat) + (0 : Int)) := by omega
  have hofDay : (((t.hour * 60 + t.minute : Nat) + (0 : Int)) % 1440).toNat =
      t.hour * 60 + t.minute := by omega
  have hour' : (t.hour * 60 + t.minute) / 60 = t.hour := by omega
  have hminute' : (t.hour * 60 + t.minute) % 60 = t.minute := by omega
  simp only [Timestamp.shiftMinutes?, htotal, htotal', if_false, hofDay, hour', hminute', hyear,
    hyear', and_self, if_true]

/-! ## What is read -/

/-- The part of a second is less than a second. -/
theorem nanos?_lt {cs rest : List Char} {n : Nat} (h : nanos? cs = some (n, rest)) :
    n < 1000000000 := by
  unfold nanos? at h
  split at h
  · next cs =>
    simp only at h
    split at h
    · cases h
    · cases h
      have hlength : ((cs.takeWhile isDigit).take 9).length ≤ 9 := List.length_take_le _ _
      have hdigits : ∀ c ∈ (cs.takeWhile isDigit).take 9 ++
          List.replicate (9 - ((cs.takeWhile isDigit).take 9).length) '0', isDigit c = true := by
        intro c hc
        rcases List.mem_append.1 hc with hc | hc
        · exact List.mem_takeWhile_imp (List.mem_of_mem_take hc)
        · exact isDigit_of_mem_zeros hc
      have hlt := digitsValue_lt hdigits
      rw [List.length_append, List.length_replicate, Nat.add_sub_of_le hlength] at hlt
      exact hlt
  · cases h
    decide

theorem time?_nanos_lt {cs rest : List Char} {hour minute second nanos : Nat}
    (h : time? cs = some ((hour, minute, second, nanos), rest)) : nanos < 1000000000 := by
  simp only [time?, Option.bind_eq_bind, Option.bind_eq_some_iff] at h
  obtain ⟨_, -, _, -, _, -, _, -, _, -, ⟨n, after⟩, hn, h⟩ := h
  cases h
  exact nanos?_lt hn

/-- **A time that was read is kept**: the calendar has it, and a leap second stands in its place. -/
theorem isKept_of_ofText? {s : String} {t : Timestamp} (h : ofText? s = some t) : t.IsKept := by
  simp only [ofText?, Option.bind_eq_bind, Option.bind_eq_some_iff] at h
  obtain ⟨⟨⟨year, month, day⟩, _⟩, -, _, -, ⟨⟨hour, minute, second, nanos⟩, _⟩, htime, _, -, h⟩ := h
  have hnanos := time?_nanos_lt htime
  obtain ⟨hvalid, hshift⟩ := Option.ite_none_right_eq_some.1 h
  refine IsKept.shiftMinutes? ⟨hvalid.2, fun hleap => ?_⟩ hshift
  by_cases hsecond : second = 60
  · simp only [hsecond, if_true]
  · simp only [hsecond, if_false] at hleap
    exact absurd hnanos (Nat.not_lt.2 hleap)

/-! ## What is written -/

theorem trimStart_of_not_isBlank {c : Char} (h : isBlank c = false) (cs : List Char) :
    trimStart (c :: cs) = c :: cs :=
  List.dropWhile_cons_of_neg (by simp [h])

theorem trimStart_padded (width n : Nat) (rest : List Char) :
    trimStart (padded width n ++ rest) = padded width n ++ rest := by
  obtain ⟨c, cs, hcs⟩ := List.exists_cons_of_ne_nil (padded_ne_nil width n)
  have hc : isDigit c = true := isDigit_of_mem_padded (by rw [hcs]; exact List.mem_cons_self)
  rw [hcs]
  exact trimStart_of_not_isBlank (isBlank_of_isDigit hc) _

theorem after?_cons {c : Char} (h : isBlank c = false) (rest : List Char) :
    after? c (c :: rest) = some rest := by
  rw [after?, trimStart_of_not_isBlank h]
  exact if_pos rfl

/-- A padded number is read where no more digits are wanted than it has, and none follows. -/
theorem number?_padded {most width n : Nat} {rest : List Char}
    (hlength : (padded width n).length ≤ most) (hrest : ∀ c ∈ rest.head?, isDigit c = false) :
    number? most (padded width n ++ rest) = some (n, rest) := by
  have htake : ((padded width n ++ rest).takeWhile isDigit).take most = padded width n := by
    rw [takeWhile_isDigit (fun _ => isDigit_of_mem_padded) hrest, List.take_of_length_le hlength]
  have hempty : (padded width n).isEmpty = false := by simpa using padded_ne_nil width n
  simp only [number?, htake, hempty, Bool.false_eq_true, if_false, digitsValue_padded,
    List.drop_left]

theorem pair?_padded {n : Nat} (h : n < 100) {rest : List Char}
    (hrest : ∀ c ∈ rest.head?, isDigit c = false) :
    pair? (padded 2 n ++ rest) = some (n, rest) := by
  rw [pair?, trimStart_padded]
  exact number?_padded (Nat.le_of_eq (length_padded (by decide) h)) hrest

theorem year?_yearChars (year : Int) {rest : List Char}
    (hrest : ∀ c ∈ rest.head?, isDigit c = false) :
    year? (yearChars year ++ rest) = some (year, rest) := by
  unfold yearChars
  split
  · next hyear =>
    have hlength : (padded 4 year.natAbs).length = 4 := length_padded (by decide) (by omega)
    have hnumber := number?_padded (Nat.le_of_eq hlength) hrest
    obtain ⟨c, cs, hcs⟩ := List.exists_cons_of_ne_nil (padded_ne_nil 4 year.natAbs)
    have hc : isDigit c = true := isDigit_of_mem_padded (by rw [hcs]; exact List.mem_cons_self)
    rw [year?, trimStart_padded]
    split
    · next heq =>
      rw [hcs] at heq
      exact absurd (List.cons.inj heq).1 (ne_of_isDigit hc rfl)
    · next heq =>
      rw [hcs] at heq
      exact absurd (List.cons.inj heq).1 (ne_of_isDigit hc rfl)
    · have hvalue : (year.natAbs : Int) = year := by omega
      simp only [hnumber, Option.map_some, hvalue]
  · next hyear =>
    have hnumber : number? (padded 4 year.natAbs ++ rest).length (padded 4 year.natAbs ++ rest) =
        some (year.natAbs, rest) := number?_padded (by simp) hrest
    split
    · next hneg =>
      have hvalue : -(year.natAbs : Int) = year := by omega
      rw [List.cons_append, year?, trimStart_of_not_isBlank rfl]
      simp only [hnumber, Option.map_some, hvalue]
    · have hvalue : (year.natAbs : Int) = year := by omega
      rw [List.cons_append, year?, trimStart_of_not_isBlank rfl]
      simp only [hnumber, Option.map_some, hvalue]

/-- Some digits of a second say nanoseconds by the places that they lack. -/
theorem nanos?_padded {places n : Nat} (hpos : 0 < places) (hplaces : places ≤ 9)
    (hn : n < 10 ^ places) {rest : List Char} (hrest : ∀ c ∈ rest.head?, isDigit c = false) :
    nanos? ('.' :: padded places n ++ rest) = some (n * Decimal.tenPow (9 - places), rest) := by
  have hlength := length_padded hpos hn
  have htake : ((padded places n ++ rest).takeWhile isDigit).take 9 = padded places n := by
    rw [takeWhile_isDigit (fun _ => isDigit_of_mem_padded) hrest,
      List.take_of_length_le (by omega)]
  have hdrop : (padded places n ++ rest).dropWhile isDigit = rest :=
    dropWhile_isDigit (fun _ => isDigit_of_mem_padded) hrest
  have hempty : (padded places n).isEmpty = false := by simpa using padded_ne_nil places n
  simp only [List.cons_append, nanos?, htake, hdrop, hempty, Bool.false_eq_true, if_false,
    digitsValue_append_zeros, digitsValue_padded, hlength]

theorem nanos?_fractionChars {n : Nat} (h : n < 1000000000) {rest : List Char}
    (hrest : ∀ c ∈ rest.head?, isDigit c = false ∧ c ≠ '.') :
    nanos? (fractionChars n ++ rest) = some (n, rest) := by
  have hdigit : ∀ c ∈ rest.head?, isDigit c = false := fun c hc => (hrest c hc).1
  unfold fractionChars
  split
  · next hzero =>
    rw [List.nil_append, nanos?, hzero]
    rintro cs rfl
    exact (hrest '.' rfl).2 rfl
  split
  · rw [nanos?_padded (by decide) (by decide) (by omega) hdigit]
    have hvalue : n / 1000000 * Decimal.tenPow (9 - 3) = n := by
      have hthousands : Decimal.tenPow (9 - 3) = 1000000 := by decide
      rw [hthousands]
      omega
    rw [hvalue]
  split
  · rw [nanos?_padded (by decide) (by decide) (by omega) hdigit]
    have hvalue : n / 1000 * Decimal.tenPow (9 - 6) = n := by
      have hthousands : Decimal.tenPow (9 - 6) = 1000 := by decide
      rw [hthousands]
      omega
    rw [hvalue]
  · rw [nanos?_padded (by decide) (by decide) h hdigit]
    exact congrArg (fun n => some (n, rest)) (Nat.mul_one n)

theorem head?_fractionChars_append (n : Nat) {rest : List Char}
    (hrest : ∀ c ∈ rest.head?, isDigit c = false) :
    ∀ c ∈ (fractionChars n ++ rest).head?, isDigit c = false := by
  unfold fractionChars
  split
  · exact hrest
  split
  · simp [isDigit]
  split
  · simp [isDigit]
  · simp [isDigit]

/-- The written form of a date is read as the date. -/
theorem date?_text (year : Int) {month day : Nat} (hmonth : month < 100) (hday : day < 100)
    {rest : List Char} (hrest : ∀ c ∈ rest.head?, isDigit c = false) :
    date? (yearChars year ++ ('-' :: (padded 2 month ++ ('-' :: (padded 2 day ++ rest))))) =
      some ((year, month, day), rest) := by
  have hhyphen : ∀ cs : List Char, ∀ c ∈ ('-' :: cs).head?, isDigit c = false := by simp [isDigit]
  simp [date?, year?_yearChars year (hhyphen _), after?_cons (c := '-') rfl,
    pair?_padded hmonth (hhyphen _), pair?_padded hday hrest]

/-- The written form of a time of day is read as the time of day. -/
theorem time?_text {hour minute second nanos : Nat} (hhour : hour < 100) (hminute : minute < 100)
    (hsecond : second < 100) (hnanos : nanos < 1000000000) {rest : List Char}
    (hrest : ∀ c ∈ rest.head?, isDigit c = false ∧ c ≠ '.') :
    time? (padded 2 hour ++ (':' :: (padded 2 minute ++ (':' :: (padded 2 second ++
      (fractionChars nanos ++ rest)))))) = some ((hour, minute, second, nanos), rest) := by
  have hcolon : ∀ cs : List Char, ∀ c ∈ (':' :: cs).head?, isDigit c = false := by simp [isDigit]
  have hfraction := head?_fractionChars_append nanos fun c hc => (hrest c hc).1
  simp [time?, after?_cons (c := ':') rfl, pair?_padded hhour (hcolon _),
    pair?_padded hminute (hcolon _), pair?_padded hsecond hfraction,
    nanos?_fractionChars hnanos hrest]

/-- The characters of a date and a time of day, in universal time. -/
def clockChars (t : Timestamp) (second nanos : Nat) : List Char :=
  yearChars t.year ++ '-' :: padded 2 t.month ++ '-' :: padded 2 t.day ++
    'T' :: padded 2 t.hour ++ ':' :: padded 2 t.minute ++ ':' :: padded 2 second ++
    fractionChars nanos ++ ['Z']

/-- A written second and its part are read as those of the time that they say. -/
theorem ofText?_clockChars {t : Timestamp} (h : t.IsKept) {second nanos : Nat}
    (hsecond : second < 100) (hnanos : nanos < 1000000000)
    (ht : (if second = 60 then { t with second := 59, nanos := nanos + 1000000000 }
      else { t with second := second, nanos := nanos }) = t) :
    ofText? (String.ofList (clockChars t second nanos)) = some t := by
  have hshift := h.shiftMinutes?_zero
  obtain ⟨-, -, -, hmonth, -, hday, hhour, hminute, -, -⟩ := h.isValid
  have hlast := daysInMonth_le t.year t.month
  have htime := time?_text (show t.hour < 100 by omega) (show t.minute < 100 by omega) hsecond
    hnanos (show ∀ c ∈ ['Z'].head?, isDigit c = false ∧ c ≠ '.' by simp [isDigit])
  have hletter : ∀ cs : List Char, ∀ c ∈ ('T' :: cs).head?, isDigit c = false := by simp [isDigit]
  have hdate := date?_text t.year (show t.month < 100 by omega) (show t.day < 100 by omega)
    (hletter (padded 2 t.hour ++ (':' :: (padded 2 t.minute ++ (':' :: (padded 2 second ++
      (fractionChars nanos ++ ['Z'])))))))
  have hoffset : offset? (trimStart ['Z']) = some (0, []) := by decide
  have hend : (trimStart []).isEmpty = true := rfl
  simp only [ofText?, String.toList_ofList, clockChars, List.append_assoc, List.cons_append, hdate,
    Option.bind_eq_bind, Option.bind_some, betweenDateAndTime?, htime, hoffset, hend, ht, h.isValid]
  exact hshift

/-- **A time that is kept is read again from its text.** -/
theorem ofText?_text {t : Timestamp} (h : t.IsKept) : ofText? t.text = some t := by
  obtain ⟨-, -, -, -, -, -, -, -, hsecond, hnanos⟩ := h.isValid
  by_cases hleap : 1000000000 ≤ t.nanos
  · have hlast := h.leap hleap
    have hwritten : t.second + 1 = 60 := by omega
    have hpart : t.nanos - 1000000000 < 1000000000 := by omega
    have hwhole : t.nanos - 1000000000 + 1000000000 = t.nanos := by omega
    have hread := ofText?_clockChars h (show t.second + 1 < 100 by omega) hpart
      (by rw [if_pos hwritten, hwhole, ← hlast])
    simpa only [text, clockChars, hleap, if_true] using hread
  · have hordinary : t.second ≠ 60 := by omega
    have hread := ofText?_clockChars h (show t.second < 100 by omega) (Nat.not_le.1 hleap)
      (if_neg hordinary)
    simpa only [text, clockChars, hleap, if_false] using hread

end Hiring.Timestamp
