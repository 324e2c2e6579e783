/-
Timestamps read back from their text.

The text of a timestamp is a row of numbers with marks between them (`spelled`).  Each number is
read up to the next mark (`field?_padded`), a year also with a sign, a fraction of a second by how
many digits it has, so that the reader comes to the numbers that were written (`parse?_spelled`).
They name the instant again: the date and the time of day are taken apart and put together by
division with rest, and the date is that of its day.

A timestamp that can be named (`Nameable`) is therefore read back as it is, leap second and all
(`parse?_text`).
-/
import Turnstile.Proofs.Number.Digits
import Turnstile.Proofs.Time.Date

namespace Turnstile.Timestamp

/-! ### Numbers with zeros in front -/

/-- The digits of a number, with zeros in front up to a width. -/
def padChars (width n : Nat) : List Char :=
  List.replicate (width - (Nat.toDigits 10 n).length) '0' ++ Nat.toDigits 10 n

theorem toList_padded (width n : Nat) : (padded width n).toList = padChars width n := by
  simp [padded, padChars, Nat.toString_eq_repr, Nat.toList_repr, ← String.length_toList]

section Padded

variable {width n : Nat} {c : Char} {rest : List Char}

theorem isDigit_of_mem_padChars (h : c ∈ padChars width n) : c.isDigit = true := by
  rcases List.mem_append.mp h with h | h
  · rw [List.eq_of_mem_replicate h]
    rfl
  · exact isDigit_of_mem_toDigits h

@[simp] theorem valueOf_padChars (width n : Nat) : valueOf (padChars width n) = n := by
  rw [padChars, valueOf_zeros_append, valueOf_toDigits]

theorem padChars_ne_nil (width n : Nat) : padChars width n ≠ [] :=
  List.append_ne_nil_of_right_ne_nil _ Nat.toDigits_ne_nil

theorem length_padChars (hpos : 0 < width) (h : n < 10 ^ width) :
    (padChars width n).length = width := by
  have hlen := (Nat.length_toDigits_le_iff (b := 10) (by decide) hpos).mpr h
  rw [padChars, List.length_append, List.length_replicate]
  omega

/-- A run of digits is read if it is as long as may be, or something else follows. -/
theorem digits?_append {most : Nat} {ds : List Char} (hds : ∀ c ∈ ds, c.isDigit = true)
    (hne : ds ≠ []) (hlen : ds.length ≤ most)
    (hstop : ds.length = most ∨ ∀ c ∈ rest.head?, c.isDigit = false) :
    digits? most (ds ++ rest) = some (valueOf ds, rest) := by
  have hrun : ((ds ++ rest).take most).takeWhile Char.isDigit = ds := by
    rw [List.take_append, List.take_of_length_le hlen]
    refine takeWhile_isDigit_append hds fun c hc => ?_
    rw [List.head?_take] at hc
    split at hc
    · nomatch hc
    · next hroom =>
      rcases hstop with hfull | hrest
      · exact absurd (by omega) hroom
      · exact hrest c hc
  simp [digits?, hrun, hne, valueOf]

theorem isBlank_of_isDigit {c : Char} (h : c.isDigit = true) : Text.isBlank c = false := by
  rw [Char.isDigit_iff_toNat] at h
  have hlow : '0'.toNat = 48 := rfl
  have hhigh : '9'.toNat = 57 := rfl
  simp only [Text.isBlank]
  grind

theorem exists_padChars_eq (width n : Nat) :
    ∃ c cs, padChars width n = c :: cs ∧ c.isDigit = true := by
  obtain ⟨c, cs, hds⟩ := List.exists_cons_of_ne_nil (padChars_ne_nil width n)
  exact ⟨c, cs, hds, isDigit_of_mem_padChars (hds ▸ List.mem_cons_self)⟩

theorem trimLeft_padChars (width n : Nat) (rest : List Char) :
    Text.trimLeft (padChars width n ++ rest) = padChars width n ++ rest := by
  obtain ⟨c, cs, hds, hdigit⟩ := exists_padChars_eq width n
  simp [hds, Text.trimLeft, isBlank_of_isDigit hdigit]

/-- A number of full width is read whatever follows. -/
theorem digits?_padChars (hpos : 0 < width) (h : n < 10 ^ width) (rest : List Char) :
    digits? width (padChars width n ++ rest) = some (n, rest) := by
  have hlen := length_padChars hpos h
  rw [digits?_append (fun c => isDigit_of_mem_padChars) (padChars_ne_nil width n) hlen.le
    (.inl hlen), valueOf_padChars]

theorem field?_padChars (hpos : 0 < width) (h : n < 10 ^ width) (rest : List Char) :
    field? width (padChars width n ++ rest) = some (n, rest) := by
  rw [field?, trimLeft_padChars, digits?_padChars hpos h]

end Padded

/-! ### Years -/

/-- The characters of a year. -/
def yearChars (y : Int) : List Char :=
  if 0 ≤ y ∧ y ≤ 9999 then padChars 4 y.toNat
  else (if y < 0 then '-' else '+') :: padChars 4 y.natAbs

theorem toList_yearText (y : Int) : (yearText y).toList = yearChars y := by
  rw [yearText, yearChars]
  split_ifs <;> simp [toList_padded]

/-- After a sign all digits belong to the year. -/
theorem digits?_signed (n : Nat) (rest : List Char) :
    digits? (padChars 4 n ++ '-' :: rest).length (padChars 4 n ++ '-' :: rest) =
      some (n, '-' :: rest) := by
  rw [digits?_append (fun c => isDigit_of_mem_padChars) (padChars_ne_nil 4 n)
    (by rw [List.length_append]; omega) (.inr fun c hc => by cases hc; rfl), valueOf_padChars]

theorem year?_unsigned {n : Nat} (h : n < 10 ^ 4) (rest : List Char) :
    year? (padChars 4 n ++ rest) = some ((n : Int), rest) := by
  have hdigits := digits?_padChars (by decide) h rest
  obtain ⟨c, cs, hds, hdigit⟩ := exists_padChars_eq 4 n
  have hminus : c ≠ '-' := by
    rintro rfl
    exact absurd hdigit (by decide)
  have hplus : c ≠ '+' := by
    rintro rfl
    exact absurd hdigit (by decide)
  rw [year?, trimLeft_padChars]
  rw [hds, List.cons_append] at hdigits ⊢
  simp [hminus, hplus, hdigits]

/-- A year is read up to the mark after it, by its four digits or by its sign. -/
theorem year?_yearChars (y : Int) (rest : List Char) :
    year? (yearChars y ++ '-' :: rest) = some (y, '-' :: rest) := by
  have hsigned := digits?_signed y.natAbs rest
  rw [yearChars]
  split_ifs with hplain hneg
  · rw [year?_unsigned (by omega)]
    exact congrArg (fun y => some (y, '-' :: rest)) (by omega)
  · rw [List.cons_append, year?, Text.trimLeft, List.dropWhile_cons_of_neg (by decide)]
    simp only [hsigned]
    exact congrArg (fun y => some (y, '-' :: rest)) (by omega)
  · rw [List.cons_append, year?, Text.trimLeft, List.dropWhile_cons_of_neg (by decide)]
    simp only [hsigned]
    exact congrArg (fun y => some (y, '-' :: rest)) (by omega)

/-! ### Fractions -/

/-- Digits after a point are read with the weight of their places. -/
theorem fraction?_padChars (width : Nat) {n : Nat} (hpos : 0 < width) (hmost : width ≤ 9)
    (h : n < 10 ^ width) (rest : List Char) :
    fraction? ('.' :: (padChars width n ++ 'Z' :: rest)) =
      some (n * 10 ^ (9 - width), 'Z' :: rest) := by
  have hlen := length_padChars hpos h
  have hdigits : digits? 9 (padChars width n ++ 'Z' :: rest) = some (n, 'Z' :: rest) := by
    rw [digits?_append (fun c => isDigit_of_mem_padChars) (padChars_ne_nil width n) (by omega)
      (.inr fun c hc => by cases hc; rfl), valueOf_padChars]
  have hwidth : (padChars width n ++ 'Z' :: rest).length - ('Z' :: rest).length = width := by
    rw [List.length_append, hlen, Nat.add_sub_cancel]
  simp only [fraction?, hdigits, Option.map_some, hwidth]
  rfl

/-- A fraction is read back from as many digits as it needs. -/
theorem fraction?_fractionText {nanos : Nat} (h : nanos < 1000000000) (rest : List Char) :
    fraction? ((fractionText nanos).toList ++ 'Z' :: rest) = some (nanos, 'Z' :: rest) := by
  rw [fractionText]
  split_ifs with hzero hmillis hmicros
  · rw [hzero]
    rfl
  · have hread := fraction?_padChars 3 (n := nanos / 1000000) (by decide) (by decide)
      (by omega) rest
    rw [String.toList_append, toList_padded]
    refine hread.trans (congrArg (fun n => some (n, 'Z' :: rest)) ?_)
    omega
  · have hread := fraction?_padChars 6 (n := nanos / 1000) (by decide) (by decide)
      (by omega) rest
    rw [String.toList_append, toList_padded]
    refine hread.trans (congrArg (fun n => some (n, 'Z' :: rest)) ?_)
    omega
  · have hread := fraction?_padChars 9 (n := nanos) (by decide) (by decide) h rest
    rw [String.toList_append, toList_padded]
    refine hread.trans (congrArg (fun n => some (n, 'Z' :: rest)) ?_)
    omega

/-! ### The row of numbers -/

/-- A date and a time of day as they are written. -/
def spelled (d : Date) (hour minute second nanos : Nat) : List Char :=
  yearChars d.year ++ '-' :: (padChars 2 d.month ++ '-' :: (padChars 2 d.day ++ 'T' ::
    (padChars 2 hour ++ ':' :: (padChars 2 minute ++ ':' :: (padChars 2 second ++
      ((fractionText nanos).toList ++ ['Z']))))))

theorem mark?_self {c : Char} (h : Text.isBlank c = false) (rest : List Char) :
    mark? c (c :: rest) = some rest := by
  simp [mark?, Text.trimLeft, h]

/-- The instant that a date and a time of day name. -/
def instantOf (d : Date) (hour minute second nanos : Nat) : Instant :=
  ⟨(d.toDays * 86400 + hour * 3600 + minute * 60 + second) * Span.second + nanos⟩

theorem day_le_of_isValid {d : Date} (h : d.IsValid) : d.day ≤ 31 := by
  obtain ⟨-, -, -, hday⟩ := h
  refine hday.trans ?_
  rw [Date.daysInMonth]
  split_ifs <;> decide

/-- The reader comes to the numbers that were written, one after another. -/
theorem parse?_spelled {d : Date} {hour minute second nanos : Nat} (hd : d.IsValid)
    (hyear : -262143 ≤ d.year ∧ d.year ≤ 262142) (hhour : hour ≤ 23) (hminute : minute ≤ 59)
    (hsecond : second ≤ 60) (hnanos : nanos < 1000000000)
    (hholds : Calendar.Holds ((instantOf d hour minute second nanos).plus
      (if second = 60 then -Span.second else 0))) :
    parse? (String.ofList (spelled d hour minute second nanos)) =
      some ⟨instantOf d hour minute second nanos, second == 60⟩ := by
  have hmonth := hd.2.1
  have hday := day_le_of_isValid hd
  have hfield {n : Nat} (h : n < 100) := field?_padChars (n := n) (show 0 < 2 by decide) h
  have hdash := mark?_self (c := '-') (by decide)
  have hcolon := mark?_self (c := ':') (by decide)
  have hzone : offset? (Text.trimLeft ['Z']) = some (0, []) := by decide
  rw [parse?, String.toList_ofList, spelled]
  refine Option.bind_eq_some_iff.mpr ⟨_, year?_yearChars d.year _, ?_⟩
  refine Option.bind_eq_some_iff.mpr ⟨_, hdash _, ?_⟩
  refine Option.bind_eq_some_iff.mpr ⟨_, hfield (by omega) _, ?_⟩
  refine Option.bind_eq_some_iff.mpr ⟨_, hdash _, ?_⟩
  refine Option.bind_eq_some_iff.mpr ⟨_, hfield (by omega) _, ?_⟩
  refine Option.bind_eq_some_iff.mpr ⟨_, rfl, ?_⟩
  refine Option.bind_eq_some_iff.mpr ⟨_, hfield (by omega) _, ?_⟩
  refine Option.bind_eq_some_iff.mpr ⟨_, hcolon _, ?_⟩
  refine Option.bind_eq_some_iff.mpr ⟨_, hfield (by omega) _, ?_⟩
  refine Option.bind_eq_some_iff.mpr ⟨_, hcolon _, ?_⟩
  refine Option.bind_eq_some_iff.mpr ⟨_, hfield (by omega) _, ?_⟩
  refine Option.bind_eq_some_iff.mpr ⟨_, fraction?_fractionText hnanos _, ?_⟩
  refine Option.bind_eq_some_iff.mpr ⟨_, hzone, ?_⟩
  simp only [sub_zero]
  rw [if_pos]
  · rfl
  · simp only [Bool.and_eq_true, decide_eq_true_eq, beq_iff_eq]
    exact ⟨⟨⟨⟨⟨⟨⟨rfl, hd⟩, hhour⟩, hminute⟩, hsecond⟩, by decide⟩, hyear⟩, hholds⟩

/-! ### Timestamps that can be named -/

/-- The instant whose date and time of day are written: a second earlier for a leap second. -/
def shown (t : Timestamp) : Instant := if t.leap then t.instant.plus (-Span.second) else t.instant

theorem shown_eq (t : Timestamp) :
    t.shown = t.instant.plus (if t.leap then -Span.second else 0) := by
  rw [shown]
  split_ifs
  · rfl
  · rw [Instant.plus, add_zero]

/-- The seconds of the shown instant since 1970. -/
def seconds (t : Timestamp) : Int := t.shown.nanos / Span.second

/-- The timestamp is inside the calendar, and a leap second comes at the end of its minute. -/
structure Nameable (t : Timestamp) : Prop where
  holds : Calendar.Holds t.shown
  leap : t.leap = true → t.seconds % 60 = 59

/-- The second of the day. -/
def inDay (t : Timestamp) : Nat := (t.seconds % 86400).toNat

/-- The nanoseconds of the second. -/
def inSecond (t : Timestamp) : Nat := (t.shown.nanos % Span.second).toNat

/-- The numbers of a timestamp's text. -/
theorem toList_text (t : Timestamp) :
    t.text.toList = spelled (.ofDays (t.seconds / 86400)) (t.inDay / 3600) (t.inDay / 60 % 60)
      (t.inDay % 60 + if t.leap then 1 else 0) t.inSecond := by
  have hshown : (if t.leap then t.instant.nanos - Span.second else t.instant.nanos) =
      t.shown.nanos := by
    rw [shown]
    split <;> rfl
  have hseconds : t.shown.nanos.fdiv Span.second = t.seconds :=
    Int.fdiv_eq_ediv_of_nonneg _ (by decide)
  have hdays : t.seconds.fdiv 86400 = t.seconds / 86400 := Int.fdiv_eq_ediv_of_nonneg _ (by decide)
  have hinDay : (t.seconds - t.seconds / 86400 * 86400).toNat = t.inDay := by
    rw [inDay, Int.emod_def, Int.mul_comm]
  have hinSecond : (t.shown.nanos - t.seconds * Span.second).toNat = t.inSecond := by
    rw [inSecond, Int.emod_def, Int.mul_comm, seconds]
  simp only [text, dateTimeText, hshown, hseconds, hdays, hinDay, hinSecond, String.toList_append,
    toList_yearText, toList_padded, spelled]
  simp

theorem inDay_lt (t : Timestamp) : t.inDay < 86400 := by
  rw [inDay]
  omega

theorem inSecond_lt (t : Timestamp) : t.inSecond < 1000000000 := by
  rw [inSecond, Span.second]
  omega

/-- The parts of a timestamp come to its instant. -/
theorem instantOf_parts (t : Timestamp) :
    instantOf (.ofDays (t.seconds / 86400)) (t.inDay / 3600) (t.inDay / 60 % 60)
      (t.inDay % 60 + if t.leap then 1 else 0) t.inSecond = t.instant := by
  have hday : t.seconds / 86400 * 86400 + t.inDay = t.seconds := by
    rw [inDay]
    omega
  have hsecond : t.seconds * Span.second + t.inSecond = t.shown.nanos := by
    rw [inSecond, seconds, Span.second]
    omega
  have hclock : ((t.inDay / 3600 : Nat) : Int) * 3600 + (t.inDay / 60 % 60 : Nat) * 60 +
      (t.inDay % 60 : Nat) = t.inDay := by
    omega
  have hshown : t.shown.nanos + (if t.leap then Span.second else 0) = t.instant.nanos := by
    rw [shown]
    split_ifs <;> simp
  rw [Instant.ext_iff', instantOf, Date.toDays_ofDays]
  split_ifs at hshown ⊢
  · push_cast at hclock ⊢
    linear_combination hshown + hsecond + Span.second * (hday + hclock)
  · push_cast at hclock ⊢
    linear_combination hshown + hsecond + Span.second * (hday + hclock)

/-- The sixty-first second is written for leap seconds alone. -/
theorem Nameable.second_eq_sixty_iff {t : Timestamp} (h : t.Nameable) :
    t.inDay % 60 + (if t.leap then 1 else 0) = 60 ↔ t.leap = true := by
  have hlast := h.leap
  rw [inDay]
  split_ifs with hleap
  · have hminute := hlast hleap
    exact iff_of_true (by omega) hleap
  · exact iff_of_false (by omega) hleap

/-- The days of the calendar. -/
theorem Nameable.days_bounds {t : Timestamp} (h : t.Nameable) :
    -96465292 ≤ t.seconds / 86400 ∧ t.seconds / 86400 ≤ 95026236 := by
  obtain ⟨hlow, hhigh⟩ := h.holds
  simp only [Calendar.first, Calendar.last, Instant.le_iff] at hlow hhigh
  rw [seconds, Span.second]
  omega

/-- A timestamp is read back from its text. -/
theorem Nameable.parse?_text {t : Timestamp} (h : t.Nameable) : parse? t.text = some t := by
  have hdays := h.days_bounds
  have hinDay := t.inDay_lt
  have hsixty := h.second_eq_sixty_iff
  rw [← t.text.ofList_toList, toList_text, parse?_spelled, instantOf_parts]
  · have hmark : (t.inDay % 60 + (if t.leap then 1 else 0) == 60) = t.leap := by
      rw [Bool.eq_iff_iff, beq_iff_eq, hsixty]
    rw [hmark]
  · exact Date.isValid_ofDays _
  · exact Date.year_ofDays_bounds hdays.1 hdays.2
  · omega
  · omega
  · split_ifs <;> omega
  · exact t.inSecond_lt
  · rw [instantOf_parts]
    simp only [hsixty]
    rw [← shown_eq]
    exact h.holds

theorem nameable_ofInstant {t : Instant} (h : Calendar.Holds t) : (ofInstant t).Nameable :=
  ⟨h, fun hleap => nomatch hleap⟩

/-! ### Only timestamps that can be named are read -/

theorem valueOf_lt {ds : List Char} (h : ∀ c ∈ ds, c.isDigit = true) :
    valueOf ds < 10 ^ ds.length := by
  induction ds using List.reverseRecOn with
  | nil => decide
  | append_singleton ds c ih =>
    have hc := h c (List.mem_append_right _ List.mem_cons_self)
    have hds := ih fun d hd => h d (List.mem_append_left _ hd)
    rw [Char.isDigit_iff_toNat] at hc
    have hhigh : '9'.toNat = 57 := rfl
    rw [List.length_append, List.length_singleton, Nat.pow_succ]
    simp only [valueOf, List.foldl_append, List.foldl_cons, List.foldl_nil] at hds ⊢
    omega

theorem digits?_eq_some {most n : Nat} {cs rest : List Char}
    (h : digits? most cs = some (n, rest)) :
    ∃ k, k ≤ most ∧ k ≤ cs.length ∧ n < 10 ^ k ∧ rest = cs.drop k := by
  rw [digits?] at h
  split at h
  · nomatch h
  · obtain ⟨rfl, rfl⟩ := Prod.mk.inj (Option.some.inj h)
    have hlen := (List.takeWhile_prefix Char.isDigit (l := cs.take most)).length_le
    refine ⟨_, ?_, ?_, valueOf_lt fun c hc => ?_, rfl⟩
    · exact hlen.trans (List.length_take_le _ _)
    · exact hlen.trans (List.length_take_le' _ _)
    · exact List.all_eq_true.mp List.all_takeWhile c hc

/-- A fraction is less than a second. -/
theorem fraction?_lt {cs rest : List Char} {n : Nat} (h : fraction? cs = some (n, rest)) :
    n < 1000000000 := by
  rw [fraction?.eq_def] at h
  split at h
  · next r =>
    obtain ⟨⟨m, rest'⟩, hdigits, heq⟩ := Option.map_eq_some_iff.mp h
    obtain ⟨k, hk, hlen, hm, rfl⟩ := digits?_eq_some hdigits
    obtain ⟨rfl, -⟩ := Prod.mk.inj heq
    rw [List.length_drop, show r.length - (r.length - k) = k by omega]
    calc m * 10 ^ (9 - k) < 10 ^ k * 10 ^ (9 - k) :=
          Nat.mul_lt_mul_of_pos_right hm (Nat.pow_pos (by decide))
      _ = 1000000000 := by rw [← Nat.pow_add, show k + (9 - k) = 9 by omega]
  · obtain ⟨rfl, -⟩ := Prod.mk.inj (Option.some.inj h)
    decide

/-- Offsets are whole minutes. -/
theorem offset?_dvd {cs rest : List Char} {o : Int} (h : offset? cs = some (o, rest)) : 60 ∣ o := by
  have hsigned (sign : Int) (r : List Char)
      (h : ((pair? r).bind fun hours =>
        (pair? (hours.2.dropWhile fun c => c = ':' || Text.isBlank c)).bind fun minutes =>
          if minutes.1 ≤ 59 then some (sign * (hours.1 * 3600 + minutes.1 * 60), minutes.2)
          else none) = some (o, rest)) : 60 ∣ o := by
    obtain ⟨hours, -, h⟩ := Option.bind_eq_some_iff.mp h
    obtain ⟨minutes, -, h⟩ := Option.bind_eq_some_iff.mp h
    obtain ⟨-, h⟩ := Option.ite_none_right_eq_some.mp h
    obtain ⟨rfl, -⟩ := Prod.mk.inj (Option.some.inj h)
    exact Dvd.dvd.mul_left (by omega) sign
  rw [offset?.eq_def] at h
  dsimp only at h
  split at h
  · split_ifs at h
    · cases h; exact dvd_zero 60
    · cases h; exact dvd_zero 60
    · exact hsigned _ _ h
    · exact hsigned _ _ h
  · split_ifs at h
    cases h
    exact dvd_zero 60
  · cases h

theorem nameable_of_parse? {s : String} {t : Timestamp} (h : parse? s = some t) : t.Nameable := by
  obtain ⟨⟨year, r⟩, -, h⟩ := Option.bind_eq_some_iff.mp h
  obtain ⟨r, -, h⟩ := Option.bind_eq_some_iff.mp h
  obtain ⟨⟨month, r⟩, -, h⟩ := Option.bind_eq_some_iff.mp h
  obtain ⟨r, -, h⟩ := Option.bind_eq_some_iff.mp h
  obtain ⟨⟨day, r⟩, -, h⟩ := Option.bind_eq_some_iff.mp h
  obtain ⟨r, -, h⟩ := Option.bind_eq_some_iff.mp h
  obtain ⟨⟨hour, r⟩, -, h⟩ := Option.bind_eq_some_iff.mp h
  obtain ⟨r, -, h⟩ := Option.bind_eq_some_iff.mp h
  obtain ⟨⟨minute, r⟩, -, h⟩ := Option.bind_eq_some_iff.mp h
  obtain ⟨r, -, h⟩ := Option.bind_eq_some_iff.mp h
  obtain ⟨⟨second, r⟩, -, h⟩ := Option.bind_eq_some_iff.mp h
  obtain ⟨⟨nanos, r⟩, hnanos, h⟩ := Option.bind_eq_some_iff.mp h
  obtain ⟨⟨offset, r⟩, hoffset, h⟩ := Option.bind_eq_some_iff.mp h
  have hlt := fraction?_lt hnanos
  have hdvd := offset?_dvd hoffset
  obtain ⟨hcond, h⟩ := Option.ite_none_right_eq_some.mp h
  obtain rfl := Option.some.inj h
  clear h
  have hholds := decide_eq_true_eq.mp (Bool.and_eq_true_iff.mp hcond).2
  refine ⟨by rwa [shown_eq], fun hleap => ?_⟩
  obtain rfl : second = 60 := beq_iff_eq.mp hleap
  obtain ⟨minutes, rfl⟩ := hdvd
  simp only [seconds, shown, beq_self_eq_true, if_true, Instant.nanos_plus, Span.second]
  omega

end Turnstile.Timestamp
