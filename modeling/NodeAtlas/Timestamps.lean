import NodeAtlas.Decimal
import Mathlib.Data.List.Infix
import Mathlib.Data.List.TakeWhile
import Mathlib.Tactic.Ring

/-! The texts that time columns have on SQLite: `time.RFC3339Nano` in UTC. -/

set_option autoImplicit false

namespace NodeAtlas.Timestamps

/-! ## The calendar -/

/-- How many of the years before this one are leap years, year 0 included. -/
def leapsBefore (year : Nat) : Nat := (year + 3) / 4 - (year + 99) / 100 + (year + 399) / 400

/-- The days before a year, counted from the first day of year 0. -/
def yearStart (year : Nat) : Nat := 365 * year + leapsBefore year

def isLeap (year : Nat) : Bool := year % 4 = 0 && (year % 100 ≠ 0 || year % 400 = 0)

def daysIn (year : Nat) : Nat := if isLeap year then 366 else 365

/-- The year of a day; the mean length of years gives it but for one. -/
def yearOf (day : Nat) : Nat :=
  let guess := 400 * day / 146097
  if day < yearStart guess then guess - 1
  else if yearStart (guess + 1) ≤ day then guess + 1
  else guess

def monthLengths (leap : Bool) : List Nat :=
  [31, if leap then 29 else 28, 31, 30, 31, 30, 31, 31, 30, 31, 30, 31]

/-- The months that are over at a day of the year, and the days since. -/
def splitMonth : List Nat → Nat → Nat × Nat
  | [], day => (0, day)
  | first :: rest, day =>
      if day < first then (0, day)
      else ((splitMonth rest (day - first)).1 + 1, (splitMonth rest (day - first)).2)

def monthDay (day : Nat) : Nat × Nat :=
  splitMonth (monthLengths (isLeap (yearOf day))) (day - yearStart (yearOf day))

/-- `Date`, from the months and days that are over. -/
def dayNumber (year months days : Nat) : Nat :=
  yearStart year + ((monthLengths (isLeap year)).take months).sum + days

/-! ## Texts -/

def digit (value : Nat) : UInt8 := UInt8.ofNat (48 + value % 10)

/-- A number in a field of this width. -/
def pad : Nat → Nat → GoString
  | 0, _ => []
  | width + 1, value => pad width (value / 10) ++ [digit value]

/-- Digits without the zeros at their end. -/
def trimZeros (digits : GoString) : GoString :=
  (digits.reverse.dropWhile fun value => value = byte '0').reverse

/-- What `.999999999` keeps of the nanoseconds. -/
def fractionDigits (nanoseconds : Nat) : GoString := trimZeros (pad 9 nanoseconds)

def fraction (nanoseconds : Nat) : GoString :=
  if nanoseconds = 0 then [] else byte '.' :: fractionDigits nanoseconds

/-- Date and time to the second. -/
def secondText (second : Nat) : GoString :=
  let day := second / 86400
  let time := second % 86400
  pad 4 (yearOf day) ++ byte '-' :: (pad 2 ((monthDay day).1 + 1) ++ byte '-' ::
    (pad 2 ((monthDay day).2 + 1) ++ byte 'T' :: (pad 2 (time / 3600) ++ byte ':' ::
      (pad 2 (time / 60 % 60) ++ byte ':' :: pad 2 (time % 60)))))

/-- The first instant of year 0. -/
def yearZero : Int := -62167219200 * 10 ^ 9

/-- The seconds of the years 0 to 9999. -/
def seconds : Nat := 86400 * yearStart 10000

/-- `Format(time.RFC3339Nano)` of an instant of these years, in UTC. -/
def formatTime (instant : Instant) : GoString :=
  let since := (instant - yearZero).toNat
  secondText (since / 10 ^ 9) ++ (fraction (since % 10 ^ 9) ++ [byte 'Z'])

example : formatTime 0 = text "1970-01-01T00:00:00Z" := by decide

example : formatTime 1709164799120000000 = text "2024-02-28T23:59:59.12Z" := by decide

/-! ## Reading -/

/-- `parseUint` of `parseRFC3339`. -/
def parseUint (digits : GoString) (low high : Nat) : Option Nat :=
  if digits.all isDigit && low ≤ atoi digits && atoi digits ≤ high then some (atoi digits) else none

/-- `parseNanoseconds`: nine digits count. -/
def parseNanoseconds (digits : GoString) : Nat :=
  let counted := digits.take 9
  atoi counted * 10 ^ (9 - counted.length)

/-- The fraction of a second, if there is one, and the rest. -/
def parseFraction : GoString → Nat × GoString
  | first :: second :: rest =>
      if first = byte '.' && isDigit second then
        (parseNanoseconds ((second :: rest).takeWhile isDigit), (second :: rest).dropWhile isDigit)
      else (0, first :: second :: rest)
  | value => (0, value)

/-- The offset of a zone in seconds. -/
def parseZone (value : GoString) : Option Int :=
  match value with
  | [zulu] => if zulu = byte 'Z' then some 0 else none
  | [sign, h1, h0, colon, m1, m0] => do
      let hour ← parseUint [h1, h0] 0 23
      let minute ← parseUint [m1, m0] 0 59
      if colon ≠ byte ':' then none
      else if sign = byte '+' then some (((hour * 60 + minute) * 60 : Nat) : Int)
      else if sign = byte '-' then some (-((hour * 60 + minute) * 60 : Nat) : Int)
      else none
  | _ => none

def dateInstant (year month day hour minute second nanoseconds : Nat) : Int :=
  ((dayNumber year (month - 1) (day - 1) * 86400 + hour * 3600 + minute * 60 + second) * 10 ^ 9 +
    nanoseconds : Nat) + yearZero

def parseRFC3339 : GoString → Option Instant
  | y3 :: y2 :: y1 :: y0 :: dash :: o1 :: o0 :: hyphen :: d1 :: d0 :: tee :: h1 :: h0 :: colon :: m1 :: m0 ::
      mark :: s1 :: s0 :: rest => do
      let year ← parseUint [y3, y2, y1, y0] 0 9999
      let month ← parseUint [o1, o0] 1 12
      let day ← parseUint [d1, d0] 1 ((monthLengths (isLeap year)).getD (month - 1) 0)
      let hour ← parseUint [h1, h0] 0 23
      let minute ← parseUint [m1, m0] 0 59
      let second ← parseUint [s1, s0] 0 59
      if dash = byte '-' && hyphen = byte '-' && tee = byte 'T' && colon = byte ':' && mark = byte ':' then
        let (nanoseconds, zone) := parseFraction rest
        let offset ← parseZone zone
        some (dateInstant year month day hour minute second nanoseconds - offset * 10 ^ 9)
      else none
  | _ => none

/-- `parseTime`; `lenient` is what `time.Parse` makes of other texts and of the
other two layouts. -/
def parseTime (lenient : GoString → Option Instant) (value : GoString) : Option Instant :=
  (parseRFC3339 value).or (lenient value)

example : parseRFC3339 (text "2024-02-28T23:59:59.12+01:00") = some (1709164799120000000 - 3600 * 10 ^ 9) := by
  decide

/-! ## Dates -/

theorem yearStart_succ (year : Nat) : yearStart (year + 1) = yearStart year + daysIn year := by
  have fours : (year + 1 + 3) / 4 = (year + 3) / 4 + if year % 4 = 0 then 1 else 0 := by
    split <;> omega
  have hundreds : (year + 1 + 99) / 100 = (year + 99) / 100 + if year % 100 = 0 then 1 else 0 := by
    split <;> omega
  have further : (year + 1 + 399) / 400 = (year + 399) / 400 + if year % 400 = 0 then 1 else 0 := by
    split <;> omega
  have rarer : (year + 99) / 100 ≤ (year + 3) / 4 := by omega
  unfold daysIn yearStart leapsBefore
  rw [fours, hundreds, further]
  generalize (year + 3) / 4 = four at rarer ⊢
  generalize (year + 99) / 100 = hundred at rarer ⊢
  generalize (year + 399) / 400 = later
  by_cases fourth : year % 4 = 0
  · by_cases hundredth : year % 100 = 0
    · by_cases last : year % 400 = 0
      · have leap : isLeap year = true := by simp [isLeap, fourth, last]
        rw [if_pos fourth, if_pos hundredth, if_pos last, if_pos leap]
        omega
      · have common : ¬ isLeap year = true := by simp [isLeap, hundredth, last]
        rw [if_pos fourth, if_pos hundredth, if_neg last, if_neg common]
        omega
    · have leap : isLeap year = true := by simp [isLeap, fourth, hundredth]
      rw [if_pos fourth, if_neg hundredth, if_neg (by omega), if_pos leap]
      omega
  · have common : ¬ isLeap year = true := by simp [isLeap, fourth]
    rw [if_neg fourth, if_neg (by omega), if_neg (by omega), if_neg common]
    omega

/-- Years have their mean length, give or take a day or two. -/
private theorem yearStart_mean (year : Nat) :
    146097 * year ≤ 400 * yearStart year + 396 ∧ 400 * yearStart year ≤ 146097 * year + 699 := by
  unfold yearStart leapsBefore
  omega

theorem yearOf_spec (day : Nat) : yearStart (yearOf day) ≤ day ∧ day < yearStart (yearOf day + 1) := by
  have mean := yearStart_mean
  unfold yearOf
  dsimp only
  generalize guessed : 400 * day / 146097 = guess
  have near : 146097 * guess ≤ 400 * day ∧ 400 * day < 146097 * (guess + 1) := by omega
  have this_ := mean guess
  have next := mean (guess + 1)
  have further := mean (guess + 2)
  split
  · next late =>
      have positive : 0 < guess := by
        by_contra none_
        have zero : guess = 0 := by omega
        rw [zero] at late
        exact absurd late (Nat.not_lt_zero day)
      obtain ⟨before, rfl⟩ : ∃ before, guess = before + 1 := ⟨guess - 1, by omega⟩
      have former := mean before
      have same : before + 1 - 1 = before := by omega
      rw [same]
      constructor
      · omega
      · exact late
  · next reached =>
      split
      · next early =>
          constructor
          · exact early
          · have same : guess + 1 + 1 = guess + 2 := by omega
            rw [same]
            omega
      · next early =>
          constructor
          · omega
          · omega

private theorem yearStart_mono (first second : Nat) (ordered : first ≤ second) :
    yearStart first ≤ yearStart second := by
  induction second with
  | zero =>
      have zero : first = 0 := by omega
      rw [zero]
  | succ second ih =>
      by_cases same : first = second + 1
      · rw [same]
      · have earlier := ih (by omega)
        rw [yearStart_succ]
        omega

private theorem splitMonth_spec {lengths : List Nat} (day : Nat) (inside : day < lengths.sum) :
    (splitMonth lengths day).1 < lengths.length ∧
      (splitMonth lengths day).2 < lengths.getD (splitMonth lengths day).1 0 ∧
      (lengths.take (splitMonth lengths day).1).sum + (splitMonth lengths day).2 = day := by
  induction lengths generalizing day with
  | nil => simp at inside
  | cons first rest ih =>
      unfold splitMonth
      split
      · next here => exact ⟨by simp, by simpa using here, by simp⟩
      · next later =>
          have further := ih (day - first) (by simp at inside; omega)
          refine ⟨by simpa using further.1, by simpa using further.2.1, ?_⟩
          simp only [List.take_succ_cons, List.sum_cons]
          omega

private theorem splitMonth_order {lengths : List Nat} (first second : Nat) (ordered : first < second)
    (inside : second < lengths.sum) :
    (splitMonth lengths first).1 < (splitMonth lengths second).1 ∨
      ((splitMonth lengths first).1 = (splitMonth lengths second).1 ∧
        (splitMonth lengths first).2 < (splitMonth lengths second).2) := by
  induction lengths generalizing first second with
  | nil => simp at inside
  | cons length rest ih =>
      unfold splitMonth
      by_cases here : first < length
      · by_cases also : second < length
        · simp [here, also, ordered]
        · simp [here, also]
      · have later : ¬ second < length := by omega
        simp only [here, later, if_false]
        have further := ih (first - length) (second - length) (by omega)
          (by simp at inside; omega)
        omega

private theorem monthLengths_sum (year : Nat) : (monthLengths (isLeap year)).sum = daysIn year := by
  unfold daysIn
  cases isLeap year <;> rfl

private theorem day_inside (day : Nat) :
    day - yearStart (yearOf day) < (monthLengths (isLeap (yearOf day))).sum := by
  have spec := yearOf_spec day
  rw [yearStart_succ] at spec
  rw [monthLengths_sum]
  omega

/-- The date of a day is a date, and leads back to it. -/
theorem monthDay_spec (day : Nat) :
    (monthDay day).1 < 12 ∧ (monthDay day).2 < (monthLengths (isLeap (yearOf day))).getD (monthDay day).1 0 ∧
      dayNumber (yearOf day) (monthDay day).1 (monthDay day).2 = day := by
  have split := splitMonth_spec _ (day_inside day)
  have spec := yearOf_spec day
  refine ⟨split.1, split.2.1, ?_⟩
  have total := split.2.2
  unfold dayNumber monthDay
  omega

private theorem year_order {first second : Nat} (ordered : first < second) :
    yearOf first ≤ yearOf second := by
  have former := yearOf_spec first
  have latter := yearOf_spec second
  by_contra reversed
  have later := yearStart_mono (yearOf second + 1) (yearOf first) (by omega)
  omega

theorem date_order {first second : Nat} (ordered : first < second) :
    yearOf first < yearOf second ∨ (yearOf first = yearOf second ∧
      ((monthDay first).1 < (monthDay second).1 ∨
        ((monthDay first).1 = (monthDay second).1 ∧ (monthDay first).2 < (monthDay second).2))) := by
  rcases Nat.lt_or_eq_of_le (year_order ordered) with before | same
  · exact .inl before
  · refine .inr ⟨same, ?_⟩
    have begun := (yearOf_spec first).1
    have inside := day_inside second
    unfold monthDay
    rw [← same] at inside ⊢
    apply splitMonth_order _ _ _ inside
    omega

/-! ## The order of the texts -/

private theorem compare_digit {first second : Nat} :
    compare (digit first) (digit second) = compare (first % 10) (second % 10) := by
  have every : ∀ a b : Fin 10, compare (UInt8.ofNat (48 + a.val)) (UInt8.ofNat (48 + b.val)) = compare a.val b.val := by
    decide
  exact every ⟨first % 10, Nat.mod_lt _ (by omega)⟩ ⟨second % 10, Nat.mod_lt _ (by omega)⟩

/-- Quotient and rest compare as the number does. -/
private theorem compare_split (base : Nat) (positive : 0 < base) (first second : Nat) :
    (compare (first / base) (second / base)).then (compare (first % base) (second % base)) =
      compare first second := by
  have former := Nat.div_add_mod first base
  have latter := Nat.div_add_mod second base
  have restFirst := Nat.mod_lt first positive
  have restSecond := Nat.mod_lt second positive
  generalize first / base = q at former ⊢
  generalize second / base = p at latter ⊢
  generalize first % base = r at former restFirst ⊢
  generalize second % base = u at latter restSecond ⊢
  subst former latter
  rcases Nat.lt_trichotomy q p with before | rfl | after
  · have step : base * (q + 1) ≤ base * p := Nat.mul_le_mul_left _ before
    rw [Nat.mul_add] at step
    rw [Nat.compare_eq_lt.mpr before, eq_comm]
    apply Nat.compare_eq_lt.mpr
    omega
  · rw [Nat.compare_eq_eq.mpr rfl, Ordering.eq_then, Nat.compare_eq_ite_lt, Nat.compare_eq_ite_lt]
    simp only [Nat.add_lt_add_iff_left]
  · have step : base * (p + 1) ≤ base * q := Nat.mul_le_mul_left _ after
    rw [Nat.mul_add] at step
    rw [Nat.compare_eq_gt.mpr after, eq_comm]
    apply Nat.compare_eq_gt.mpr
    omega

private theorem compare_pad {width first second : Nat} (firstFits : first < 10 ^ width)
    (secondFits : second < 10 ^ width) (left right : GoString) :
    compare (pad width first ++ left) (pad width second ++ right) =
      (compare first second).then (compare left right) := by
  induction width generalizing first second left right with
  | zero =>
      have zeros : first = 0 ∧ second = 0 := by omega
      rw [zeros.1, zeros.2]
      rfl
  | succ width ih =>
      rw [Nat.pow_succ] at firstFits secondFits
      simp only [pad, List.append_assoc, List.singleton_append]
      rw [ih (by omega) (by omega), List.compare_cons_cons, compare_digit, ← Ordering.then_assoc,
        compare_split 10 (by omega)]

private theorem compare_mark (mark : UInt8) (left right : GoString) :
    compare (mark :: left) (mark :: right) = compare left right := by
  rw [List.compare_cons_cons, Std.ReflOrd.compare_self, Ordering.eq_then]

private theorem compare_date (first second : Nat) :
    (compare (yearOf first) (yearOf second)).then
      ((compare ((monthDay first).1 + 1) ((monthDay second).1 + 1)).then
        (compare ((monthDay first).2 + 1) ((monthDay second).2 + 1))) = compare first second := by
  rcases Nat.lt_trichotomy first second with before | rfl | after
  · rw [Nat.compare_eq_lt.mpr before]
    rcases date_order before with earlier | ⟨same, earlier | ⟨alike, earlier⟩⟩
    · rw [Nat.compare_eq_lt.mpr earlier]
      rfl
    · rw [same, Nat.compare_eq_eq.mpr rfl, Nat.compare_eq_lt.mpr (Nat.succ_lt_succ earlier)]
      rfl
    · rw [same, alike, Nat.compare_eq_eq.mpr rfl, Nat.compare_eq_eq.mpr rfl,
        Nat.compare_eq_lt.mpr (Nat.succ_lt_succ earlier)]
      rfl
  · simp only [Nat.compare_eq_eq.mpr, Ordering.eq_then]
  · rw [Nat.compare_eq_gt.mpr after]
    rcases date_order after with earlier | ⟨same, earlier | ⟨alike, earlier⟩⟩
    · rw [Nat.compare_eq_gt.mpr earlier]
      rfl
    · rw [same, Nat.compare_eq_eq.mpr rfl, Nat.compare_eq_gt.mpr (Nat.succ_lt_succ earlier)]
      rfl
    · rw [same, alike, Nat.compare_eq_eq.mpr rfl, Nat.compare_eq_eq.mpr rfl,
        Nat.compare_eq_gt.mpr (Nat.succ_lt_succ earlier)]
      rfl

private theorem compare_time (first second : Nat) :
    (compare (first / 3600) (second / 3600)).then
      ((compare (first / 60 % 60) (second / 60 % 60)).then (compare (first % 60) (second % 60))) =
      compare first second := by
  have minutes := compare_split 60 (by omega) (first / 60) (second / 60)
  simp only [Nat.div_div_eq_div_mul] at minutes
  rw [← Ordering.then_assoc, minutes, compare_split 60 (by omega)]

private theorem year_fits {second : Nat} (dated : second < seconds) : yearOf (second / 86400) < 10 ^ 4 := by
  have spec := (yearOf_spec (second / 86400)).1
  by_contra late
  have later := yearStart_mono 10000 (yearOf (second / 86400)) (by omega)
  unfold seconds at dated
  omega

private theorem month_fits (day : Nat) : (monthDay day).1 + 1 < 10 ^ 2 ∧ (monthDay day).2 + 1 < 10 ^ 2 := by
  have spec := monthDay_spec day
  have lengths : ∀ leap : Bool, ∀ month : Fin 12, (monthLengths leap).getD month 0 ≤ 31 := by decide
  have short : (monthLengths (isLeap (yearOf day))).getD (monthDay day).1 0 ≤ 31 :=
    lengths _ ⟨_, spec.1⟩
  omega

/-- To the second, texts compare as times do. -/
theorem compare_second {first second : Nat} (firstDated : first < seconds) (secondDated : second < seconds)
    (left right : GoString) :
    compare (secondText first ++ left) (secondText second ++ right) =
      (compare first second).then (compare left right) := by
  have firstMonth := month_fits (first / 86400)
  have secondMonth := month_fits (second / 86400)
  have day := compare_date (first / 86400) (second / 86400)
  have time := compare_time (first % 86400) (second % 86400)
  have whole := compare_split 86400 (by omega) first second
  unfold secondText
  simp only [List.append_assoc, List.cons_append]
  rw [compare_pad (year_fits firstDated) (year_fits secondDated), compare_mark,
    compare_pad firstMonth.1 secondMonth.1, compare_mark, compare_pad firstMonth.2 secondMonth.2, compare_mark,
    compare_pad (by omega) (by omega), compare_mark, compare_pad (by omega) (by omega), compare_mark,
    compare_pad (by omega) (by omega)]
  rw [← whole, ← day, ← time]
  simp only [Ordering.then_assoc]

/-! ## Fractions of a second -/

/-- The earlier number is the later one with digits from some place on replaced by zeros. -/
def Cut (places earlier later : Nat) : Prop :=
  ∃ dropped, dropped ≤ places ∧ earlier = later - later % 10 ^ dropped

private theorem pad_head (width value : Nat) :
    pad (width + 1) value = digit (value / 10 ^ width) :: pad width value := by
  induction width generalizing value with
  | zero => simp [pad]
  | succ width ih =>
      rw [pad, ih, Nat.div_div_eq_div_mul, ← Nat.pow_succ']
      rfl

private theorem digit_mod (value : Nat) : digit (value % 10) = digit value := by
  unfold digit
  rw [Nat.mod_mod]

private theorem pad_mod (width value : Nat) : pad width (value % 10 ^ width) = pad width value := by
  induction width generalizing value with
  | zero => rfl
  | succ width ih =>
      have quotient : value % 10 ^ (width + 1) / 10 = value / 10 % 10 ^ width := by
        rw [Nat.pow_succ', Nat.mod_mul_right_div_self]
      have rest : value % 10 ^ (width + 1) % 10 = value % 10 := by
        rw [Nat.pow_succ', Nat.mod_mul_right_mod]
      rw [pad, pad, quotient, ih, ← digit_mod (value % 10 ^ (width + 1)), rest, digit_mod]

private theorem trimZeros_cons (head : UInt8) (tail : GoString) :
    trimZeros (head :: tail) =
      if trimZeros tail = [] then (if head = byte '0' then [] else [head]) else head :: trimZeros tail := by
  unfold trimZeros
  rw [List.reverse_cons, List.dropWhile_append]
  simp only [List.isEmpty_iff, List.reverse_eq_nil_iff]
  split
  · by_cases zero : head = byte '0'
    · simp [zero]
    · simp [zero]
  · simp

private theorem digit_zero {value : Nat} (zero : digit value = byte '0') : value % 10 = 0 := by
  have every : ∀ a : Fin 10, UInt8.ofNat (48 + a.val) = byte '0' → a.val = 0 := by decide
  exact every ⟨value % 10, Nat.mod_lt _ (by omega)⟩ zero

private theorem trimmed_empty {width value : Nat} (fits : value < 10 ^ width) :
    trimZeros (pad width value) = [] ↔ value = 0 := by
  induction width generalizing value with
  | zero =>
      have zero : value = 0 := by omega
      simp [zero, pad, trimZeros]
  | succ width ih =>
      have power : 0 < 10 ^ width := Nat.pow_pos (by omega)
      rw [Nat.pow_succ'] at fits
      have head : value / 10 ^ width < 10 := Nat.div_lt_of_lt_mul (by omega)
      have whole := Nat.div_add_mod value (10 ^ width)
      have rest : trimZeros (pad width (value % 10 ^ width)) = [] ↔ value % 10 ^ width = 0 :=
        ih (Nat.mod_lt _ power)
      rw [pad_head, trimZeros_cons, ← pad_mod]
      constructor
      · intro empty
        split at empty
        · next blank =>
            rw [rest.mp blank] at whole
            split at empty
            · next zero =>
                have leading := digit_zero zero
                rw [Nat.mod_eq_of_lt head] at leading
                rw [leading] at whole
                exact whole.symm
            · cases empty
        · cases empty
      · intro zero
        rw [if_pos (rest.mpr (by rw [zero, Nat.zero_mod])), zero, Nat.zero_div]
        rfl

private theorem trimmed_head {width value : Nat} (fits : value < 10 ^ (width + 1)) (some_ : value ≠ 0) :
    trimZeros (pad (width + 1) value) =
      digit (value / 10 ^ width) :: trimZeros (pad width (value % 10 ^ width)) := by
  have filled := mt (trimmed_empty fits).mp some_
  rw [pad_head, trimZeros_cons] at filled ⊢
  rw [pad_mod]
  split
  · next rest =>
      rw [if_pos rest] at filled
      split at filled
      · exact absurd rfl filled
      · next zero => rw [if_neg zero, rest]
  · rfl

private theorem digit_zulu (value : Nat) : compare (byte 'Z') (digit value) = .gt := by
  have every : ∀ a : Fin 10, compare (byte 'Z') (UInt8.ofNat (48 + a.val)) = .gt := by decide
  exact every ⟨value % 10, Nat.mod_lt _ (by omega)⟩

private theorem cut_few {places earlier later : Nat} (fits : later < 10 ^ (places + 1)) (some_ : earlier ≠ 0) :
    Cut (places + 1) earlier later ↔ Cut places earlier later := by
  constructor
  · rintro ⟨dropped, few, cut⟩
    rcases Nat.lt_or_eq_of_le few with fewer | rfl
    · exact ⟨dropped, by omega, cut⟩
    · rw [Nat.mod_eq_of_lt fits] at cut
      omega
  · rintro ⟨dropped, few, cut⟩
    exact ⟨dropped, by omega, cut⟩

private theorem mod_lower {places dropped : Nat} (few : dropped ≤ places) (quotient rest : Nat) :
    (10 ^ places * quotient + rest) % 10 ^ dropped = rest % 10 ^ dropped := by
  obtain ⟨factor, whole⟩ := Nat.pow_dvd_pow 10 few
  rw [whole, Nat.mul_assoc, Nat.mul_add_mod]

private theorem cut_rest (places quotient small large : Nat) :
    Cut places (10 ^ places * quotient + small) (10 ^ places * quotient + large) ↔
      Cut places small large := by
  constructor
  · rintro ⟨dropped, few, cut⟩
    have least := Nat.mod_le large (10 ^ dropped)
    rw [mod_lower few] at cut
    exact ⟨dropped, few, by omega⟩
  · rintro ⟨dropped, few, cut⟩
    have least := Nat.mod_le large (10 ^ dropped)
    refine ⟨dropped, few, ?_⟩
    rw [mod_lower few]
    omega

private theorem cut_head {places quotient other small large : Nat} (fits : small < 10 ^ places)
    (before : quotient < other) :
    ¬ Cut places (10 ^ places * quotient + small) (10 ^ places * other + large) := by
  rintro ⟨dropped, few, cut⟩
  have step : 10 ^ places * (quotient + 1) ≤ 10 ^ places * other := Nat.mul_le_mul_left _ before
  have least := Nat.mod_le large (10 ^ dropped)
  rw [Nat.mul_add] at step
  rw [mod_lower few] at cut
  omega

/-- Before the mark of the zone, digits without zeros at the end compare as the
numbers do, but for numbers that are cut. -/
private theorem compare_trimmed {places earlier later : Nat} (ordered : earlier < later)
    (fits : later < 10 ^ places) :
    compare (trimZeros (pad places earlier) ++ [byte 'Z']) (trimZeros (pad places later) ++ [byte 'Z']) = .lt ↔
      ¬ Cut places earlier later := by
  induction places generalizing earlier later with
  | zero => omega
  | succ places ih =>
      have power : 0 < 10 ^ places := Nat.pow_pos (by omega)
      rw [trimmed_head fits (by omega)]
      by_cases zero : earlier = 0
      · have all : Cut (places + 1) earlier later := ⟨places + 1, by omega, by rw [Nat.mod_eq_of_lt fits]; omega⟩
        rw [(trimmed_empty (by omega)).mpr zero, List.nil_append, List.cons_append, List.compare_cons_cons,
          digit_zulu]
        simp [all]
      · rw [cut_few fits zero, trimmed_head (by omega) zero, List.cons_append, List.cons_append,
          List.compare_cons_cons, compare_digit]
        rw [Nat.pow_succ'] at fits
        have head : later / 10 ^ places < 10 := Nat.div_lt_of_lt_mul (by omega)
        have heads : earlier / 10 ^ places ≤ later / 10 ^ places := Nat.div_le_div_right (by omega)
        rw [Nat.mod_eq_of_lt head, Nat.mod_eq_of_lt (by omega)]
        have former := Nat.div_add_mod earlier (10 ^ places)
        have latter := Nat.div_add_mod later (10 ^ places)
        have restFormer := Nat.mod_lt earlier power
        have restLatter := Nat.mod_lt later power
        generalize earlier / 10 ^ places = q at *
        generalize later / 10 ^ places = p at *
        generalize earlier % 10 ^ places = r at *
        generalize later % 10 ^ places = u at *
        subst former latter
        rcases Nat.lt_or_eq_of_le heads with before | rfl
        · rw [Nat.compare_eq_lt.mpr before]
          simp [cut_head restFormer before]
        · rw [Nat.compare_eq_eq.mpr rfl, Ordering.eq_then, ih (by omega) restLatter, cut_rest]

/-- `Format` puts the fraction between the seconds and the mark of the zone. -/
theorem compare_fraction {earlier later : Nat} (ordered : earlier < later) (fits : later < 10 ^ 9) :
    compare (fraction earlier ++ [byte 'Z']) (fraction later ++ [byte 'Z']) = .lt ↔ ¬ Cut 9 earlier later := by
  have some_ : later ≠ 0 := by omega
  by_cases zero : earlier = 0
  · have all : Cut 9 earlier later := ⟨9, by omega, by rw [Nat.mod_eq_of_lt fits]; omega⟩
    have reversed : compare (byte 'Z') (byte '.') = .gt := by decide
    simp only [fraction, zero, some_, if_true, if_false, List.nil_append, List.cons_append,
      List.compare_cons_cons, reversed]
    rw [zero] at all
    simp [all]
  · simp only [fraction, zero, some_, if_false, List.cons_append, compare_mark]
    exact compare_trimmed ordered fits

/-! ## Reading the texts back -/

private theorem digit_value (value : Nat) : (digit value).toNat - '0'.toNat = value % 10 := by
  have every : ∀ a : Fin 10, (UInt8.ofNat (48 + a.val)).toNat - '0'.toNat = a.val := by decide
  exact every ⟨value % 10, Nat.mod_lt _ (by omega)⟩

private theorem digit_digit (value : Nat) : isDigit (digit value) = true := by
  have every : ∀ a : Fin 10, isDigit (UInt8.ofNat (48 + a.val)) = true := by decide
  exact every ⟨value % 10, Nat.mod_lt _ (by omega)⟩

private theorem atoi_pad {width value : Nat} (fits : value < 10 ^ width) : atoi (pad width value) = value := by
  induction width generalizing value with
  | zero =>
      have zero : value = 0 := by omega
      rw [zero]
      rfl
  | succ width ih =>
      rw [Nat.pow_succ] at fits
      rw [pad, atoi_concat, digit_value, ih (by omega)]
      exact Nat.div_add_mod value 10

private theorem pad_digits (width value : Nat) : (pad width value).all isDigit = true := by
  induction width generalizing value with
  | zero => rfl
  | succ width ih => simp [pad, ih, digit_digit]

private theorem parseUint_pad {width value low high : Nat} (fits : value < 10 ^ width) (least : low ≤ value)
    (most : value ≤ high) : parseUint (pad width value) low high = some value := by
  simp [parseUint, pad_digits, atoi_pad fits, least, most]

private theorem trimZeros_spec (digits : GoString) :
    ∃ dropped, digits = trimZeros digits ++ List.replicate dropped (byte '0') := by
  have whole := List.takeWhile_append_dropWhile (p := fun value => decide (value = byte '0')) (l := digits.reverse)
  refine ⟨(digits.reverse.takeWhile fun value => value = byte '0').length, ?_⟩
  have zeros : digits.reverse.takeWhile (fun value => value = byte '0') =
      List.replicate (digits.reverse.takeWhile fun value => value = byte '0').length (byte '0') := by
    apply List.eq_replicate_iff.mpr
    refine ⟨rfl, ?_⟩
    intro value member
    simpa using List.mem_takeWhile_imp member
  rw [← List.reverse_inj, List.reverse_append, List.reverse_replicate, ← zeros, trimZeros, List.reverse_reverse]
  exact whole.symm

private theorem atoi_zeros (digits : GoString) (dropped : Nat) :
    atoi (digits ++ List.replicate dropped (byte '0')) = atoi digits * 10 ^ dropped := by
  induction dropped with
  | zero => simp
  | succ dropped ih =>
      rw [List.replicate_succ', ← List.append_assoc, atoi_concat, ih, Nat.pow_succ]
      have zero : (byte '0').toNat - '0'.toNat = 0 := by decide
      rw [zero]
      ring

private theorem pad_length (width value : Nat) : (pad width value).length = width := by
  induction width generalizing value with
  | zero => rfl
  | succ width ih => simp [pad, ih]

/-- Nanoseconds survive the loss of zeros. -/
private theorem parseNanoseconds_trimmed {nanoseconds : Nat} (fits : nanoseconds < 10 ^ 9) :
    parseNanoseconds (fractionDigits nanoseconds) = nanoseconds := by
  obtain ⟨dropped, whole⟩ := trimZeros_spec (pad 9 nanoseconds)
  have size := congrArg List.length whole
  rw [pad_length, List.length_append, List.length_replicate] at size
  have value := congrArg atoi whole
  rw [atoi_pad fits, atoi_zeros] at value
  unfold parseNanoseconds fractionDigits
  have short : (trimZeros (pad 9 nanoseconds)).length ≤ 9 := by omega
  have rest : 9 - (trimZeros (pad 9 nanoseconds)).length = dropped := by omega
  simp only [List.take_of_length_le short]
  rw [rest]
  exact value.symm

private theorem fraction_digits (nanoseconds : Nat) (value : UInt8) (member : value ∈ fractionDigits nanoseconds) :
    isDigit value = true := by
  obtain ⟨dropped, whole⟩ := trimZeros_spec (pad 9 nanoseconds)
  have all := pad_digits 9 nanoseconds
  rw [whole] at all
  exact List.all_eq_true.mp all value (List.mem_append_left _ member)

private theorem parseFraction_fraction {nanoseconds : Nat} (fits : nanoseconds < 10 ^ 9) :
    parseFraction (fraction nanoseconds ++ [byte 'Z']) = (nanoseconds, [byte 'Z']) := by
  unfold fraction
  split
  · next zero =>
      rw [zero]
      rfl
  · next some_ =>
      have filled := mt (trimmed_empty fits).mp some_
      have digits := fraction_digits nanoseconds
      have value := parseNanoseconds_trimmed fits
      unfold fractionDigits at digits value ⊢
      have mark : isDigit (byte 'Z') = false := by decide
      have taken : (trimZeros (pad 9 nanoseconds) ++ [byte 'Z']).takeWhile isDigit =
          trimZeros (pad 9 nanoseconds) ++ [byte 'Z'].takeWhile isDigit :=
        List.takeWhile_append_of_pos digits
      have left : (trimZeros (pad 9 nanoseconds) ++ [byte 'Z']).dropWhile isDigit =
          [byte 'Z'].dropWhile isDigit :=
        List.dropWhile_append_of_pos digits
      cases shape : trimZeros (pad 9 nanoseconds) with
      | nil => exact absurd shape filled
      | cons second rest =>
          rw [shape] at digits taken left value
          have numeric := digits second List.mem_cons_self
          simp only [List.cons_append] at taken left ⊢
          simp only [parseFraction, numeric, taken, left]
          simp [mark, value]

/-- Date and time are read as they were written. -/
private theorem parse_second {second nanoseconds : Nat} (dated : second < seconds) (fits : nanoseconds < 10 ^ 9) :
    parseRFC3339 (secondText second ++ (fraction nanoseconds ++ [byte 'Z'])) =
      some (((second * 10 ^ 9 + nanoseconds : Nat) : Int) + yearZero) := by
  have year := parseUint_pad (year_fits dated) (Nat.zero_le _) (Nat.le_of_lt_succ (year_fits dated))
  have spec := monthDay_spec (second / 86400)
  have small := month_fits (second / 86400)
  have month := parseUint_pad small.1 (Nat.le_add_left 1 _) (Nat.succ_le_of_lt spec.1)
  have day := parseUint_pad small.2 (Nat.le_add_left 1 _) (Nat.succ_le_of_lt spec.2.1)
  have hour : parseUint (pad 2 (second % 86400 / 3600)) 0 23 = some (second % 86400 / 3600) :=
    parseUint_pad (by omega) (Nat.zero_le _) (by omega)
  have minute : parseUint (pad 2 (second % 86400 / 60 % 60)) 0 59 = some (second % 86400 / 60 % 60) :=
    parseUint_pad (by omega) (Nat.zero_le _) (by omega)
  have rest : parseUint (pad 2 (second % 86400 % 60)) 0 59 = some (second % 86400 % 60) :=
    parseUint_pad (by omega) (Nat.zero_le _) (by omega)
  simp only [pad, List.nil_append, List.cons_append] at year month day hour minute rest
  simp only [secondText, pad, List.nil_append, List.cons_append, parseRFC3339, year, month, day, hour, minute, rest,
    Nat.add_sub_cancel, parseFraction_fraction fits, Option.bind_eq_bind, Option.bind_some]
  have zulu : parseZone [byte 'Z'] = some 0 := by decide
  have date := spec.2.2
  rw [if_pos (by decide), zulu, Option.bind_some]
  unfold dateInstant
  have total : second / 86400 * 86400 + second % 86400 / 3600 * 3600 + second % 86400 / 60 % 60 * 60 +
      second % 86400 % 60 = second := by omega
  rw [Nat.add_sub_cancel, Nat.add_sub_cancel, date, total, Int.zero_mul, Int.sub_zero]

/-- An instant of the years 0 to 9999. -/
structure Dated where
  instant : Int
  begun : yearZero ≤ instant
  ended : instant < yearZero + seconds * 10 ^ 9

/-- The text of a time column on SQLite. -/
def timeValue (time : Dated) : GoString := formatTime time.instant

/-- What is stored is read back, and texts compare as the times do. -/
def Chronological (lenient : GoString → Option Instant) (first second : Dated) : Prop :=
  parseTime lenient (timeValue first) = some first.instant ∧
    parseTime lenient (timeValue second) = some second.instant ∧
    compare (timeValue first) (timeValue second) = compare first.instant second.instant

/-- The earlier instant is the later one without the last digits of its fraction,
or without any fraction. -/
def Truncates (earlier later : Dated) : Prop :=
  earlier.instant < later.instant ∧
    ∃ dropped, dropped ≤ 9 ∧ earlier.instant = later.instant - later.instant % 10 ^ dropped

theorem read_back (lenient : GoString → Option Instant) (time : Dated) :
    parseTime lenient (timeValue time) = some time.instant := by
  have begun := time.begun
  have ended := time.ended
  have since : ((time.instant - yearZero).toNat : Int) = time.instant - yearZero := Int.toNat_of_nonneg (by omega)
  have dated : (time.instant - yearZero).toNat / 10 ^ 9 < seconds := by
    apply Nat.div_lt_of_lt_mul
    omega
  have read := parse_second dated (Nat.mod_lt (time.instant - yearZero).toNat (y := 10 ^ 9) (by omega))
  unfold parseTime timeValue formatTime
  rw [read, Nat.div_add_mod']
  rw [Option.some_or, since, Int.sub_add_cancel]

/-- The nanoseconds since the first instant of year 0. -/
private def Dated.since (time : Dated) : Nat := (time.instant - yearZero).toNat

private theorem Dated.instant_since (time : Dated) : time.instant = (time.since : Int) + yearZero := by
  have begun := time.begun
  unfold Dated.since
  rw [Int.toNat_of_nonneg (by omega)]
  omega

private theorem truncates_cut (earlier later : Dated) :
    (∃ dropped, dropped ≤ 9 ∧ earlier.instant = later.instant - later.instant % 10 ^ dropped) ↔
      Cut 9 earlier.since later.since := by
  have former := earlier.instant_since
  have latter := later.instant_since
  have whole : ∀ dropped, dropped ≤ 9 → later.instant % 10 ^ dropped = (later.since % 10 ^ dropped : Nat) := by
    intro dropped few
    obtain ⟨factor, power⟩ := Nat.pow_dvd_pow 10 few
    have scaled : (10 : Int) ^ 9 = 10 ^ dropped * factor := by exact_mod_cast power
    have base : yearZero = (10 : Int) ^ dropped * (factor * -62167219200) := by
      unfold yearZero
      rw [scaled]
      ring
    rw [latter, base, Int.add_mul_emod_self_left, Int.natCast_emod, Int.natCast_pow]
    rfl
  unfold Cut
  constructor
  · rintro ⟨dropped, few, cut⟩
    have least := Nat.mod_le later.since (10 ^ dropped)
    rw [whole dropped few] at cut
    exact ⟨dropped, few, by omega⟩
  · rintro ⟨dropped, few, cut⟩
    have least := Nat.mod_le later.since (10 ^ dropped)
    refine ⟨dropped, few, ?_⟩
    rw [whole dropped few]
    omega

private theorem compare_text (first second : Dated) :
    compare (timeValue first) (timeValue second) =
      (compare (first.since / 10 ^ 9) (second.since / 10 ^ 9)).then
        (compare (fraction (first.since % 10 ^ 9) ++ [byte 'Z']) (fraction (second.since % 10 ^ 9) ++ [byte 'Z'])) := by
  have dated : ∀ time : Dated, time.since / 10 ^ 9 < seconds := by
    intro time
    have same := time.instant_since
    have ended := time.ended
    apply Nat.div_lt_of_lt_mul
    omega
  exact compare_second (dated first) (dated second) _ _

/-- The text of an earlier instant is before that of a later one, unless the one is
what truncation makes of the other. -/
private theorem earlier_text {first second : Dated} (before : first.instant < second.instant) :
    compare (timeValue first) (timeValue second) = .lt ↔ ¬ Truncates first second := by
  have former := first.instant_since
  have latter := second.instant_since
  have ordered : first.since < second.since := by omega
  have firstWhole := Nat.div_add_mod first.since (10 ^ 9)
  have secondWhole := Nat.div_add_mod second.since (10 ^ 9)
  have heads : first.since / 10 ^ 9 ≤ second.since / 10 ^ 9 := Nat.div_le_div_right (by omega)
  have truncated : Truncates first second ↔ Cut 9 first.since second.since := by
    rw [← truncates_cut]
    exact and_iff_right before
  rw [compare_text, truncated]
  rcases Nat.lt_or_eq_of_le heads with sooner | same
  · have apart : ¬ Cut 9 (10 ^ 9 * (first.since / 10 ^ 9) + first.since % 10 ^ 9)
        (10 ^ 9 * (second.since / 10 ^ 9) + second.since % 10 ^ 9) :=
      cut_head (Nat.mod_lt _ (by omega)) sooner
    rw [firstWhole, secondWhole] at apart
    rw [Nat.compare_eq_lt.mpr sooner]
    simp [apart]
  · have rests : Cut 9 (10 ^ 9 * (first.since / 10 ^ 9) + first.since % 10 ^ 9)
        (10 ^ 9 * (first.since / 10 ^ 9) + second.since % 10 ^ 9) ↔
        Cut 9 (first.since % 10 ^ 9) (second.since % 10 ^ 9) :=
      cut_rest 9 _ _ _
    rw [firstWhole, same, secondWhole] at rests
    rw [same, Nat.compare_eq_eq.mpr rfl, Ordering.eq_then,
      compare_fraction (by omega) (Nat.mod_lt _ (by omega)), rests]

/-- The texts of two times are read back, and they compare as the times do but where
one time is the other with its fraction cut short. -/
theorem texts_chronological (lenient : GoString → Option Instant) (first second : Dated) :
    Chronological lenient first second ↔ ¬ Truncates first second ∧ ¬ Truncates second first := by
  have read := read_back lenient
  have restated : Chronological lenient first second ↔
      compare (timeValue first) (timeValue second) = compare first.instant second.instant := by
    simp [Chronological, read]
  rw [restated]
  rcases Int.lt_trichotomy first.instant second.instant with before | same | after
  · have late : ¬ Truncates second first := fun truncates => by
      have := truncates.1
      omega
    rw [compare_lt_iff_lt.mpr before, earlier_text before]
    simp [late]
  · have alike : timeValue first = timeValue second := congrArg formatTime same
    have former : ¬ Truncates first second := fun truncates => by
      have := truncates.1
      omega
    have latter : ¬ Truncates second first := fun truncates => by
      have := truncates.1
      omega
    rw [alike, same]
    simp [former, latter]
  · have early : ¬ Truncates first second := fun truncates => by
      have := truncates.1
      omega
    have swapped : compare (timeValue first) (timeValue second) = .gt ↔
        compare (timeValue second) (timeValue first) = .lt := by
      rw [Std.OrientedOrd.eq_swap (a := timeValue first)]
      simp
    rw [compare_gt_iff_gt.mpr after, swapped, earlier_text after]
    simp [early]

/-- The epoch, and half a second later. -/
def epoch : Dated := ⟨0, by decide, by decide⟩

def halfSecond : Dated := ⟨500000000, by decide, by decide⟩

theorem half_second_first : ¬ Chronological (fun _ => none) epoch halfSecond := by
  intro chronological
  have compared := chronological.2.2
  revert compared
  decide

end NodeAtlas.Timestamps
