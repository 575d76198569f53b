import Dossier.Proofs.Except
import Dossier.Proofs.Number.Digits
import Dossier.Proofs.Timestamp.Parts
import Dossier.Timestamp.Reader
import Mathlib.Data.List.TakeWhile

/-! # Reading stored timestamps back

The text of a timestamp in a table is read as that timestamp, to the nanosecond and leap seconds included,
just if its year has four digits. Main statements: `readStrict_storedText` and `readStrict_stored_year`.
-/

namespace Dossier.Timestamp

open Number

/-- Whether a year is written in four digits. -/
def HasPlainYear (t : Timestamp) : Prop :=
  0 ≤ t.date.year.value ∧ t.date.year.value ≤ 9999

instance (t : Timestamp) : Decidable t.HasPlainYear :=
  inferInstanceAs (Decidable (_ ∧ _))

namespace Reader

variable {rest : List Char}

theorem length_le_byteCount (s : List Char) : s.length ≤ byteCount s := by
  have more (s : List Char) (n : Nat) : n + s.length ≤ s.foldl (fun n c => n + c.utf8Size) n := by
    induction s generalizing n with
    | nil => exact Nat.le_refl n
    | cons c s ih =>
        have step := ih (n + c.utf8Size)
        have one := c.utf8Size_pos
        rw [List.length_cons, List.foldl_cons]
        omega
  have all := more s 0
  rwa [Nat.zero_add] at all

theorem figures_paddedDigits {width n : Nat} (fits : n < 10 ^ width) (pos : 0 < width) :
    figures width (paddedDigits width n ++ rest) = .ok (n, rest) := by
  have length := length_paddedDigits fits pos
  have digits : (paddedDigits width n).all isDigit = true :=
    List.all_eq_true.mpr fun c member => isDigit_paddedDigits member
  rw [figures, List.take_left' length, List.drop_left' length, length, digits,
    ofDigits_paddedDigits]
  simp

theorem literal_cons (c : Char) : literal c (c :: rest) = .ok rest := by
  rw [literal, if_pos rfl]

theorem takeWhile_digits {digits : List Char} (all : ∀ c ∈ digits, isDigit c = true) {c : Char}
    (stop : isDigit c = false) : (digits ++ c :: rest).takeWhile isDigit = digits := by
  rw [List.takeWhile_append_of_pos all, List.takeWhile_cons_of_neg (by rw [stop]; decide),
    List.append_nil]

/-- A number ends in front of what is no digit. -/
theorem number_digits {most : Option Nat} {digits : List Char}
    (all : ∀ c ∈ digits, isDigit c = true) (pos : 0 < digits.length)
    (short : ∀ limit, most = some limit → digits.length ≤ limit) {c : Char}
    (stop : isDigit c = false) :
    number 1 most (digits ++ c :: rest) = .ok (ofDigits digits, c :: rest) := by
  have bytes := length_le_byteCount (digits ++ c :: rest)
  rw [List.length_append, List.length_cons] at bytes
  cases most with
  | none =>
      simp only [number, takeWhile_digits all stop]
      rw [if_neg (by omega), if_neg (by omega), List.drop_left]
  | some limit =>
      have taken : ((digits ++ c :: rest).take limit).takeWhile isDigit = digits := by
        rw [List.take_append, List.take_of_length_le (short limit rfl)]
        cases limit - digits.length with
        | zero => rw [List.take_zero, List.append_nil, List.takeWhile_eq_self_iff.mpr all]
        | succ more => exact takeWhile_digits all stop
      simp only [number, taken]
      rw [if_neg (by omega), if_neg (by omega), List.drop_left]

theorem number_paddedDigits {most : Option Nat} {width n : Nat} (fits : n < 10 ^ width)
    (pos : 0 < width) (short : ∀ limit, most = some limit → width ≤ limit) {c : Char}
    (stop : isDigit c = false) :
    number 1 most (paddedDigits width n ++ c :: rest) = .ok (n, c :: rest) := by
  have length := length_paddedDigits fits pos
  have read : number 1 most (paddedDigits width n ++ c :: rest) = _ :=
    number_digits (fun c => isDigit_paddedDigits) (by rwa [length]) (by rwa [length]) stop
  rwa [ofDigits_paddedDigits] at read

/-- A fraction in so many digits. -/
theorem fraction_digits {width n : Nat} (fits : n < 10 ^ width) (pos : 0 < width) (short : width ≤ 9)
    {c : Char} (stop : isDigit c = false) :
    fraction ('.' :: (paddedDigits width n ++ c :: rest)) =
      .ok (n * 10 ^ (9 - width), c :: rest) := by
  have length := length_paddedDigits fits pos
  have count : (paddedDigits width n ++ c :: rest).length - (c :: rest).length = width := by
    rw [List.length_append, length]
    omega
  have read : number 1 (some 9) (paddedDigits width n ++ c :: rest) = .ok (n, c :: rest) :=
    number_paddedDigits fits pos (fun limit same => Option.some.inj same ▸ short) stop
  simp only [fraction, read, bind, Except.bind, count]
  rw [List.dropWhile_cons_of_neg (by rw [stop]; decide)]
  rfl

theorem fraction_of_other {c : Char} (other : c ≠ '.') :
    fraction (c :: rest) = .ok (0, c :: rest) := by
  unfold fraction
  split
  · rename_i same
    exact absurd (List.cons.inj same).1 other
  · rfl

theorem fraction_fractionText {nano : Nat} (fits : nano < nanosPerSecond) {c : Char}
    (stop : isDigit c = false) (other : c ≠ '.') :
    fraction (fractionText nano ++ c :: rest) = .ok (nano, c :: rest) := by
  unfold nanosPerSecond at fits
  unfold fractionText
  split
  · subst nano
    exact fraction_of_other other
  · split
    · have whole : nano / 1000000 * 10 ^ (9 - 3) = nano := by omega
      rw [List.cons_append, fraction_digits (by omega) (by omega) (by omega) stop, whole]
    · split
      · have whole : nano / 1000 * 10 ^ (9 - 6) = nano := by omega
        rw [List.cons_append, fraction_digits (by omega) (by omega) (by omega) stop, whole]
      · rw [List.cons_append, fraction_digits (by omega) (by omega) (by omega) stop, Nat.sub_self,
          Nat.pow_zero, Nat.mul_one]

/-- The zone of a stored timestamp. -/
theorem zone_stored : zone (literal ':') ['+', '0', '0', ':', '0', '0'] = .ok (0, []) :=
  rfl

end Reader

variable {t : Timestamp}

/-- The fields of the text of a timestamp. -/
def fields (t : Timestamp) : Reader.Fields where
  year := t.date.year.value
  month := t.date.month.value
  day := t.date.day.value
  hour := t.second.value / 3600
  minute := t.second.value / 60 % 60
  second := t.second.value % 60 + if nanosPerSecond ≤ t.nano.value then 1 else 0
  nano := if nanosPerSecond ≤ t.nano.value then t.nano.value - nanosPerSecond else t.nano.value
  offset := 0

theorem ofLocal?_zero (t : Timestamp) : ofLocal? t 0 = some t := by
  have fits := t.second_lt
  unfold secondsPerDay at fits
  simp only [ofLocal?, secondsPerDay, Int.zero_mul, Int.sub_zero]
  rw [if_neg (by omega), if_neg (by omega), Int.toNat_natCast, of?_self]

theorem sixty_iff_leap (t : Timestamp) : t.fields.second = 60 ↔ nanosPerSecond ≤ t.nano.value := by
  simp only [fields]
  constructor
  · intro sixty
    by_contra less
    rw [if_neg less] at sixty
    omega
  · intro leap
    rw [if_pos leap]
    rcases t.nano_cases with less | ⟨last, -⟩
    · omega
    · omega

theorem second_fields (t : Timestamp) :
    (if t.fields.second = 60 then 59 else t.fields.second) = t.second.value % 60 := by
  simp only [t.sixty_iff_leap]
  split
  · rcases t.nano_cases with less | ⟨last, -⟩
    · omega
    · exact last.symm
  · rename_i plain
    rw [fields, if_neg plain, Nat.add_zero]

theorem nano_fields (t : Timestamp) :
    t.fields.nano + (if t.fields.second = 60 then nanosPerSecond else 0) = t.nano.value := by
  have kept : t.fields.nano =
      if nanosPerSecond ≤ t.nano.value then t.nano.value - nanosPerSecond else t.nano.value := rfl
  simp only [t.sixty_iff_leap, kept]
  split
  · omega
  · rfl

/-- The fields of the text of a timestamp mean that timestamp. -/
theorem instant_fields (t : Timestamp) : t.fields.instant = .ok t := by
  have time : t.fields.hour * 3600 + t.fields.minute * 60 + t.second.value % 60 = t.second.value := by
    simp only [fields]
    omega
  have date : Date.of? t.fields.year t.fields.month t.fields.day = some t.date := t.date.of?_self
  have offset : t.fields.offset = 0 := rfl
  simp only [Reader.Fields.instant, t.second_fields, t.nano_fields, time, date, of?_self, offset,
    ofLocal?_zero]
  rfl

theorem HasPlainYear.yearText (plain : t.HasPlainYear) :
    yearText t.date.year.value = paddedDigits 4 t.date.year.value.toNat :=
  if_pos plain

/-- The text of a timestamp in terms of its fields. -/
theorem print_fields (rest : List Char) :
    t.print ++ rest = yearText t.date.year.value ++ '-' :: (paddedDigits 2 t.fields.month ++
      '-' :: (paddedDigits 2 t.fields.day ++ 'T' :: (paddedDigits 2 t.fields.hour ++
        ':' :: (paddedDigits 2 t.fields.minute ++ ':' :: (paddedDigits 2 t.fields.second ++
          (fractionText t.fields.nano ++ rest)))))) := by
  simp only [print, fields, List.append_assoc, List.cons_append]

/-- The fields of a timestamp are within their bounds. -/
theorem fields_bounds (t : Timestamp) :
    t.fields.month < 100 ∧ t.fields.day < 100 ∧ t.fields.hour ≤ 23 ∧ t.fields.minute ≤ 59 ∧
      t.fields.second ≤ 60 ∧ t.fields.nano < nanosPerSecond := by
  have month := t.date.month.le
  have day := Nat.le_trans t.date.day.le (Date.daysInMonth_bounds _ _).2
  have fits := t.second.le
  have nano := t.nano_cases
  simp only [fields]
  refine ⟨by omega, by omega, by omega, by omega, ?_, ?_⟩
  · split <;> omega
  · split <;> omega

theorem length_print (plain : t.HasPlainYear) :
    19 ≤ t.print.length := by
  obtain ⟨month, day, hour, minute, second, -⟩ := t.fields_bounds
  have year : t.date.year.value.toNat < 10 ^ 4 := by
    unfold HasPlainYear at plain
    omega
  have all := congrArg List.length (print_fields (t := t) [])
  simp only [List.append_nil, List.length_append, List.length_cons, plain.yearText] at all
  rw [length_paddedDigits year (by decide), length_paddedDigits month (by decide),
    length_paddedDigits day (by decide), length_paddedDigits (by omega) (by decide),
    length_paddedDigits (by omega) (by decide), length_paddedDigits (by omega) (by decide)] at all
  omega

theorem strictFields_stored (plain : t.HasPlainYear) :
    Reader.strictFields (t.print ++ ['+', '0', '0', ':', '0', '0']) = .ok (t.fields, []) := by
  obtain ⟨month, day, hour, minute, second, nano⟩ := t.fields_bounds
  have year : t.date.year.value.toNat < 10 ^ 4 := by
    have bounds := plain
    unfold HasPlainYear at bounds
    omega
  have back : (t.date.year.value.toNat : Int) = t.date.year.value := Int.toNat_of_nonneg plain.1
  have long : ¬Reader.byteCount (t.print ++ ['+', '0', '0', ':', '0', '0']) < Reader.leastBytes := by
    have bytes := Reader.length_le_byteCount (t.print ++ ['+', '0', '0', ':', '0', '0'])
    have length := length_print plain
    rw [List.length_append] at bytes
    unfold Reader.leastBytes
    omega
  have date : Date.IsValid t.date.year.value.toNat t.fields.month t.fields.day := by
    rw [back]
    exact t.date.isValid
  rw [Reader.strictFields, if_neg long, print_fields, plain.yearText]
  simp only [bind_eq_ok]
  refine ⟨_, Reader.figures_paddedDigits year (by decide), _, Reader.literal_cons '-',
    _, Reader.figures_paddedDigits month (by decide), _, Reader.literal_cons '-',
    _, Reader.figures_paddedDigits day (by decide), ?_⟩
  rw [if_neg (not_not_intro date)]
  simp only [bind_eq_ok]
  refine ⟨_, rfl, _, Reader.figures_paddedDigits (n := t.fields.hour) (by omega) (by decide),
    _, Reader.literal_cons ':',
    _, Reader.figures_paddedDigits (n := t.fields.minute) (by omega) (by decide),
    _, Reader.literal_cons ':',
    _, Reader.figures_paddedDigits (n := t.fields.second) (by omega) (by decide),
    _, Reader.fraction_fractionText nano rfl (by decide), ?_⟩
  rw [if_neg (by simp only; omega)]
  simp only [bind_eq_ok]
  refine ⟨_, Reader.zone_stored, ?_⟩
  simp only [back]
  rfl

/-- A timestamp whose year has four digits is read back. -/
theorem readStrict_storedText (plain : t.HasPlainYear) :
    readStrict t.storedText = .ok t := by
  simp only [readStrict, storedText, String.toList_ofList, strictFields_stored plain, bind,
    Except.bind]
  exact t.instant_fields

theorem figures_of_sign {c : Char} (sign : isDigit c = false) (count : Nat) (s : List Char) :
    Reader.figures (count + 1) (c :: s) = .error .invalid := by
  rw [Reader.figures, List.take_succ_cons, List.all_cons, sign, Bool.false_and, Bool.and_false]
  rfl

/-- A timestamp whose year has a sign is not read. -/
theorem readStrict_stored_year (other : ¬t.HasPlainYear) :
    ∃ fault, readStrict t.storedText = .error fault := by
  obtain ⟨c, year, sign, same⟩ : ∃ c year, isDigit c = false ∧ yearText t.date.year.value = c :: year := by
    refine ⟨_, _, ?_, if_neg other⟩
    split <;> rfl
  rw [readStrict, storedText, String.toList_ofList, Reader.strictFields]
  split
  · exact ⟨.tooShort, rfl⟩
  · rw [print_fields, same, List.cons_append, figures_of_sign sign]
    exact ⟨.invalid, rfl⟩

end Dossier.Timestamp
