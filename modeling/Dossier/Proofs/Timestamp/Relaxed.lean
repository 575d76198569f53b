import Dossier.Proofs.Timestamp.Stored

/-! # Reading timestamps in messages back

The text of a timestamp in a message is read as that timestamp whatever its year is, since the reader of messages
takes years with a sign. Main statement: `readRelaxed_text`.
-/

namespace Dossier

open Number

namespace Text

variable {s : List Char}

theorem trimStart_cons {c : Char} (visible : isBlank c = false) : trimStart (c :: s) = c :: s :=
  List.dropWhile_cons_of_neg (by rw [visible]; decide)

theorem isBlank_of_isDigit {c : Char} (digit : isDigit c = true) : isBlank c = false := by
  simp only [isDigit, Bool.and_eq_true, decide_eq_true_eq] at digit
  have low : '0'.toNat ≤ c.toNat := digit.1
  have high : c.toNat ≤ '9'.toNat := digit.2
  have zero : '0'.toNat = 48 := rfl
  have nine : '9'.toNat = 57 := rfl
  simp only [isBlank, Bool.or_eq_false_iff, Bool.and_eq_false_iff, decide_eq_false_iff_not,
    beq_eq_false_iff_ne]
  omega

/-- There is no blank in front of digits. -/
theorem trimStart_digits {digits : List Char} (all : ∀ c ∈ digits, isDigit c = true)
    (pos : 0 < digits.length) : trimStart (digits ++ s) = digits ++ s := by
  obtain ⟨c, rest, rfl⟩ := List.exists_cons_of_length_pos pos
  exact trimStart_cons (isBlank_of_isDigit (all c List.mem_cons_self))

end Text

namespace Timestamp

theorem length_paddedDigits_pos {width : Nat} (pos : 0 < width) (n : Nat) :
    0 < (paddedDigits width n).length := by
  simp only [paddedDigits, List.length_append, List.length_replicate]
  omega

namespace Reader

variable {rest : List Char} {c : Char}

theorem bounded_of_le {low high n : Nat} (least : low ≤ n) (most : n ≤ high) :
    bounded low high (.ok (n, rest)) = .ok (n, rest) := by
  have within : ¬(n < low ∨ high < n) := by omega
  simp only [bounded, bind, Except.bind, if_neg within]
  rfl

/-- A field in two digits is read as the number that it had. -/
theorem field_paddedDigits {low high n : Nat} (least : low ≤ n) (most : n ≤ high) (fits : n < 100)
    (stop : isDigit c = false) :
    bounded low high (number 1 (some 2) (Text.trimStart (paddedDigits 2 n ++ c :: rest))) =
      .ok (n, c :: rest) := by
  have read : number 1 (some 2) (paddedDigits 2 n ++ c :: rest) = .ok (n, c :: rest) :=
    number_paddedDigits fits (by decide) (fun limit same => Option.some.inj same ▸ Nat.le_refl 2) stop
  rw [Text.trimStart_digits (fun c => isDigit_paddedDigits) (length_paddedDigits_pos (by decide) n),
    read, bounded_of_le least most]

theorem literal_blank (visible : Text.isBlank c = false) :
    literal c (Text.trimStart (c :: rest)) = .ok rest := by
  rw [Text.trimStart_cons visible, literal_cons]

/-- A year without a sign. -/
theorem signedYear_digits {digits : List Char} (all : ∀ c ∈ digits, isDigit c = true)
    (pos : 0 < digits.length) (short : digits.length ≤ 4) (stop : isDigit c = false) :
    signedYear (digits ++ c :: rest) = .ok ((ofDigits digits : Int), c :: rest) := by
  have read : number 1 (some 4) (digits ++ c :: rest) = .ok (ofDigits digits, c :: rest) :=
    number_digits all pos (fun limit same => Option.some.inj same ▸ short) stop
  obtain ⟨d, digits, rfl⟩ := List.exists_cons_of_length_pos pos
  have digit := all d List.mem_cons_self
  rw [List.cons_append] at read ⊢
  unfold signedYear
  split
  · rename_i same
    rw [(List.cons.inj same).1] at digit
    cases digit
  · rename_i same
    rw [(List.cons.inj same).1] at digit
    cases digit
  · rw [read]
    rfl

/-- The digits of a year behind its sign. -/
theorem number_year (n : Nat) (stop : isDigit c = false) :
    number 1 none (paddedDigits 4 n ++ c :: rest) = .ok (n, c :: rest) := by
  have read : number 1 none (paddedDigits 4 n ++ c :: rest) = _ :=
    number_digits (fun c => isDigit_paddedDigits) (length_paddedDigits_pos (by decide) n)
      (fun limit same => by cases same) stop
  rwa [ofDigits_paddedDigits] at read

/-- A year is read as it was, with a sign or without. -/
theorem signedYear_yearText {year : Int} (first : Date.firstYear ≤ year) (last : year ≤ Date.lastYear)
    (stop : isDigit c = false) :
    signedYear (Text.trimStart (yearText year ++ c :: rest)) = .ok (year, c :: rest) := by
  unfold Date.firstYear at first
  unfold Date.lastYear at last
  have less : year.natAbs ≤ greatestYear := by
    unfold greatestYear
    omega
  unfold yearText
  split
  · rename_i plain
    have fits : year.toNat < 10 ^ 4 := by omega
    have back : (year.toNat : Int) = year := Int.toNat_of_nonneg plain.1
    have length := length_paddedDigits fits (by decide)
    have digits : ∀ c ∈ paddedDigits 4 year.toNat, isDigit c = true := fun c => isDigit_paddedDigits
    rw [Text.trimStart_digits digits (by omega), signedYear_digits digits (by omega) (by omega) stop,
      ofDigits_paddedDigits, back]
  · split
    · rename_i negative
      have back : -(year.natAbs : Int) = year := by omega
      rw [List.cons_append, Text.trimStart_cons rfl]
      simp only [signedYear, number_year _ stop, bounded_of_le (Nat.zero_le _) (Nat.le_succ_of_le less),
        bind, Except.bind, back]
      rfl
    · rename_i positive
      have back : (year.natAbs : Int) = year := by omega
      rw [List.cons_append, Text.trimStart_cons rfl]
      simp only [signedYear, number_year _ stop, bounded_of_le (Nat.zero_le _) less, bind, Except.bind,
        back]
      rfl

end Reader

/-- What follows the seconds begins with no digit. -/
theorem fractionText_begins (nano : Nat) :
    ∃ c rest, isDigit c = false ∧ fractionText nano ++ ['Z'] = c :: rest := by
  unfold fractionText
  split
  · exact ⟨'Z', [], rfl, rfl⟩
  · split
    · exact ⟨'.', _, rfl, rfl⟩
    · split <;> exact ⟨'.', _, rfl, rfl⟩

theorem relaxedFields_text (t : Timestamp) :
    Reader.relaxedFields (t.print ++ ['Z']) = .ok (t.fields, []) := by
  obtain ⟨month, day, hour, minute, second, nano⟩ := t.fields_bounds
  obtain ⟨first, last, january, december, early, late⟩ := t.date.isValid
  have short := (Date.daysInMonth_bounds t.date.year.value t.date.month.value).2
  have seconds : Reader.bounded 0 60 (Reader.number 1 (some 2)
      (Text.trimStart (paddedDigits 2 t.fields.second ++ (fractionText t.fields.nano ++ ['Z'])))) =
      .ok (t.fields.second, fractionText t.fields.nano ++ ['Z']) := by
    obtain ⟨c, rest, stop, begins⟩ := fractionText_begins t.fields.nano
    rw [begins]
    exact Reader.field_paddedDigits (Nat.zero_le _) second (by omega) stop
  rw [Reader.relaxedFields, print_fields]
  simp only [bind_eq_ok]
  refine ⟨_, Reader.signedYear_yearText first last (by rfl), _, Reader.literal_blank (by rfl),
    _, Reader.field_paddedDigits january december month (by rfl), _, Reader.literal_blank (by rfl),
    _, Reader.field_paddedDigits early (Nat.le_trans late short) day (by rfl), _, rfl,
    _, Reader.field_paddedDigits (Nat.zero_le _) hour (by omega) (by rfl),
    _, Reader.literal_blank (by rfl),
    _, Reader.field_paddedDigits (Nat.zero_le _) minute (by omega) (by rfl),
    _, Reader.literal_blank (by rfl), _, seconds,
    _, Reader.fraction_fractionText nano (by rfl) (by decide), ?_⟩
  rfl

/-- The text of a timestamp in a message is read as that timestamp. -/
theorem readRelaxed_text (t : Timestamp) : readRelaxed t.text = .ok t := by
  simp only [readRelaxed, text, String.toList_ofList, relaxedFields_text, bind, Except.bind]
  exact t.instant_fields

end Timestamp

end Dossier
