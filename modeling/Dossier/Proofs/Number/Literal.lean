import Dossier.Number.Literal
import Dossier.Proofs.Number.Search

/-! # Decimal literals

Which texts are literals, and for which numbers they stand: a decimal stands for the number that its value rounds to.
What the reader takes for a literal is one, and it stands for what is read. Main statement: `readReal?_eq_some`.
-/

namespace Dossier.Number

open Binary64 Decimal

/-- A sign, which may be missing, and whether it is a minus. -/
inductive Sign : List Char → Bool → Prop
  | none : Sign [] false
  | plus : Sign ['+'] false
  | minus : Sign ['-'] true

/-- Digits, at least one, and the number that they stand for. -/
inductive Digits : List Char → Nat → Prop
  | mk {s} (some : s ≠ []) (all : ∀ c ∈ s, isDigit c = true) : Digits s (ofDigits s)

/-- Digits behind an optional sign, and the integer that they stand for. -/
inductive Whole : List Char → Int → Prop
  | mk {r s negative n} (sign : Sign r negative) (digits : Digits s n) :
      Whole (r ++ s) (if negative then -(n : Int) else n)

/-- Digits with an optional point among or around them: the number they stand for without the point, and how many of
them are behind it. -/
inductive Figures : List Char → Nat → Nat → Prop
  | whole {s c} (digits : Digits s c) : Figures s c 0
  | point {s fraction c} (digits : Digits (s ++ fraction) c) : Figures (s ++ '.' :: fraction) c fraction.length

/-- A letter and an integer behind it, or nothing. -/
inductive Exponent : List Char → Int → Prop
  | none : Exponent [] 0
  | some {letter s k} (mark : letter = 'e' ∨ letter = 'E') (whole : Whole s k) : Exponent (letter :: s) k

/-- A decimal literal without sign, and its value. -/
inductive Unsigned : List Char → ℚ → Prop
  | mk {s r c n k} (figures : Figures s c n) (exponent : Exponent r k) : Unsigned (s ++ r) (value c (k - n))

/-- A word for what is infinite, in any case of letters, or for what is not a number. -/
inductive Special (negative : Bool) : List Char → Binary64 → Prop
  | infinite {s} (word : s.map Char.toLower = "inf".toList ∨ s.map Char.toLower = "infinity".toList) :
      Special negative s (.infinite negative)
  | nan {s} (word : s.map Char.toLower = "nan".toList) : Special negative s .nan

/-- What a literal without sign stands for behind a sign. -/
inductive Body (negative : Bool) : List Char → Binary64 → Prop
  | special {s x} (word : Special negative s x) : Body negative s x
  | decimal {s v x} (unsigned : Unsigned s v) (rounded : Rounded negative v x) : Body negative s x

/-- A literal, and the number that it stands for. -/
inductive Literal : List Char → Binary64 → Prop
  | mk {r s negative x} (sign : Sign r negative) (body : Body negative s x) : Literal (r ++ s) x

variable {negative : Bool} {s : List Char} {x : Binary64}

/-- The powers of ten past which every decimal is infinite or zero are beyond all numbers. -/
theorem two_pow_le_ten_pow : (2 : ℚ) ^ 1200 ≤ 10 ^ 400 :=
  calc (2 : ℚ) ^ 1200 = (2 ^ 3) ^ 400 := by rw [← pow_mul]
    _ ≤ 10 ^ 400 := pow_le_pow_left₀ (by norm_num) (by norm_num) 400

theorem overflow_le : overflow ≤ 10 ^ extremeOrder := by
  have width_le : ((2 ^ width - 1 : Nat) : ℚ) + 1 / 2 ≤ 2 ^ 200 := by norm_num [width]
  calc overflow ≤ 2 ^ 200 * 2 ^ greatestExponent := mul_le_mul_of_nonneg_right width_le (two_zpow_pos _).le
    _ = 2 ^ (200 + greatestExponent) := by
        rw [two_zpow_add]
        norm_cast
    _ ≤ 2 ^ ((1200 : Nat) : Int) := two_zpow_le (by decide)
    _ ≤ 10 ^ extremeOrder := by
        rw [zpow_natCast]
        exact two_pow_le_ten_pow

theorem underflow_le : (10 : ℚ) ^ (-extremeOrder) ≤ magnitude 1 leastExponent / 2 := by
  calc (10 : ℚ) ^ (-extremeOrder) ≤ 2 ^ (-(1200 : Nat) : Int) := by
        rw [zpow_neg, zpow_neg, zpow_natCast]
        exact inv_anti₀ (by positivity) two_pow_le_ten_pow
    _ ≤ 2 ^ (leastExponent + -1) := two_zpow_le (by decide)
    _ = magnitude 1 leastExponent / 2 := by
        rw [two_zpow_add, magnitude, Nat.cast_one, one_mul, zpow_neg_one, div_eq_mul_inv]

/-- What is taken for the number nearest to a decimal is the one that it rounds to. -/
theorem rounded_nearestDecimal (negative : Bool) (c : Nat) (k : Int) :
    Rounded negative (value c k) (nearestDecimal negative c k) := by
  unfold nearestDecimal
  split
  · rename_i zero
    refine .zero ?_
    rw [zero, value, Nat.cast_zero, zero_mul, magnitude]
    positivity
  · rename_i some
    have low := pow_length_le (Nat.pos_of_ne_zero some)
    have high := lt_pow_length c
    have count := length_decimalDigits_pos c
    simp only []
    split
    · rename_i large
      refine .infinite (overflow_le.trans ?_)
      calc (10 : ℚ) ^ extremeOrder ≤ 10 ^ (k + ((decimalDigits c).length - 1 : Nat)) :=
            zpow_le_zpow_right₀ (by norm_num) (by omega)
        _ = value (10 ^ ((decimalDigits c).length - 1)) k := (value_ten_pow _ k).symm
        _ ≤ value c k := value_le low k
    · split
      · rename_i small
        refine .zero (le_trans ?_ underflow_le)
        calc value c k ≤ value (10 ^ (decimalDigits c).length) k := value_le high.le k
          _ = 10 ^ (k + (decimalDigits c).length) := value_ten_pow _ k
          _ ≤ 10 ^ (-extremeOrder) := zpow_le_zpow_right₀ (by norm_num) small.le
      · cases k with
        | ofNat n =>
            have rounded := rounded_nearest negative (c * 10 ^ n) Nat.one_pos
            rw [Nat.cast_one, div_one] at rounded
            have same : value c (Int.ofNat n) = ((c * 10 ^ n : Nat) : ℚ) := by
              rw [value, Int.ofNat_eq_natCast, zpow_natCast]
              push_cast
              rfl
            rw [same]
            exact rounded
        | negSucc n =>
            have rounded := rounded_nearest negative c (Nat.pow_pos (by omega) : 0 < 10 ^ (n + 1))
            have same : value c (Int.negSucc n) = c / ((10 ^ (n + 1) : Nat) : ℚ) := by
              rw [value, zpow_negSucc, div_eq_mul_inv]
              push_cast
              rfl
            rw [same]
            exact rounded

theorem nearestDecimal_eq_iff {c : Nat} {k : Int} :
    nearestDecimal negative c k = x ↔ Rounded negative (value c k) x := by
  constructor
  · rintro rfl
    exact rounded_nearestDecimal negative c k
  · exact fun rounded => (rounded_nearestDecimal negative c k).unique rounded

theorem readDigits?_eq_some {n : Nat} : readDigits? s = some n ↔ Digits s n := by
  constructor
  · intro read
    simp only [readDigits?, Option.ite_none_right_eq_some, Bool.and_eq_true, Bool.not_eq_true',
      List.isEmpty_eq_false_iff, List.all_eq_true, Option.some.injEq] at read
    obtain ⟨⟨some, all⟩, rfl⟩ := read
    exact ⟨some, all⟩
  · rintro ⟨some, all⟩
    simp only [readDigits?, Bool.and_eq_true, Bool.not_eq_true', List.isEmpty_eq_false_iff, List.all_eq_true]
    rw [if_pos ⟨some, all⟩]

/-- What has a sign in front of it is what is behind its first character, if that is a sign, or is the text itself. -/
theorem sign_iff {holds : Bool → List Char → Prop}
    (plain : ∀ negative c s, holds negative (c :: s) → c ≠ '-' ∧ c ≠ '+') :
    (∃ r negative t, Sign r negative ∧ s = r ++ t ∧ holds negative t) ↔
      match s with
      | '-' :: t => holds true t
      | '+' :: t => holds false t
      | t => holds false t := by
  constructor
  · rintro ⟨r, negative, t, sign, rfl, held⟩
    cases sign with
    | none =>
        rw [List.nil_append]
        split
        · exact absurd rfl (plain _ _ _ held).1
        · exact absurd rfl (plain _ _ _ held).2
        · exact held
    | plus => exact held
    | minus => exact held
  · intro held
    split at held
    · exact ⟨_, _, _, .minus, rfl, held⟩
    · exact ⟨_, _, _, .plus, rfl, held⟩
    · exact ⟨_, _, _, .none, rfl, held⟩

theorem Digits.first {c : Char} {n : Nat} (digits : Digits (c :: s) n) : isDigit c = true := by
  cases digits with
  | mk some all => exact all c List.mem_cons_self

theorem not_sign_of_isDigit {c : Char} (digit : isDigit c = true) : c ≠ '-' ∧ c ≠ '+' := by
  constructor
  all_goals
    rintro rfl
    exact absurd digit (by decide)

theorem readInt?_eq_some {n : Int} : readInt? s = some n ↔ Whole s n := by
  have signed : Whole s n ↔ ∃ r negative t, Sign r negative ∧ s = r ++ t ∧
      ∃ m : Nat, Digits t m ∧ (if negative then -(m : Int) else m) = n := by
    constructor
    · rintro ⟨sign, digits⟩
      exact ⟨_, _, _, sign, rfl, _, digits, rfl⟩
    · rintro ⟨r, negative, t, sign, rfl, m, digits, rfl⟩
      exact ⟨sign, digits⟩
  have plain (negative : Bool) (c : Char) (s : List Char) :
      (∃ m : Nat, Digits (c :: s) m ∧ (if negative then -(m : Int) else m) = n) → c ≠ '-' ∧ c ≠ '+' := by
    rintro ⟨m, digits, -⟩
    exact not_sign_of_isDigit digits.first
  rw [signed, sign_iff plain]
  unfold readInt?
  split
  all_goals simp [Option.bind_eq_some_iff, readDigits?_eq_some]

theorem readSpecial?_eq_some : readSpecial? negative s = some x ↔ Special negative s x := by
  have word (t : String) : String.ofList (s.map Char.toLower) = t ↔ s.map Char.toLower = t.toList := by
    rw [← String.toList_inj, String.toList_ofList]
  unfold readSpecial?
  constructor
  · intro read
    split at read
    · rename_i same
      cases read
      exact .infinite (.inl ((word _).mp same))
    · rename_i same
      cases read
      exact .infinite (.inr ((word _).mp same))
    · rename_i same
      cases read
      exact .nan ((word _).mp same)
    · cases read
  · rintro (known | known)
    · rcases known with known | known
      · rw [(word "inf").mpr known]
        rfl
      · rw [(word "infinity").mpr known]
        rfl
    · rw [(word "nan").mpr known]
      rfl

/-- The digits that a text begins with, those behind a point after them, and what follows. -/
def splitFigures (s : List Char) : List Char × List Char × List Char :=
  match s.dropWhile isDigit with
  | '.' :: after => (s.takeWhile isDigit, after.takeWhile isDigit, after.dropWhile isDigit)
  | rest => (s.takeWhile isDigit, [], rest)

theorem Figures.of_split {whole fraction rest : List Char} (split : splitFigures s = (whole, fraction, rest))
    (some : whole ++ fraction ≠ []) :
    ∃ t, s = t ++ rest ∧ Figures t (ofDigits (whole ++ fraction)) fraction.length := by
  have all (t : List Char) : ∀ c ∈ t.takeWhile isDigit, isDigit c = true :=
    List.all_eq_true.mp List.all_takeWhile
  have joined := List.takeWhile_append_dropWhile (p := isDigit) (l := s)
  unfold splitFigures at split
  split at split
  · rename_i after same
    cases split
    refine ⟨_, ?_, .point ⟨some, ?_⟩⟩
    · rw [List.append_assoc, List.cons_append, List.takeWhile_append_dropWhile, ← same, joined]
    · exact fun c member => (List.mem_append.mp member).elim (all s c) (all after c)
  · cases split
    rw [List.append_nil] at some ⊢
    exact ⟨_, joined.symm, .whole ⟨some, all s⟩⟩

/-- Figures are split off in front of what cannot belong to them. -/
theorem Figures.split {t rest : List Char} {c n : Nat} (figures : Figures t c n)
    (stops : ∀ d ∈ rest.head?, isDigit d = false ∧ d ≠ '.') :
    ∃ whole fraction, splitFigures (t ++ rest) = (whole, fraction, rest) ∧ whole ++ fraction ≠ [] ∧
      c = ofDigits (whole ++ fraction) ∧ n = fraction.length := by
  have none : rest.takeWhile isDigit = [] ∧ rest.dropWhile isDigit = rest := by
    cases rest with
    | nil => exact ⟨rfl, rfl⟩
    | cons d rest => simp [(stops d rfl).1]
  cases figures with
  | whole digits =>
      obtain ⟨some, all⟩ := digits
      refine ⟨t, [], ?_, by simpa using some, by rw [List.append_nil], rfl⟩
      unfold splitFigures
      rw [List.takeWhile_append_of_pos all, List.dropWhile_append_of_pos all, none.1, none.2, List.append_nil]
      split
      · exact absurd rfl (stops '.' rfl).2
      · rfl
  | point digits =>
      rename_i whole fraction
      generalize same : whole ++ fraction = both at digits
      obtain ⟨some, all⟩ := digits
      subst same
      have first : ∀ d ∈ whole, isDigit d = true := fun d member => all d (List.mem_append_left _ member)
      have last : ∀ d ∈ fraction, isDigit d = true := fun d member => all d (List.mem_append_right _ member)
      refine ⟨whole, fraction, ?_, some, rfl, rfl⟩
      unfold splitFigures
      rw [List.append_assoc, List.takeWhile_append_of_pos first, List.dropWhile_append_of_pos first,
        List.cons_append, List.dropWhile_cons_of_neg (by decide), List.takeWhile_cons_of_neg (by decide),
        List.append_nil]
      simp only [List.takeWhile_append_of_pos last, List.dropWhile_append_of_pos last, none.1, none.2, List.append_nil]

theorem Exponent.stops {rest : List Char} {k : Int} (exponent : Exponent rest k) :
    ∀ d ∈ rest.head?, isDigit d = false ∧ d ≠ '.' := by
  cases exponent with
  | none => exact fun d member => absurd member (by simp)
  | some mark whole =>
      intro d member
      obtain rfl := Option.some.inj member
      rcases mark with rfl | rfl <;> decide

/-- What a function makes of the exponent that a text is. -/
def readExponent? (f : Int → Binary64) : List Char → Option Binary64
  | [] => some (f 0)
  | 'e' :: exponent | 'E' :: exponent => (readInt? exponent).map f
  | _ => none

theorem readExponent?_eq_some {f : Int → Binary64} :
    readExponent? f s = some x ↔ ∃ k, Exponent s k ∧ f k = x := by
  constructor
  · intro read
    unfold readExponent? at read
    split at read
    · exact ⟨0, .none, Option.some.inj read⟩
    · obtain ⟨k, whole, same⟩ := Option.map_eq_some_iff.mp read
      exact ⟨k, .some (.inl rfl) (readInt?_eq_some.mp whole), same⟩
    · obtain ⟨k, whole, same⟩ := Option.map_eq_some_iff.mp read
      exact ⟨k, .some (.inr rfl) (readInt?_eq_some.mp whole), same⟩
    · cases read
  · rintro ⟨k, exponent, rfl⟩
    cases exponent with
    | none => rfl
    | some mark whole =>
        have read := readInt?_eq_some.mpr whole
        rcases mark with rfl | rfl
        · exact Option.map_eq_some_iff.mpr ⟨k, read, rfl⟩
        · exact Option.map_eq_some_iff.mpr ⟨k, read, rfl⟩

theorem readUnsigned?_eq_some :
    readUnsigned? negative s = some x ↔ ∃ v, Unsigned s v ∧ Rounded negative v x := by
  obtain ⟨⟨whole, fraction, rest⟩, parts⟩ : ∃ parts, splitFigures s = parts := ⟨_, rfl⟩
  have unfolded : readUnsigned? negative s =
      if whole.isEmpty && fraction.isEmpty then none
      else
        readExponent? (fun k => nearestDecimal negative (ofDigits (whole ++ fraction)) (k - fraction.length)) rest := by
    unfold splitFigures at parts
    unfold readUnsigned?
    split at parts
    · rename_i after same
      cases parts
      simp only [same]
      rfl
    · cases parts
      simp only []
      rfl
  have some_iff : (whole.isEmpty && fraction.isEmpty) = false ↔ whole ++ fraction ≠ [] := by
    cases whole <;> simp
  rw [unfolded]
  constructor
  · intro read
    split at read
    · cases read
    · rename_i some
      obtain ⟨k, exponent, near⟩ := readExponent?_eq_some.mp read
      obtain ⟨t, rfl, figures⟩ := Figures.of_split parts (some_iff.mp (Bool.eq_false_iff.mpr some))
      exact ⟨_, ⟨figures, exponent⟩, nearestDecimal_eq_iff.mp near⟩
  · rintro ⟨v, ⟨figures, exponent⟩, rounded⟩
    obtain ⟨_, _, also, some, rfl, rfl⟩ := figures.split exponent.stops
    rw [also] at parts
    cases parts
    rw [if_neg (Bool.eq_false_iff.mp (some_iff.mpr some))]
    exact readExponent?_eq_some.mpr ⟨_, exponent, nearestDecimal_eq_iff.mpr rounded⟩

theorem Digits.head {n : Nat} (digits : Digits s n) : ∃ c rest, s = c :: rest ∧ isDigit c = true := by
  obtain ⟨some, all⟩ := digits
  obtain ⟨c, rest, rfl⟩ := List.exists_cons_of_ne_nil some
  exact ⟨c, rest, rfl, all c List.mem_cons_self⟩

theorem Unsigned.head {v : ℚ} (unsigned : Unsigned s v) :
    ∃ c rest, s = c :: rest ∧ (isDigit c = true ∨ c = '.') := by
  obtain ⟨figures, exponent⟩ := unsigned
  cases figures with
  | whole digits =>
      obtain ⟨c, rest, rfl, digit⟩ := digits.head
      exact ⟨c, _, rfl, .inl digit⟩
  | point digits =>
      rename_i r whole fraction
      cases whole with
      | nil => exact ⟨'.', _, rfl, .inr rfl⟩
      | cons c whole => exact ⟨c, _, rfl, .inl digits.first⟩

theorem Special.head (special : Special negative s x) :
    ∃ c rest, s = c :: rest ∧ (c.toLower = 'i' ∨ c.toLower = 'n') := by
  have first {d : Char} {t : List Char} (word : s.map Char.toLower = d :: t) :
      ∃ c rest, s = c :: rest ∧ c.toLower = d := by
    obtain ⟨c, rest, rfl, same, -⟩ := List.map_eq_cons_iff.mp word
    exact ⟨c, rest, rfl, same⟩
  rcases special with (word | word) | word
  · obtain ⟨c, rest, same, lower⟩ := first (d := 'i') word
    exact ⟨c, rest, same, .inl lower⟩
  · obtain ⟨c, rest, same, lower⟩ := first (d := 'i') word
    exact ⟨c, rest, same, .inl lower⟩
  · obtain ⟨c, rest, same, lower⟩ := first (d := 'n') word
    exact ⟨c, rest, same, .inr lower⟩

theorem toLower_of_isDigit {c : Char} (digit : isDigit c = true) : c.toLower = c := by
  have figure : ∀ d, d < 10 → (digitChar d).toLower = digitChar d := by decide
  have same := figure (digitValue c) (digitValue_lt digit)
  rwa [digitChar_digitValue digit] at same

/-- What a literal without sign begins with is neither a sign nor, in lower case, any letter but two. -/
theorem Body.head (body : Body negative s x) :
    ∃ c rest, s = c :: rest ∧ (isDigit c = true ∨ c = '.' ∨ c.toLower = 'i' ∨ c.toLower = 'n') := by
  cases body with
  | special word =>
      obtain ⟨c, rest, same, lower⟩ := word.head
      exact ⟨c, rest, same, .inr (.inr lower)⟩
  | decimal unsigned rounded =>
      obtain ⟨c, rest, same, digit | point⟩ := unsigned.head
      · exact ⟨c, rest, same, .inl digit⟩
      · exact ⟨c, rest, same, .inr (.inl point)⟩

theorem Body.not_sign (negative : Bool) (c : Char) (s : List Char) (body : Body negative (c :: s) x) :
    c ≠ '-' ∧ c ≠ '+' := by
  obtain ⟨d, rest, same, first⟩ := body.head
  obtain rfl := (List.cons.inj same).1
  constructor
  all_goals
    rintro rfl
    exact absurd first (by decide)

/-- A decimal is no word. -/
theorem Unsigned.not_special {v : ℚ} (unsigned : Unsigned s v) : ¬Special negative s x := by
  intro special
  obtain ⟨c, rest, rfl, first⟩ := unsigned.head
  obtain ⟨d, _, same, lower⟩ := special.head
  obtain rfl := (List.cons.inj same).1
  rcases first with digit | rfl
  · rw [toLower_of_isDigit digit] at lower
    rcases lower with rfl | rfl
    · exact absurd digit (by decide)
    · exact absurd digit (by decide)
  · exact absurd lower (by decide)

theorem readBody?_eq_some :
    (readSpecial? negative s <|> readUnsigned? negative s) = some x ↔ Body negative s x := by
  rw [Option.orElse_eq_some]
  constructor
  · rintro (special | ⟨-, decimal⟩)
    · exact .special (readSpecial?_eq_some.mp special)
    · obtain ⟨v, unsigned, rounded⟩ := readUnsigned?_eq_some.mp decimal
      exact .decimal unsigned rounded
  · intro body
    cases body with
    | special word => exact .inl (readSpecial?_eq_some.mpr word)
    | decimal unsigned rounded =>
        refine .inr ⟨Option.eq_none_iff_forall_ne_some.mpr fun y read => ?_,
          readUnsigned?_eq_some.mpr ⟨_, unsigned, rounded⟩⟩
        exact unsigned.not_special (readSpecial?_eq_some.mp read)

/-- What is read of a text is the number that it stands for as a literal. -/
theorem readReal?_eq_some : readReal? s = some x ↔ Literal s x := by
  have signed : Literal s x ↔ ∃ r negative t, Sign r negative ∧ s = r ++ t ∧ Body negative t x := by
    constructor
    · rintro ⟨sign, body⟩
      exact ⟨_, _, _, sign, rfl, body⟩
    · rintro ⟨r, negative, t, sign, rfl, body⟩
      exact ⟨sign, body⟩
  rw [signed, sign_iff Body.not_sign]
  unfold readReal?
  split
  · exact readBody?_eq_some
  · exact readBody?_eq_some
  · simp only [readBody?_eq_some]

/-- A text stands for one number only. -/
theorem Literal.unique {y : Binary64} (first : Literal s x) (second : Literal s y) : x = y :=
  Option.some.inj ((readReal?_eq_some.mpr first).symm.trans (readReal?_eq_some.mpr second))

end Dossier.Number
