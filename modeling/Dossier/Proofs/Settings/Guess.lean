import Dossier.Proofs.Number.Layout
import Dossier.Settings.Decode
import Dossier.Settings.Environment

/-! # Text options from the environment

A variable that sets a text is first taken for a truth value or a number if it looks like one, and is then written as
such. Otherwise it keeps its text. Main statements: `decodeText_eq_ok`, `kept_iff` and `Shown.kept`.
-/

namespace Dossier.Settings

open Number

/-- The word for a truth value. -/
def truthWord (b : Bool) : String :=
  if b then "true" else "false"

/-- Which text a text option has where a variable has a text. A number that is an integer of 64 bits is written as an
integer; any other is written as a number of the floating point format. -/
inductive Shown : String → String → Prop
  | truth {s b} (word : Text.lower s = truthWord b) : Shown s (truthWord b)
  | whole {s n} (whole : Whole s.toList n) (fits : fitsWord n = true) : Shown s (decimalInt n)
  | real {s t x} (literal : Literal s.toList x) (other : ∀ n, Whole s.toList n → fitsWord n = false)
      (prints : Prints x t.toList) : Shown s t
  | text {s} (noTruth : ∀ b, Text.lower s ≠ truthWord b) (noLiteral : ∀ x, ¬Literal s.toList x) : Shown s s

/-- Which texts a text option keeps: those that look like no truth value or number, and truth values and numbers as they
are written. The zero behind a minus is an integer, which is written without. -/
inductive Kept : String → Prop
  | truth (b) : Kept (truthWord b)
  | whole {n} (fits : fitsWord n = true) : Kept (decimalInt n)
  | real {s x} (literal : Literal s.toList x) (prints : Prints x s.toList) (some : s ≠ "-0") : Kept s
  | text {s} (noTruth : ∀ b, Text.lower s ≠ truthWord b) (noLiteral : ∀ x, ¬Literal s.toList x) : Kept s

variable {s t : String} {x : Binary64} {n : Int} {place : Place} {source : Option Source}

theorem lower_eq_iff : Text.lower s = t ↔ s.toList.map Text.lowerChar = t.toList := by
  rw [← String.toList_inj, Text.lower, String.toList_map]

theorem literal_head {s : List Char} (literal : Literal s x) :
    ∃ c rest, s = c :: rest ∧ c.toLower ≠ 't' ∧ c.toLower ≠ 'f' := by
  obtain ⟨sign, body⟩ := literal
  cases sign with
  | none =>
      obtain ⟨c, rest, rfl, digit | rfl | letter | letter⟩ := body.head
      · refine ⟨c, rest, rfl, ?_⟩
        rw [toLower_of_isDigit digit]
        constructor
        all_goals
          rintro rfl
          exact absurd digit (by decide)
      · exact ⟨_, rest, rfl, by decide⟩
      · exact ⟨c, rest, rfl, by rw [letter]; decide⟩
      · exact ⟨c, rest, rfl, by rw [letter]; decide⟩
  | plus => exact ⟨_, _, rfl, by decide⟩
  | minus => exact ⟨_, _, rfl, by decide⟩

/-- No literal is a word for a truth value. -/
theorem noTruth_of_literal (literal : Literal s.toList x) (b : Bool) : Text.lower s ≠ truthWord b := by
  rw [Ne, lower_eq_iff]
  obtain ⟨c, rest, same, other⟩ := literal_head literal
  have lower : Text.lowerChar c = 'k' ∨ Text.lowerChar c = c.toLower := by
    unfold Text.lowerChar
    split
    · exact .inl rfl
    · exact .inr rfl
  rw [same, List.map_cons]
  intro word
  have first : Text.lowerChar c = 't' ∨ Text.lowerChar c = 'f' := by
    cases b
    · exact .inr (List.cons.inj word).1
    · exact .inl (List.cons.inj word).1
  rcases lower with lower | lower
  · rw [lower] at first
    exact absurd first (by decide)
  · rw [lower] at first
    exact first.elim other.1 other.2

/-- Integers are literals too. -/
theorem exists_literal {s : List Char} (whole : Whole s n) : ∃ x, Literal s x := by
  obtain ⟨sign, digits⟩ := whole
  exact ⟨_, sign, .decimal (Figures.whole digits).unsigned (rounded_nearestDecimal _ _ _)⟩

theorem scalarOfText_of_truth {b : Bool} (word : Text.lower s = truthWord b) : scalarOfText s = .bool b := by
  cases b
  · simp only [scalarOfText, word]
    rfl
  · simp only [scalarOfText, word]
    rfl

theorem scalarOfText_of_other (noTruth : ∀ b, Text.lower s ≠ truthWord b) :
    scalarOfText s = match (readInt? s.toList).filter fitsWord with
      | some n => .whole n
      | none => match readReal? s.toList with
        | some x => .real x
        | none => .text s := by
  unfold scalarOfText
  split
  · exact absurd ‹_› (noTruth true)
  · exact absurd ‹_› (noTruth false)
  · rfl

theorem scalarOfText_of_whole (whole : Whole s.toList n) (fits : fitsWord n = true) : scalarOfText s = .whole n := by
  obtain ⟨x, literal⟩ := exists_literal whole
  rw [scalarOfText_of_other (noTruth_of_literal literal), readInt?_eq_some.mpr whole, Option.filter_some_pos fits]

theorem filter_readInt?_eq_none (other : ∀ n, Whole s.toList n → fitsWord n = false) :
    (readInt? s.toList).filter fitsWord = none := by
  rw [Option.filter_eq_none_iff]
  intro n read
  rw [other n (readInt?_eq_some.mp read)]
  exact Bool.false_ne_true

theorem scalarOfText_of_real (literal : Literal s.toList x) (other : ∀ n, Whole s.toList n → fitsWord n = false) :
    scalarOfText s = .real x := by
  rw [scalarOfText_of_other (noTruth_of_literal literal), filter_readInt?_eq_none other]
  simp only [readReal?_eq_some.mpr literal]

theorem scalarOfText_of_text (noTruth : ∀ b, Text.lower s ≠ truthWord b) (noLiteral : ∀ x, ¬Literal s.toList x) :
    scalarOfText s = .text s := by
  have other (n : Int) (whole : Whole s.toList n) : fitsWord n = false :=
    (exists_literal whole).elim fun x literal => absurd literal (noLiteral x)
  have unread : readReal? s.toList = none :=
    Option.eq_none_iff_forall_ne_some.mpr fun x read => noLiteral x (readReal?_eq_some.mp read)
  rw [scalarOfText_of_other noTruth, filter_readInt?_eq_none other]
  simp only [unread]

theorem decodeText_of_shown (shown : Shown s t) : decodeText place (.scalar source (scalarOfText s)) = .ok t := by
  cases shown with
  | truth word =>
      rw [scalarOfText_of_truth word]
      rfl
  | whole whole fits =>
      rw [scalarOfText_of_whole whole fits]
      rfl
  | real literal other prints =>
      rw [scalarOfText_of_real literal other]
      exact congrArg Except.ok (String.toList_inj.mp ((prints_iff literal.regular).mp prints))
  | text noTruth noLiteral =>
      rw [scalarOfText_of_text noTruth noLiteral]
      rfl

theorem exists_shown (s : String) : ∃ t, Shown s t := by
  by_cases truth : ∃ b, Text.lower s = truthWord b
  · obtain ⟨b, word⟩ := truth
    exact ⟨_, .truth word⟩
  by_cases literal : ∃ x, Literal s.toList x
  · obtain ⟨x, literal⟩ := literal
    by_cases whole : ∃ n, Whole s.toList n ∧ fitsWord n = true
    · obtain ⟨n, whole, fits⟩ := whole
      exact ⟨_, .whole whole fits⟩
    · have other (n : Int) (known : Whole s.toList n) : fitsWord n = false :=
        Bool.eq_false_iff.mpr fun fits => whole ⟨n, known, fits⟩
      exact ⟨_, .real literal other (prints_text literal.regular)⟩
  · exact ⟨s, .text (fun b word => truth ⟨b, word⟩) fun x known => literal ⟨x, known⟩⟩

/-- What is decoded from the text of a variable is what it shows. -/
theorem decodeText_eq_ok : decodeText place (.scalar source (scalarOfText s)) = .ok t ↔ Shown s t := by
  constructor
  · intro decoded
    obtain ⟨u, shown⟩ := exists_shown s
    rw [decodeText_of_shown shown] at decoded
    exact Except.ok.inj decoded ▸ shown
  · exact decodeText_of_shown

example : Shown "1e3" "1000" := by
  have literal : Literal "1e3".toList (.finite false 8796093022208000 (-43)) := readReal?_eq_some.mp (by decide +kernel)
  refine .real literal (fun n whole => ?_) ((prints_iff literal.regular).mpr (by decide +kernel))
  cases readInt?_eq_some.mpr whole

theorem Shown.unique {u : String} (first : Shown s t) (second : Shown s u) : t = u := by
  have decoded : decodeText "" (.scalar none (scalarOfText s)) = .ok t := decodeText_of_shown first
  rw [decodeText_of_shown second] at decoded
  exact (Except.ok.inj decoded).symm

/-- What is shown is kept, if it is not zero behind a minus. -/
theorem Shown.kept (shown : Shown s t) (some : t ≠ "-0") : Kept t := by
  cases shown with
  | truth word => exact .truth _
  | whole whole fits => exact .whole fits
  | real literal other prints => exact .real (prints.literal literal.regular) prints some
  | text noTruth noLiteral => exact .text noTruth noLiteral

theorem Kept.shown (kept : Kept s) : Shown s s := by
  cases kept with
  | truth b => exact .truth (lower_eq_iff.mpr (by cases b <;> rfl))
  | whole fits => exact .whole (whole_decimalInt _) fits
  | real literal prints some =>
      by_cases whole : ∃ n, Whole s.toList n ∧ fitsWord n = true
      · obtain ⟨n, whole, fits⟩ := whole
        have same : s = decimalInt n :=
          String.toList_inj.mp ((prints.whole whole).resolve_right fun zero => some (String.toList_inj.mp zero))
        rw [same]
        exact .whole (whole_decimalInt n) fits
      · exact .real literal (fun n known => Bool.eq_false_iff.mpr fun fits => whole ⟨n, known, fits⟩) prints
  | text noTruth noLiteral => exact .text noTruth noLiteral

theorem shown_minus_zero : Shown "-0" "0" :=
  .whole (n := 0) (readInt?_eq_some.mp rfl) rfl

/-- What is kept shows itself. -/
theorem kept_iff : Kept s ↔ Shown s s := by
  constructor
  · exact Kept.shown
  · intro shown
    refine shown.kept ?_
    rintro rfl
    exact absurd (shown.unique shown_minus_zero) (by decide)

end Dossier.Settings
