import Dossier.Proofs.Json.Number

/-! # One line

The text of a value stands on one line, whatever strings and keys are in it: of the characters that JSON counts as
blanks there is none in it but spaces. Main statement: `lineFeed_not_mem_text`.
-/

namespace Dossier.Json

open Dossier.Number Reader

/-- Whether a text has no blanks but spaces. -/
def OneLine (s : List Char) : Prop :=
  ∀ c ∈ s, isSpace c = true → c = ' '

theorem oneLine_nil : OneLine [] := by
  intro c member
  cases member

theorem OneLine.cons {c : Char} {s : List Char} (first : isSpace c = true → c = ' ') (rest : OneLine s) :
    OneLine (c :: s) := by
  intro d member space
  rcases List.mem_cons.mp member with rfl | later
  · exact first space
  · exact rest d later space

theorem OneLine.append {s t : List Char} (first : OneLine s) (second : OneLine t) : OneLine (s ++ t) := by
  intro c member space
  rcases List.mem_append.mp member with left | right
  · exact first c left space
  · exact second c right space

theorem oneLine_of_visible {s : List Char} (visible : ∀ c ∈ s, isSpace c = false) : OneLine s := by
  intro c member space
  rw [visible c member] at space
  cases space

theorem isSpace_hexDigits {width n : Nat} : ∀ c ∈ hexDigits width n, isSpace c = false := by
  have digits : ∀ d < 16, isSpace (digitChar d) = false := by decide
  intro c member
  obtain ⟨d, less, rfl⟩ := hexValue?_hexDigits member
  exact digits d less

/-- Blanks other than spaces are written as escapes. -/
theorem oneLine_escape (c : Char) : OneLine (escape c) := by
  fun_cases escape c with
  | case8 =>
      apply OneLine.cons (by decide)
      apply OneLine.cons (by decide)
      exact oneLine_of_visible isSpace_hexDigits
  | case9 _ _ _ _ feed back tab =>
      refine OneLine.cons (fun space => ?_) oneLine_nil
      simp only [isSpace, Bool.or_eq_true, beq_iff_eq] at space
      rcases space with ((rfl | rfl) | rfl) | rfl
      · rfl
      · contradiction
      · contradiction
      · contradiction
  | _ => exact .cons (by decide) (.cons (by decide) oneLine_nil)

theorem oneLine_printString (s : String) : OneLine (printString s) := by
  have inside : OneLine (s.toList.flatMap escape) := by
    intro c member
    obtain ⟨d, -, written⟩ := List.mem_flatMap.mp member
    exact oneLine_escape d c written
  exact .cons (by decide) (inside.append (.cons (by decide) oneLine_nil))

/-- The text of a member is its key, a colon and its value. -/
theorem oneLine_member (key : String) {value : List Char} (written : OneLine value) :
    OneLine (printString key ++ ':' :: value) :=
  (oneLine_printString key).append (.cons (by decide) written)

mutual
theorem oneLine_print : ∀ json : Json, OneLine json.print
  | .null | .bool true | .bool false => by
      apply oneLine_of_visible
      simp only [← Bool.not_eq_true', ← List.all_eq_true]
      decide
  | .number n => oneLine_of_visible (isSpace_print n)
  | .string s => oneLine_printString s
  | .array items => .cons (by decide) (oneLine_printItems items)
  | .object members => .cons (by decide) (oneLine_printMembers members)

theorem oneLine_printItems : ∀ items : List Json, OneLine (printItems items)
  | [] => .cons (by decide) oneLine_nil
  | [item] => (oneLine_print item).append (.cons (by decide) oneLine_nil)
  | item :: next :: rest =>
      (oneLine_print item).append (.cons (by decide) (oneLine_printItems (next :: rest)))

theorem oneLine_printMembers : ∀ members : List (String × Json), OneLine (printMembers members)
  | [] => .cons (by decide) oneLine_nil
  | [(key, value)] => by
      have member := oneLine_member key (oneLine_print value)
      have closed : OneLine ['}'] := .cons (by decide) oneLine_nil
      exact member.append closed
  | (key, value) :: next :: rest => by
      have member := oneLine_member key (oneLine_print value)
      have others : OneLine (',' :: printMembers (next :: rest)) :=
        .cons (by decide) (oneLine_printMembers (next :: rest))
      exact member.append others
end

/-- No text of a value has a line feed in it. -/
theorem lineFeed_not_mem_text (json : Json) : '\n' ∉ json.text.toList := by
  intro member
  rw [text, String.toList_ofList] at member
  have space := oneLine_print json '\n' member rfl
  exact absurd space (by decide)

end Dossier.Json
