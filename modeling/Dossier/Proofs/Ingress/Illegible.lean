import Dossier.Proofs.Ingress.Malformed

/-! # Lines that are no text

Every line of a stream that is not blank gets one reply, in order, and a malformed line spares the replies to all
others, as long as all lines are text. The reader stops for good at a line that is none: neither this line nor any
behind it is ever answered. Main statement: `replied_up_to_illegible`.
-/

namespace Dossier

namespace Program

/-- Whether a line is text. -/
def isLegible (line : List UInt8) : Bool :=
  (Text.ofUtf8? line).isSome

/-- Whether a line is a text of blanks only. -/
def isBlankLine (line : List UInt8) : Bool :=
  (Text.ofUtf8? line).any fun text => (Text.trim text).isEmpty

theorem textLines_cons {line : List UInt8} {text : String} (legible : Text.ofUtf8? line = some text)
    (rest : List (List UInt8)) : textLines (line :: rest) = text :: textLines rest := by
  rw [textLines, legible]

theorem textLines_illegible {line : List UInt8} (illegible : Text.ofUtf8? line = none)
    (rest : List (List UInt8)) : textLines (line :: rest) = [] := by
  rw [textLines, illegible]

theorem textLines_append {front : List (List UInt8)} (legible : ∀ line ∈ front, isLegible line = true)
    (rest : List (List UInt8)) : textLines (front ++ rest) = textLines front ++ textLines rest := by
  induction front with
  | nil => rfl
  | cons line front ih =>
      obtain ⟨first, others⟩ := List.forall_mem_cons.mp legible
      obtain ⟨text, read⟩ := Option.isSome_iff_exists.mp first
      rw [List.cons_append, textLines_cons read, textLines_cons read, ih others, List.cons_append]

/-- Nothing behind a line that is no text is read. -/
theorem textLines_of_illegible {front : List (List UInt8)} (illegible : ∃ line ∈ front, isLegible line = false)
    (rest : List (List UInt8)) : textLines (front ++ rest) = textLines front := by
  induction front with
  | nil => simp at illegible
  | cons line front ih =>
      rw [List.cons_append]
      cases read : Text.ofUtf8? line with
      | none => rw [textLines_illegible read, textLines_illegible read]
      | some text =>
          obtain ⟨bad, member, none⟩ := illegible
          rcases List.mem_cons.mp member with rfl | later
          · simp [isLegible, read] at none
          · rw [textLines_cons read, textLines_cons read, ih ⟨bad, later, none⟩]

end Program

namespace Ingress

open Service Program
open Relation (ReflTransGen)

/-- The lines that are read and not blank are all that are not blank just if all lines are text. -/
theorem length_asked_textLines (lines : List (List UInt8)) :
    (asked (textLines lines)).length ≤ (lines.filter (!isBlankLine ·)).length ∧
    ((asked (textLines lines)).length = (lines.filter (!isBlankLine ·)).length ↔
      ∀ line ∈ lines, isLegible line = true) := by
  induction lines with
  | nil => simp [textLines, asked]
  | cons line rest ih =>
      obtain ⟨few, all⟩ := ih
      rw [List.forall_mem_cons, ← all]
      cases read : Text.ofUtf8? line with
      | none =>
          have shown : isBlankLine line = false := by simp [isBlankLine, read]
          simp [textLines_illegible read, shown, isLegible, read, asked]
      | some text =>
          have same : isBlankLine line = (Text.trim text).isEmpty := by simp [isBlankLine, read]
          rw [textLines_cons read, asked_cons, List.filter_cons, same]
          cases (Text.trim text).isEmpty with
          | true => simpa [isLegible, read] using few
          | false => simpa [isLegible, read] using few

namespace Console

variable {π : Type}

/-- A console with a stream of bytes in front of it. -/
def start (stream : List UInt8) (affairs : Affairs π) : Console π :=
  { unread := splitLines [] stream, affairs }

/-- What consoles have in front of them with a malformed line and without it. -/
theorem lacks_start {front back : List (List UInt8)} {bad : List UInt8} {line message : String}
    (legible : Text.ofUtf8? bad = some line) {x y : Console π} (with_ : x.coming = textLines (front ++ bad :: back))
    (without : y.coming = textLines (front ++ back)) (mirror : Mirror x y) (free : x.hand = none)
    (new : x.replies = []) (also : y.replies = []) :
    Lacks line message (asked (textLines front)).length x y := by
  have none : x.begun = 0 := by rw [begun, free, new]; rfl
  by_cases all : ∀ line ∈ front, isLegible line = true
  · rw [textLines_append all, textLines_cons legible] at with_
    rw [textLines_append all] at without
    exact .ahead ⟨mirror, with_, without, also.trans new.symm, by rw [none, Nat.zero_add]⟩
  · have bad : ∃ line ∈ front, isLegible line = false := by simpa using all
    rw [textLines_of_illegible bad] at with_ without
    refine .past ⟨mirror, without.trans with_.symm, ?_, .inr ?_⟩
    · rw [also, new, List.eraseIdx_nil]
    · rw [none, with_, Nat.zero_add]

/-- A console that starts can read all its lines before anything else happens. -/
theorem exists_ahead (c : Collaborators π) (q : QueueSettings) (stream : List UInt8) (affairs : Affairs π) :
    ∃ x : Console π, ReflTransGen (Step c q) (start stream affairs) x ∧ x.unread = [] ∧
      x.coming = lines stream ∧ x.hand = none ∧ x.replies = [] ∧ x.affairs = affairs := by
  have ahead := steps_ahead (c := c) (q := q) (splitLines [] stream) [] (start stream affairs)
  rw [List.nil_append] at ahead
  exact ⟨_, ahead, rfl, List.append_nil _, rfl, rfl, rfl⟩

variable {stream other : List UInt8} {front back : List (List UInt8)} {bad : List UInt8} {line message : String}

/-- With a malformed line and without it a console can end with the same replies to all other lines. -/
theorem spares (given : splitLines [] stream = front ++ bad :: back) (without : splitLines [] other = front ++ back)
    (legible : Text.ofUtf8? bad = some line) (malformed : Malformed line message) (c : Collaborators π)
    (q : QueueSettings) (affairs : Affairs π) :
    let n := (asked (textLines front)).length
    (∀ x, ReflTransGen (Step c q) (start stream affairs) x → x.Finished →
      ∃ y, ReflTransGen (Step c q) (start other affairs) y ∧ y.Finished ∧
        y.replies = x.replies.eraseIdx n ∧ x.affairs.Alike y.affairs) ∧
    ∀ y, ReflTransGen (Step c q) (start other affairs) y → y.Finished →
      ∃ x, ReflTransGen (Step c q) (start stream affairs) x ∧ x.Finished ∧
        y.replies = x.replies.eraseIdx n ∧ x.affairs.Alike y.affairs := by
  intro n
  have all : (start stream affairs).coming = textLines (front ++ bad :: back) := congrArg textLines given
  have most : (start other affairs).coming = textLines (front ++ back) := congrArg textLines without
  constructor
  · intro x steps finished
    obtain ⟨y, ahead, read, coming, free, new, same⟩ := exists_ahead c q other affairs
    have mirror : Mirror (start stream affairs) y := ⟨free, same ▸ .refl affairs⟩
    have begun : Lacks line message n (start stream affairs) y :=
      lacks_start legible all (coming.trans most) mirror rfl rfl new
    obtain ⟨z, further, unread, lacks⟩ := begun.follow_steps malformed read steps
    have past := lacks.past_of_finished finished
    exact ⟨z, ahead.trans further, past.finished_right unread finished, past.replies, past.affairs⟩
  · intro y steps finished
    obtain ⟨x, ahead, read, coming, free, new, same⟩ := exists_ahead c q stream affairs
    have mirror : Mirror x (start other affairs) := ⟨free.symm, same ▸ .refl affairs⟩
    have begun : Lacks line message n x (start other affairs) :=
      lacks_start legible (coming.trans all) most mirror free new rfl
    obtain ⟨z, further, unread, lacks⟩ := begun.lead_steps malformed read steps
    obtain ⟨last, more, unread, past⟩ := lacks.finish malformed unread finished c q
    exact ⟨last, ahead.trans (further.trans more), past.finished_left unread finished, past.replies, past.affairs⟩

end Console

variable {π : Type}

/-- Lines are answered, while the consumers do whatever they do: those in front of the first that is no text, without
the blank ones, get one reply each, in order, a malformed one an error, and from any point on they can be answered to
the end. So all lines that are not blank are answered just if all lines are text. And a malformed line makes no
difference but its own reply: with it and without it the console can end in the same ways. -/
theorem replied_up_to_illegible (c : Collaborators π) (q : QueueSettings) (affairs : Affairs π) (stream : List UInt8) :
    (∀ x, ReflTransGen (Console.Step c q) (.start stream affairs) x →
      (∃ answered later, asked (lines stream) = answered ++ later ∧ List.Forall₂ Fits answered x.replies ∧
        (x.Finished → later = [])) ∧
      (∃ y, ReflTransGen (Console.Step c q) x y ∧ y.Finished) ∧
      (x.Finished → (x.replies.length = ((splitLines [] stream).filter (!isBlankLine ·)).length ↔
        ∀ line ∈ splitLines [] stream, isLegible line = true))) ∧
    (∀ front bad back, splitLines [] stream = front ++ bad :: back → isLegible bad = false →
      lines stream = textLines front) ∧
    ∀ front bad back other line fault, splitLines [] stream = front ++ bad :: back →
      splitLines [] other = front ++ back → Text.ofUtf8? bad = some line → (Text.trim line).isEmpty = false →
      Command.read (Text.trim line) = .error fault →
      let n := (asked (textLines front)).length
      (∀ x, ReflTransGen (Console.Step c q) (.start stream affairs) x → x.Finished →
        ∃ y, ReflTransGen (Console.Step c q) (.start other affairs) y ∧ y.Finished ∧
          y.replies = x.replies.eraseIdx n ∧ x.affairs.Alike y.affairs) ∧
      ∀ y, ReflTransGen (Console.Step c q) (.start other affairs) y → y.Finished →
        ∃ x, ReflTransGen (Console.Step c q) (.start stream affairs) x ∧ x.Finished ∧
          y.replies = x.replies.eraseIdx n ∧ x.affairs.Alike y.affairs := by
  refine ⟨fun x steps => ?_, ?_, ?_⟩
  · have tracks := (Console.tracks_start (splitLines [] stream) affairs).steps steps
    obtain ⟨answered, held, same, fits, holds⟩ := tracks.split
    rw [List.append_assoc] at same
    have nothing (finished : x.Finished) : held ++ asked x.coming = [] := by
      rw [finished.hand] at holds
      cases holds
      rw [finished.coming]
      rfl
    refine ⟨⟨answered, _, same, fits, nothing⟩, Console.steps_to_end c q x, fun finished => ?_⟩
    rw [nothing finished, List.append_nil] at same
    rw [← fits.length_eq, ← same]
    exact (length_asked_textLines _).2
  · intro front bad back split illegible
    have none : Text.ofUtf8? bad = none := by simpa [isLegible] using illegible
    have stops : textLines ((front ++ [bad]) ++ back) = textLines (front ++ [bad]) :=
      textLines_of_illegible ⟨bad, by simp, illegible⟩ back
    rw [lines, split, List.append_cons, stops]
    by_cases all : ∀ line ∈ front, isLegible line = true
    · rw [textLines_append all, textLines_illegible none, List.append_nil]
    · exact textLines_of_illegible (by simpa using all) _
  · intro front bad back other line fault split without legible asks unread
    exact Console.spares split without legible ⟨asks, fault, unread, rfl⟩ c q affairs

/-- A stream of lines, each with its line feed. -/
def streamOf (lines : List (List UInt8)) : List UInt8 :=
  lines.flatMap (· ++ [lineFeed])

/-- A line that is not even the beginning of a command. -/
def braceLine : String := "\x7b"

theorem repliesTo_resultsLine (clock : Nat → Timestamp) :
    repliesTo (.reliable [] (fun _ => .ok .ready) clock) { store := .empty } [resultsLine] = [.results []] := by
  have done := answer_of_ok (c := .reliable [] (fun _ => .ok .ready) clock) (s := { store := .empty })
    read_resultsLine rfl
  have sorted : Row.sortByTime [] = [] := List.mergeSort_nil
  rw [repliesTo, done]
  exact congrArg (fun rows => [Reply.results rows]) sorted

/-- Without other lines a question is answered. -/
theorem results_replied (q : QueueSettings) :
    let c : Collaborators Endpoint := .reliable [] (fun _ => .ok .ready) dayClock
    ∃ y, ReflTransGen (Console.Step c q) (.start (streamOf [bytes resultsLine]) (.start .empty)) y ∧ y.Finished ∧
      y.replies = [.results []] := by
  intro c
  obtain ⟨y, steps, finished, -, replied⟩ :=
    Console.steps_free c q (.start (streamOf [bytes resultsLine]) (.start .empty)) rfl
  have coming : (Console.start (streamOf [bytes resultsLine]) (.start .empty : Affairs Endpoint)).coming =
      [resultsLine] := by decide +kernel
  have asking : asked [resultsLine] = [resultsLine] := by decide +kernel
  rw [coming, asking] at replied
  exact ⟨y, steps, finished, replied.trans (repliesTo_resultsLine dayClock)⟩

/-- A line that is no command is answered, and the question behind it as it would be without that line. -/
theorem brace_spared :
    let c : Collaborators Endpoint := .reliable [] (fun _ => .ok .ready) dayClock
    ∃ x, ReflTransGen (Console.Step c {}) (.start (streamOf [bytes braceLine, bytes resultsLine]) (.start .empty)) x ∧
      x.Finished ∧ x.replies.length = 2 ∧ x.replies.eraseIdx 0 = [.results []] := by
  intro c
  have split : splitLines [] (streamOf [bytes braceLine, bytes resultsLine]) =
      [] ++ bytes braceLine :: [bytes resultsLine] := by decide +kernel
  have without : splitLines [] (streamOf [bytes resultsLine]) = [] ++ [bytes resultsLine] := by decide +kernel
  have legible : Text.ofUtf8? (bytes braceLine) = some braceLine := by decide +kernel
  have asks : (Text.trim braceLine).isEmpty = false := by decide +kernel
  obtain ⟨fault, unread⟩ : ∃ fault, Command.read (Text.trim braceLine) = .error fault := ⟨_, by cbv⟩
  obtain ⟨y, answering, ended, replied⟩ := results_replied {}
  obtain ⟨each, -, spared⟩ := replied_up_to_illegible c {} (.start .empty)
    (streamOf [bytes braceLine, bytes resultsLine])
  obtain ⟨-, also⟩ := spared _ _ _ _ _ _ split without legible asks unread
  obtain ⟨x, steps, finished, same, -⟩ := also y answering ended
  have all : ∀ line ∈ splitLines [] (streamOf [bytes braceLine, bytes resultsLine]), isLegible line = true := by
    decide +kernel
  have shown : ((splitLines [] (streamOf [bytes braceLine, bytes resultsLine])).filter
      (!isBlankLine ·)).length = 2 := by decide +kernel
  exact ⟨x, steps, finished, (((each x steps).2.2 finished).mpr all).trans shown, same.symm.trans replied⟩

/-- A line that is no text is not answered, nor is the question behind it, which would be without that line. -/
theorem illegible_line_silences :
    let c : Collaborators Endpoint := .reliable [] (fun _ => .ok .ready) dayClock
    let stream := streamOf [[0xFF], bytes resultsLine]
    (splitLines [] stream).filter (!isBlankLine ·) = [[0xFF], bytes resultsLine] ∧
    (∀ x, ReflTransGen (Console.Step c {}) (.start stream (.start .empty)) x → x.replies = []) ∧
    ∃ y, ReflTransGen (Console.Step c {}) (.start (streamOf [bytes resultsLine]) (.start .empty)) y ∧ y.Finished ∧
      y.replies = [.results []] := by
  intro c stream
  refine ⟨by decide +kernel, fun x steps => ?_, results_replied {}⟩
  have nothing : asked (textLines (splitLines [] stream)) = [] := by decide +kernel
  obtain ⟨answered, held, same, fits, -⟩ := ((Console.tracks_start _ _).steps steps).split
  rw [nothing] at same
  have none : answered = [] := (List.append_eq_nil_iff.mp (List.append_eq_nil_iff.mp same.symm).1).1
  rw [none] at fits
  exact List.forall₂_nil_left_iff.mp fits

end Ingress

end Dossier
