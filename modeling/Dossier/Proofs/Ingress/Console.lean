import Dossier.Proofs.Consumer.Silence
import Dossier.Proofs.Ingress.Framing

/-! # The console

Lines come from a reader that goes ahead of those who answer them, while the consumers do their work; so between any
two acts for a line the service may have changed. Still the lines that the reader hands on are answered one after the
other, each once, and they can always be answered to the end. Main statements: `Console.Tracks.step` and
`Console.steps_to_end`.
-/

namespace Dossier

open Relation (ReflTransGen)

namespace Service

variable {π ε α β : Type}

/-- Whether whatever a task can end with satisfies a condition. -/
def Task.EndsAs (p : Except ε α → Prop) : Task π ε α → Prop
  | .done outcome => p outcome
  | .doing _ rest => ∀ b, (rest b).EndsAs p

theorem Task.ends_bind {p : Except ε β → Prop} {next : α → Task π ε β} (task : Task π ε α)
    (more : ∀ a, (next a).EndsAs p) (fails : ∀ failure, p (.error failure)) : (task >>= next).EndsAs p := by
  induction task with
  | done outcome =>
      cases outcome with
      | ok a => exact more a
      | error failure => exact fails failure
  | doing deed rest ih => exact fun b => ih b

/-- Whether whatever some work can end with satisfies a condition. -/
def Work.EndsAs (p : α → Prop) : Work π α → Prop
  | .done a => p a
  | .doing _ rest => ∀ b, (rest b).EndsAs p

theorem Work.ends_ofTask {p : Except ε α → Prop} {task : Task π ε α} (ends : task.EndsAs p) :
    (ofTask task).EndsAs p := by
  induction task with
  | done outcome => exact ends
  | doing deed rest ih => exact fun b => ih b (ends b)

theorem Work.EndsAs.bind {p : α → Prop} {p' : β → Prop} {work : Work π α} {next : α → Work π β}
    (ends : work.EndsAs p) (more : ∀ a, p a → (next a).EndsAs p') : (work >>= next).EndsAs p' := by
  induction work with
  | done a => exact more a ends
  | doing act rest ih => exact fun b => ih b (ends b)

end Service

namespace Ingress

open Service Program

variable {π : Type} {c : Collaborators π} {q : QueueSettings}

/-- Whether a reply is one to a line. -/
inductive Fits (line : String) : Reply → Prop where
  | malformed {fault : Json.Fault} (unread : Command.read line = .error fault) : Fits line (.error fault.message)
  | accepted {event : Event} (read : Command.read line = .ok (.initiate event)) : Fits line (.accepted event.id)
  | results {documentId : Uuid} {processors : Option (List ProcessorRef)}
      (read : Command.read line = .ok (.results documentId processors)) (rows : List Row) : Fits line (.results rows)
  | recorded {row : Row} (read : Command.read line = .ok (.record row)) : Fits line .recorded
  | failed {command : Command} (read : Command.read line = .ok command) (failure : ServiceFailure) :
      Fits line (.error failure.chainText)

theorem ends_serve {line : String} {command : Command} (c : Collaborators π)
    (read : Command.read line = .ok command) :
    (Task.serve c command).EndsAs fun outcome => ∀ reply, outcome = .ok reply → Fits line reply := by
  have fails (failure : ServiceFailure) (reply : Reply) (same : Except.error failure = Except.ok reply) :
      Fits line reply := nomatch same
  have ends {reply : Reply} (fits : Fits line reply) :
      (pure reply : Task π ServiceFailure Reply).EndsAs fun outcome =>
        ∀ reply, outcome = .ok reply → Fits line reply := by
    rintro _ ⟨⟩
    exact fits
  cases command with
  | initiate event =>
      apply Task.ends_bind _ _ fails
      intro _
      apply Task.ends_bind _ _ fails
      intro _
      exact ends (.accepted read)
  | results documentId processors =>
      cases processors with
      | none => exact Task.ends_bind _ (fun rows => ends (.results read _)) fails
      | some processors => exact Task.ends_bind _ (fun rows => ends (.results read _)) fails
  | record row => exact Task.ends_bind _ (fun _ => ends (.recorded read)) fails

/-- The work on a line ends with a reply to the line. -/
theorem ends_line (c : Collaborators π) (line : String) : (Work.line c line).EndsAs (Fits line) := by
  unfold Work.line Procedure.answer
  cases read : Command.read line with
  | error fault => exact fun _ => .malformed read
  | ok command =>
      apply (Work.ends_ofTask (ends_serve c read)).bind
      intro outcome fits
      cases outcome with
      | ok reply => exact fits reply rfl
      | error failure => exact fun _ => .failed read failure

/-- Lines on their way to their replies, and all else that the service does meanwhile. -/
structure Console (π : Type) : Type 1 where
  /-- The lines that the reader has in front of it. -/
  unread : List (List UInt8)
  /-- The lines that the reader has handed on. -/
  waiting : List String := []
  /-- What is left to do for the line that is being answered, if one is. -/
  hand : Option (Work π Reply) := none
  replies : List Reply := []
  affairs : Affairs π

namespace Console

/-- What can happen next. -/
inductive Step (c : Collaborators π) (q : QueueSettings) : Console π → Console π → Prop where
  | read {x : Console π} {line : List UInt8} {rest : List (List UInt8)} {text : String}
      (next : x.unread = line :: rest) (legible : Text.ofUtf8? line = some text) :
      Step c q x { x with unread := rest, waiting := x.waiting ++ [text] }
  /-- The reader stops at a line that is no text. -/
  | giveUp {x : Console π} {line : List UInt8} {rest : List (List UInt8)}
      (next : x.unread = line :: rest) (illegible : Text.ofUtf8? line = none) :
      Step c q x { x with unread := [] }
  | pass {x : Console π} {line : String} {rest : List String} (free : x.hand = none)
      (next : x.waiting = line :: rest) (blank : (Text.trim line).isEmpty = true) :
      Step c q x { x with waiting := rest }
  | take {x : Console π} {line : String} {rest : List String} (free : x.hand = none)
      (next : x.waiting = line :: rest) (asks : (Text.trim line).isEmpty = false) :
      Step c q x { x with waiting := rest, hand := some (.line c (Text.trim line)) }
  | proceed {x : Console π} {β : Type} {act : Act π β} {rest : β → Work π Reply}
      (held : x.hand = some (.doing act rest)) (o : Others π) :
      Step c q x { x with
        hand := some (rest (act.perform o x.affairs.service).1)
        affairs := x.affairs.next (act.perform o x.affairs.service).2
          (act.lookups (act.perform o x.affairs.service).1) x.affairs.works }
  | reply {x : Console π} {reply : Reply} (held : x.hand = some (.done reply)) :
      Step c q x { x with hand := none, replies := x.replies ++ [reply] }
  /-- Something happens to the affairs of the consumers, all of whose works are on deliveries. -/
  | others {x : Console π} {affairs : Affairs π} (step : Affairs.Step c q x.affairs affairs)
      (away : ∀ work ∈ affairs.works, work.1 = Receipt) :
      Step c q x { x with affairs }

/-- The lines that are still to be answered. -/
def coming (x : Console π) : List String :=
  x.waiting ++ textLines x.unread

/-- Whether nothing is left to read or to answer. -/
structure Finished (x : Console π) : Prop where
  unread : x.unread = []
  waiting : x.waiting = []
  hand : x.hand = none

theorem Finished.coming {x : Console π} (finished : x.Finished) : x.coming = [] := by
  rw [Console.coming, finished.waiting, finished.unread]
  rfl

/-- What is in hand: work that can only end with a reply to the line. -/
inductive Holds : Option (Work π Reply) → List String → Prop where
  | nothing : Holds none []
  | line {work : Work π Reply} {line : String} (ends : work.EndsAs (Fits line)) : Holds (some work) [line]

theorem holds_line (c : Collaborators π) (line : String) : Holds (some (Work.line c line)) [line] :=
  .line (ends_line c line)

/-- Whether a console answers what is asked: the replies are those to the first of it, the next is in hand, perhaps,
and the others are still to come. -/
structure Tracks (asking : List String) (x : Console π) : Prop where
  split : ∃ answered held, asking = answered ++ held ++ asked x.coming ∧
    List.Forall₂ Fits answered x.replies ∧ Holds x.hand held

variable {asking : List String} {x y : Console π}

theorem Tracks.step (tracks : Tracks asking x) (step : Step c q x y) : Tracks asking y := by
  obtain ⟨answered, held, same, fits, holds⟩ := tracks.split
  cases step with
  | @read line rest text next legible =>
      have coming : x.coming = x.waiting ++ [text] ++ textLines rest := by
        simp [Console.coming, next, textLines, legible]
      rw [coming] at same
      exact ⟨answered, held, same, fits, holds⟩
  | @giveUp line rest next illegible =>
      have coming : x.coming = x.waiting ++ textLines [] := by
        simp [Console.coming, next, textLines, illegible]
      rw [coming] at same
      exact ⟨answered, held, same, fits, holds⟩
  | @pass line rest free next blank =>
      have coming : asked x.coming = asked (rest ++ textLines x.unread) := by
        rw [Console.coming, next, List.cons_append, asked_cons, if_pos blank]
      rw [coming] at same
      exact ⟨answered, held, same, fits, holds⟩
  | @take line rest free next asks =>
      have coming : asked x.coming = [Text.trim line] ++ asked (rest ++ textLines x.unread) := by
        rw [Console.coming, next, List.cons_append, asked_cons, if_neg (by simp [asks])]
        rfl
      rw [free] at holds
      cases holds
      rw [coming, List.append_nil, ← List.append_assoc] at same
      exact ⟨answered, _, same, fits, holds_line c _⟩
  | @proceed β act rest inHand o =>
      rw [inHand] at holds
      cases holds with
      | line ends => exact ⟨answered, _, same, fits, .line (ends _)⟩
  | @reply reply inHand =>
      rw [inHand] at holds
      cases holds with
      | @line _ line ends =>
          refine ⟨answered ++ [line], [], ?_, List.rel_append fits (.cons ends .nil), .nothing⟩
          rw [List.append_nil]
          exact same
  | others step away => exact ⟨answered, held, same, fits, holds⟩

theorem Tracks.steps (tracks : Tracks asking x) (steps : ReflTransGen (Step c q) x y) : Tracks asking y := by
  induction steps with
  | refl => exact tracks
  | tail _ step ih => exact ih.step step

theorem tracks_start (lines : List (List UInt8)) (affairs : Affairs π) :
    Tracks (asked (textLines lines)) { unread := lines, affairs } :=
  ⟨[], [], rfl, .nil, .nothing⟩

theorem steps_ahead (unread : List (List UInt8)) (waiting : List String) (x : Console π) :
    ReflTransGen (Step c q) { x with unread, waiting }
      { x with unread := [], waiting := waiting ++ textLines unread } := by
  induction unread generalizing waiting with
  | nil =>
      rw [textLines, List.append_nil]
  | cons line rest ih =>
      cases legible : Text.ofUtf8? line with
      | none =>
          have given := Step.giveUp (c := c) (q := q) (x := { x with unread := line :: rest, waiting }) rfl legible
          simpa [textLines, legible] using ReflTransGen.single given
      | some text =>
          have read := Step.read (c := c) (q := q) (x := { x with unread := line :: rest, waiting }) rfl legible
          have further := ih (waiting ++ [text])
          rw [List.append_assoc] at further
          simpa [textLines, legible] using ReflTransGen.head read further

/-- What is in hand is carried out, if nobody else does anything meanwhile. -/
theorem steps_hand (o : Others π) (work : Work π Reply) (x : Console π) :
    ∃ affairs, affairs.service = (work.run o x.affairs.service).2 ∧
      ReflTransGen (Step c q) { x with hand := some work } { x with
        hand := none, replies := x.replies ++ [(work.run o x.affairs.service).1], affairs } := by
  induction work generalizing x with
  | done reply =>
      exact ⟨x.affairs, rfl, .single (.reply (x := { x with hand := some (.done reply) }) rfl)⟩
  | doing act rest ih =>
      let moved : Console π := { x with
        affairs := x.affairs.next (act.perform o x.affairs.service).2
          (act.lookups (act.perform o x.affairs.service).1) x.affairs.works }
      obtain ⟨affairs, served, steps⟩ := ih (act.perform o x.affairs.service).1 moved
      exact ⟨affairs, served, .head (.proceed (x := { x with hand := some (.doing act rest) }) rfl o) steps⟩

/-- Lines that wait are answered, if nobody else does anything meanwhile. -/
theorem steps_waiting (lines : List String) (x : Console π) :
    ∃ affairs, affairs.service = answerAll c x.affairs.service (asked lines) ∧
      ReflTransGen (Step c q) { x with waiting := lines, hand := none } { x with
        waiting := [], hand := none, affairs
        replies := x.replies ++ repliesTo c x.affairs.service (asked lines) } := by
  induction lines generalizing x with
  | nil =>
      refine ⟨x.affairs, rfl, ?_⟩
      simp only [asked, List.map_nil, List.filter_nil, repliesTo, List.append_nil]
      exact .refl
  | cons line rest ih =>
      cases blank : (Text.trim line).isEmpty with
      | true =>
          rw [asked_cons, if_pos blank]
          obtain ⟨affairs, served, steps⟩ := ih x
          refine ⟨affairs, served, .head ?_ steps⟩
          exact .pass (x := { x with waiting := line :: rest, hand := none }) rfl rfl blank
      | false =>
          rw [asked_cons, if_neg (by simp [blank])]
          have taken : Step c q { x with waiting := line :: rest, hand := none }
              { x with waiting := rest, hand := some (.line c (Text.trim line)) } :=
            .take (x := { x with waiting := line :: rest, hand := none }) rfl rfl blank
          obtain ⟨between, answered, working⟩ :=
            steps_hand (c := c) (q := q) (others c Affairs.nobody) (.line c (Text.trim line)) { x with waiting := rest }
          rw [Work.run_line] at answered working
          obtain ⟨affairs, served, steps⟩ := ih { x with
            replies := x.replies ++ [(answer c (Text.trim line) x.affairs.service).1], affairs := between }
          rw [answered] at served steps
          rw [List.append_assoc] at steps
          rw [answerAll_cons, repliesTo]
          exact ⟨affairs, served, .head taken (working.trans steps)⟩

/-- All lines are answered, if nobody else does anything meanwhile. -/
theorem steps_free (c : Collaborators π) (q : QueueSettings) (x : Console π) (free : x.hand = none) :
    ∃ y, ReflTransGen (Step c q) x y ∧ y.Finished ∧
      y.affairs.service = answerAll c x.affairs.service (asked x.coming) ∧
      y.replies = x.replies ++ repliesTo c x.affairs.service (asked x.coming) := by
  obtain ⟨affairs, served, steps⟩ := steps_waiting (c := c) (q := q) x.coming { x with unread := [] }
  have ahead := steps_ahead (c := c) (q := q) x.unread x.waiting x
  rw [← free] at steps
  exact ⟨_, ahead.trans steps, ⟨rfl, rfl, free⟩, served, rfl⟩

/-- Whatever has happened, all lines can be answered to the end. -/
theorem steps_to_end (c : Collaborators π) (q : QueueSettings) (x : Console π) :
    ∃ y, ReflTransGen (Step c q) x y ∧ y.Finished := by
  cases held : x.hand with
  | none =>
      obtain ⟨y, steps, finished, -⟩ := steps_free c q x held
      exact ⟨y, steps, finished⟩
  | some work =>
      obtain ⟨affairs, -, working⟩ := steps_hand (c := c) (q := q) (others c Affairs.nobody) work x
      rw [← held] at working
      obtain ⟨y, steps, finished, -⟩ := steps_free c q { x with
        hand := none, replies := x.replies ++ [(work.run (others c Affairs.nobody) x.affairs.service).1], affairs } rfl
      exact ⟨y, working.trans steps, finished⟩

end Console

end Ingress

end Dossier
