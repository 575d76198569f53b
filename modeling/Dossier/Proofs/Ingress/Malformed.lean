import Dossier.Proofs.Ingress.Console

/-! # Malformed lines

To answer a malformed line is to tell of it, and nobody reads what is told. So a console that gets a malformed line can
do all that it could do without the line, and nothing else but to answer the line. Main statements: `Lacks.follow` and
`Lacks.lead`.
-/

namespace Dossier.Ingress.Console

open Service Program
open Relation (ReflTransGen)

variable {π : Type} {c : Collaborators π} {q : QueueSettings} {x y x' y' : Console π}

/-- How many lines are answered or about to be. -/
def begun (x : Console π) : Nat :=
  x.replies.length + x.hand.toList.length

/-- Whether consoles have the same in hand, and affairs that differ in nothing but what was told. -/
structure Mirror (x y : Console π) : Prop where
  hand : y.hand = x.hand
  affairs : x.affairs.Alike y.affairs

theorem Mirror.symm (mirror : Mirror x y) : Mirror y x :=
  ⟨mirror.hand.symm, mirror.affairs.symm⟩

/-- What a step of a console is in another that has the same in hand and has read all its lines. -/
inductive Mirror.Moves (c : Collaborators π) (q : QueueSettings) (x y x' : Console π) : Prop where
  /-- No line is taken up. -/
  | inside {z : Console π} (more : List Reply) (steps : ReflTransGen (Step c q) y z) (read : z.unread = [])
      (coming : x'.coming = x.coming) (same : z.coming = y.coming) (begun : x'.begun = x.begun)
      (held : z.begun = y.begun) (replied : x'.replies = x.replies ++ more)
      (likewise : z.replies = y.replies ++ more) (mirror : Mirror x' z)
  /-- The first line is taken up, and the other console can take it up as well if the line is its first. -/
  | next {line : String} {rest : List String} (coming : x.coming = line :: rest) (left : x'.coming = rest)
      (free : x.hand = none) (affairs : x'.affairs = x.affairs) (replied : x'.replies = x.replies)
      (hand : x'.hand = if (Text.trim line).isEmpty then none else some (.line c (Text.trim line)))
      (likewise : ∀ others, y.coming = line :: others → ∃ z, Step c q y z ∧ z.unread = [] ∧ z.coming = others ∧
        z.replies = y.replies ∧ Mirror x' z)

theorem coming_of_read (read : y.unread = []) : y.coming = y.waiting := by
  rw [coming, read, textLines, List.append_nil]

theorem Mirror.moves (mirror : Mirror x y) (read : y.unread = []) (step : Step c q x x') :
    Mirror.Moves c q x y x' := by
  have hand := mirror.hand
  cases step with
  | @read line rest text next legible =>
      refine .inside [] .refl read ?_ rfl rfl rfl (List.append_nil _).symm (List.append_nil _).symm
        ⟨hand, mirror.affairs⟩
      simp [coming, next, textLines, legible]
  | @giveUp line rest next illegible =>
      refine .inside [] .refl read ?_ rfl rfl rfl (List.append_nil _).symm (List.append_nil _).symm
        ⟨hand, mirror.affairs⟩
      simp [coming, next, textLines, illegible]
  | @pass line rest free next blank =>
      have first : x.coming = line :: (rest ++ textLines x.unread) := by rw [coming, next, List.cons_append]
      refine .next first rfl free rfl rfl (by rw [if_pos blank, free]) fun others same => ?_
      rw [coming_of_read read] at same
      refine ⟨_, .pass (hand.trans free) same blank, read, coming_of_read read, rfl, hand, mirror.affairs⟩
  | @take line rest free next asks =>
      have first : x.coming = line :: (rest ++ textLines x.unread) := by rw [coming, next, List.cons_append]
      refine .next first rfl free rfl rfl (by rw [if_neg (by simp [asks])]) fun others same => ?_
      rw [coming_of_read read] at same
      refine ⟨_, .take (hand.trans free) same asks, read, coming_of_read read, rfl, rfl, mirror.affairs⟩
  | @proceed β act rest held o =>
      obtain ⟨answer, further⟩ := act.alike o mirror.affairs.service
      have step := Step.proceed (c := c) (q := q) (hand.trans held) o
      rw [answer, mirror.affairs.works] at step
      refine .inside [] (.single step) read rfl rfl ?_ ?_ (List.append_nil _).symm (List.append_nil _).symm
        ⟨rfl, mirror.affairs.next further _ _⟩
      · simp [begun, held]
      · simp [begun, hand, held]
  | @reply reply held =>
      refine .inside [reply] (.single (.reply (hand.trans held))) read rfl rfl ?_ ?_ rfl rfl ⟨rfl, mirror.affairs⟩
      · simp [begun, held]
      · simp [begun, hand, held]
  | @others affairs step away =>
      obtain ⟨affairs', step', alike⟩ := mirror.affairs.step step
      have away' : ∀ work ∈ affairs'.works, work.1 = Receipt := by
        rw [alike.works]
        exact away
      exact .inside [] (.single (.others step' away')) read rfl rfl rfl rfl (List.append_nil _).symm
        (List.append_nil _).symm ⟨hand, alike⟩

/-- What is asked is counted when it is taken up. -/
theorem begun_next {line : String} (free : x.hand = none) (replied : x'.replies = x.replies)
    (hand : x'.hand = if (Text.trim line).isEmpty then none else some (.line c (Text.trim line)))
    (rest : List String) : x'.begun + (asked rest).length = x.begun + (asked (line :: rest)).length := by
  rw [asked_cons, begun, begun, free, hand, replied]
  split
  · rfl
  · simp only [Option.toList_some, Option.toList_none, List.length_cons, List.length_nil]
    omega

/-- Whether a line is malformed, with what is said of it. -/
structure Malformed (line message : String) : Prop where
  asks : (Text.trim line).isEmpty = false
  unread : ∃ fault, Command.read (Text.trim line) = .error fault ∧ fault.message = message

/-- What is left to do for a malformed line. -/
inductive Spoils (message : String) : Work π Reply → Prop where
  | tell (level : LogLevel) (text : String) (fields : List (String × String)) :
      Spoils message (.doing (.deed (.tell level text fields)) fun _ => .done (.error message))
  | done : Spoils message (.done (.error message))

theorem Malformed.spoils {line message : String} (malformed : Malformed line message) (c : Collaborators π) :
    Spoils message (Work.line c (Text.trim line)) := by
  obtain ⟨fault, unread, rfl⟩ := malformed.unread
  unfold Work.line Procedure.answer
  rw [unread]
  exact .tell _ _ _

/-- The malformed line is still to come. -/
structure Ahead (line : String) (n : Nat) (front back : List String) (x y : Console π) : Prop extends
    Mirror x y where
  coming : x.coming = front ++ line :: back
  others : y.coming = front ++ back
  replies : y.replies = x.replies
  count : x.begun + (asked front).length = n

/-- The malformed line is in hand. -/
structure Held (message : String) (n : Nat) (x y : Console π) : Prop where
  spoils : ∃ work, x.hand = some work ∧ Spoils message work
  free : y.hand = none
  affairs : x.affairs.Alike y.affairs
  coming : y.coming = x.coming
  replies : y.replies = x.replies
  count : x.replies.length = n

/-- The malformed line is answered, or will never be. -/
structure Past (n : Nat) (x y : Console π) : Prop extends Mirror x y where
  coming : y.coming = x.coming
  replies : y.replies = x.replies.eraseIdx n
  settled : n < x.replies.length ∨ x.begun + (asked x.coming).length ≤ n

/-- Whether a console is one that gets a malformed line, and the other one that gets all lines but that. The reply to
it is the one at `n`. -/
inductive Lacks (line message : String) (n : Nat) (x y : Console π) : Prop where
  | ahead {front back : List String} (ahead : Ahead line n front back x y)
  | held (held : Held message n x y)
  | past (past : Past n x y)

variable {line message : String} {n : Nat} {front back : List String}

theorem length_le_begun (x : Console π) : x.replies.length ≤ x.begun :=
  Nat.le_add_right _ _

/-- Replies that come later are the same with the reply at `n` and without it. -/
theorem Past.inside {z : Console π} {more : List Reply} (past : Past n x y) (coming : x'.coming = x.coming)
    (same : z.coming = y.coming) (begun : x'.begun = x.begun) (replied : x'.replies = x.replies ++ more)
    (likewise : z.replies = y.replies ++ more) (mirror : Mirror x' z) : Past n x' z := by
  refine ⟨mirror, ?_, ?_, ?_⟩
  · rw [same, past.coming, coming]
  · rw [likewise, past.replies, replied]
    rcases past.settled with earlier | never
    · rw [List.eraseIdx_append_of_lt_length earlier]
    · have few := length_le_begun x
      have all := length_le_begun x'
      rw [replied, List.length_append] at all
      rw [List.eraseIdx_of_length_le (by omega), List.eraseIdx_of_length_le (by simp; omega)]
  · rw [begun, coming, replied, List.length_append]
    exact past.settled.imp_left (Nat.lt_add_right _)

theorem Past.next {z : Console π} {first : String} {rest : List String} (past : Past n x y)
    (coming : x.coming = first :: rest) (left : x'.coming = rest) (same : z.coming = rest)
    (replied : x'.replies = x.replies) (likewise : z.replies = y.replies)
    (begun : x'.begun + (asked rest).length = x.begun + (asked (first :: rest)).length)
    (mirror : Mirror x' z) : Past n x' z := by
  refine ⟨mirror, same.trans left.symm, by rw [likewise, past.replies, replied], ?_⟩
  rw [left, begun, ← coming, replied]
  exact past.settled

/-- Affairs in which something was told are as they were. -/
theorem alike_told {a b : Affairs π} (alike : a.Alike b) (told : Log) :
    (a.next { a.service with log := told } [] a.works).Alike b where
  service := alike.service.tell told
  notes := by simp [Affairs.next, alike.notes]
  works := alike.works

theorem Held.told (held : Held message n x y) (told : Log) :
    Held message n { x with
      hand := some (.done (.error message))
      affairs := x.affairs.next { x.affairs.service with log := told } [] x.affairs.works } y :=
  { held with
    spoils := ⟨_, rfl, .done⟩
    affairs := alike_told held.affairs told }

theorem Held.replied (held : Held message n x y) :
    Past n { x with hand := none, replies := x.replies ++ [.error message] } y := by
  refine ⟨⟨held.free, held.affairs⟩, held.coming, ?_, .inl ?_⟩
  · rw [held.replies, ← held.count, List.eraseIdx_append_of_length_le (Nat.le_refl _)]
    simp
  · simp [← held.count]

/-- Whatever happens next, the malformed line is still in hand or answered. -/
theorem Held.step (held : Held message n x y) (read : y.unread = []) (step : Step c q x x') :
    ∃ z, ReflTransGen (Step c q) y z ∧ z.unread = [] ∧ (Held message n x' z ∨ Past n x' z) := by
  obtain ⟨work, hand, spoils⟩ := held.spoils
  cases step with
  | @read line rest text next legible =>
      refine ⟨y, .refl, read, .inl { held with coming := held.coming.trans ?_ }⟩
      simp [Console.coming, next, textLines, legible]
  | @giveUp line rest next illegible =>
      refine ⟨y, .refl, read, .inl { held with coming := held.coming.trans ?_ }⟩
      simp [Console.coming, next, textLines, illegible]
  | pass free | take free =>
      rw [hand] at free
      cases free
  | @proceed β act rest same o =>
      rw [hand] at same
      cases same
      cases spoils with
      | tell level text fields => exact ⟨y, .refl, read, .inl (held.told _)⟩
  | @reply reply same =>
      rw [hand] at same
      cases same
      cases spoils with
      | done => exact ⟨y, .refl, read, .inr held.replied⟩
  | @others affairs step away =>
      obtain ⟨affairs', step', alike⟩ := held.affairs.step step
      have away' : ∀ work ∈ affairs'.works, work.1 = Receipt := by
        rw [alike.works]
        exact away
      exact ⟨_, .single (.others step' away'), read, .inl { held with affairs := alike }⟩

/-- The malformed line is answered, if nobody else does anything meanwhile. -/
theorem Held.finish (held : Held message n x y) (c : Collaborators π) (q : QueueSettings) :
    ∃ z, ReflTransGen (Step c q) x z ∧ z.unread = x.unread ∧ Past n z y := by
  obtain ⟨work, hand, spoils⟩ := held.spoils
  cases spoils with
  | done => exact ⟨_, .single (.reply hand), rfl, held.replied⟩
  | tell level text fields =>
      have telling := Step.proceed (c := c) (q := q) hand (others c Affairs.nobody)
      exact ⟨_, .head telling (.single (.reply rfl)), rfl, (held.told _).replied⟩

/-- The malformed line is taken up. -/
theorem Ahead.held (malformed : Malformed line message) (ahead : Ahead line n [] back x y)
    (free : x.hand = none) (left : x'.coming = back) (affairs : x'.affairs = x.affairs)
    (replied : x'.replies = x.replies) (hand : x'.hand = some (.line c (Text.trim line))) :
    Held message n x' y where
  spoils := ⟨_, hand, malformed.spoils c⟩
  free := ahead.hand.trans free
  affairs := affairs ▸ ahead.affairs
  coming := ahead.others.trans left.symm
  replies := ahead.replies.trans replied.symm
  count := by
    have count := ahead.count
    rw [begun, free] at count
    rw [replied]
    exact count

/-- The console without the malformed line can do all that the other does. -/
theorem Lacks.follow (malformed : Malformed line message) (lacks : Lacks line message n x y)
    (read : y.unread = []) (step : Step c q x x') :
    ∃ z, ReflTransGen (Step c q) y z ∧ z.unread = [] ∧ Lacks line message n x' z := by
  cases lacks with
  | @ahead front back ahead =>
      cases ahead.toMirror.moves read step with
      | inside more steps read coming same begun _ replied likewise mirror =>
          refine ⟨_, steps, read, .ahead ⟨mirror, coming.trans ahead.coming, same.trans ahead.others, ?_, ?_⟩⟩
          · rw [likewise, replied, ahead.replies]
          · rw [begun]
            exact ahead.count
      | @next first rest coming left free affairs replied hand likewise =>
          have both := ahead.coming.symm.trans coming
          cases front with
          | nil =>
              rw [List.nil_append, List.cons.injEq] at both
              obtain ⟨rfl, rfl⟩ := both
              rw [malformed.asks] at hand
              exact ⟨y, .refl, read, .held (ahead.held malformed free left affairs replied hand)⟩
          | cons other front =>
              rw [List.cons_append, List.cons.injEq] at both
              obtain ⟨rfl, rfl⟩ := both
              obtain ⟨z, step, read, others, same, mirror⟩ := likewise _ ahead.others
              refine ⟨z, .single step, read, .ahead ⟨mirror, left, others, ?_, ?_⟩⟩
              · rw [same, replied, ahead.replies]
              · rw [begun_next free replied hand]
                exact ahead.count
  | held held =>
      obtain ⟨z, steps, read, still | past⟩ := held.step read step
      · exact ⟨z, steps, read, .held still⟩
      · exact ⟨z, steps, read, .past past⟩
  | past past =>
      cases past.toMirror.moves read step with
      | inside more steps read coming same begun _ replied likewise mirror =>
          exact ⟨_, steps, read, .past (past.inside coming same begun replied likewise mirror)⟩
      | next coming left free affairs replied hand likewise =>
          obtain ⟨z, step, read, others, same, mirror⟩ := likewise _ (past.coming.trans coming)
          exact ⟨z, .single step, read,
            .past (past.next coming left others replied same (begun_next free replied hand _) mirror)⟩

theorem Past.lead (past : Past n x y) (read : x.unread = []) (step : Step c q y y') :
    ∃ z, ReflTransGen (Step c q) x z ∧ z.unread = [] ∧ Past n z y' := by
  cases past.toMirror.symm.moves read step with
  | inside more steps read coming same _ begun likewise replied mirror =>
      exact ⟨_, steps, read, past.inside same coming begun replied likewise mirror.symm⟩
  | @next first rest coming left free affairs likewise hand also =>
      obtain ⟨z, step, read, others, replied, mirror⟩ := also _ (past.coming.symm.trans coming)
      have count : z.begun + (asked rest).length = _ :=
        begun_next (past.hand.symm.trans free) replied (mirror.hand.trans hand) rest
      exact ⟨z, .single step, read,
        past.next (past.coming.symm.trans coming) others left replied likewise count mirror.symm⟩

/-- Where nothing else is in front of it the malformed line is answered, if nobody else does anything meanwhile. -/
theorem Ahead.finish (malformed : Malformed line message) (ahead : Ahead line n [] back x y)
    (free : x.hand = none) (read : x.unread = []) (c : Collaborators π) (q : QueueSettings) :
    ∃ z, ReflTransGen (Step c q) x z ∧ z.unread = [] ∧ Past n z y := by
  have waits : x.waiting = line :: back := (coming_of_read read).symm.trans ahead.coming
  let taken : Console π := { x with waiting := back, hand := some (.line c (Text.trim line)) }
  have held : Held message n taken y :=
    ahead.held malformed free (coming_of_read (y := taken) read) rfl rfl rfl
  obtain ⟨z, steps, unread, past⟩ := held.finish c q
  exact ⟨z, .head (.take free waits malformed.asks) steps, unread.trans read, past⟩

/-- The console with the malformed line can do all that the other does. -/
theorem Lacks.lead (malformed : Malformed line message) (lacks : Lacks line message n x y)
    (read : x.unread = []) (step : Step c q y y') :
    ∃ z, ReflTransGen (Step c q) x z ∧ z.unread = [] ∧ Lacks line message n z y' := by
  have further {z : Console π} (caught : ReflTransGen (Step c q) x z) (unread : z.unread = [])
      (past : Past n z y) : ∃ z, ReflTransGen (Step c q) x z ∧ z.unread = [] ∧ Lacks line message n z y' := by
    obtain ⟨last, steps, unread, past⟩ := past.lead unread step
    exact ⟨last, caught.trans steps, unread, .past past⟩
  cases lacks with
  | @ahead front back ahead =>
      cases ahead.toMirror.symm.moves read step with
      | inside more steps unread coming same _ begun replied likewise mirror =>
          refine ⟨_, steps, unread, .ahead ⟨mirror.symm, same.trans ahead.coming, coming.trans ahead.others, ?_, ?_⟩⟩
          · rw [likewise, replied, ahead.replies]
          · rw [begun]
            exact ahead.count
      | @next first rest coming left free affairs replied hand likewise =>
          have clear : x.hand = none := ahead.hand.symm.trans free
          cases front with
          | nil =>
              obtain ⟨z, caught, unread, past⟩ := ahead.finish malformed clear read c q
              exact further caught unread past
          | cons other front =>
              have both := ahead.others.symm.trans coming
              rw [List.cons_append, List.cons.injEq] at both
              obtain ⟨rfl, rfl⟩ := both
              obtain ⟨z, step, unread, others, same, mirror⟩ := likewise _ ahead.coming
              refine ⟨z, .single step, unread, .ahead ⟨mirror.symm, others, left, ?_, ?_⟩⟩
              · rw [same, replied, ahead.replies]
              · rw [begun_next clear same (mirror.hand.trans hand)]
                exact ahead.count
  | held held =>
      obtain ⟨z, caught, unread, past⟩ := held.finish c q
      exact further caught (unread.trans read) past
  | past past => exact further .refl read past

theorem Lacks.follow_steps (malformed : Malformed line message) (lacks : Lacks line message n x y)
    (read : y.unread = []) (steps : ReflTransGen (Step c q) x x') :
    ∃ z, ReflTransGen (Step c q) y z ∧ z.unread = [] ∧ Lacks line message n x' z := by
  induction steps with
  | refl => exact ⟨y, .refl, read, lacks⟩
  | tail _ step ih =>
      obtain ⟨z, first, unread, lacks⟩ := ih
      obtain ⟨last, more, unread, lacks⟩ := lacks.follow malformed unread step
      exact ⟨last, first.trans more, unread, lacks⟩

theorem Lacks.lead_steps (malformed : Malformed line message) (lacks : Lacks line message n x y)
    (read : x.unread = []) (steps : ReflTransGen (Step c q) y y') :
    ∃ z, ReflTransGen (Step c q) x z ∧ z.unread = [] ∧ Lacks line message n z y' := by
  induction steps with
  | refl => exact ⟨x, .refl, read, lacks⟩
  | tail _ step ih =>
      obtain ⟨z, first, unread, lacks⟩ := ih
      obtain ⟨last, more, unread, lacks⟩ := lacks.lead malformed unread step
      exact ⟨last, first.trans more, unread, lacks⟩

theorem Past.finished_right (past : Past n x y) (read : y.unread = []) (finished : x.Finished) : y.Finished := by
  have nothing : y.waiting = [] := by
    rw [← coming_of_read read, past.coming, finished.coming]
  exact ⟨read, nothing, past.hand.trans finished.hand⟩

theorem Past.finished_left (past : Past n x y) (read : x.unread = []) (finished : y.Finished) : x.Finished := by
  have nothing : x.waiting = [] := by
    rw [← coming_of_read read, ← past.coming, finished.coming]
  exact ⟨read, nothing, past.hand.symm.trans finished.hand⟩

/-- A console that has finished has answered the malformed line, or will never. -/
theorem Lacks.past_of_finished (lacks : Lacks line message n x y) (finished : x.Finished) : Past n x y := by
  cases lacks with
  | ahead ahead =>
      have coming := ahead.coming.symm.trans finished.coming
      simp at coming
  | held held =>
      obtain ⟨work, hand, -⟩ := held.spoils
      rw [finished.hand] at hand
      cases hand
  | past past => exact past

/-- When the console without the malformed line has finished, so can the other. -/
theorem Lacks.finish (malformed : Malformed line message) (lacks : Lacks line message n x y)
    (read : x.unread = []) (finished : y.Finished) (c : Collaborators π) (q : QueueSettings) :
    ∃ z, ReflTransGen (Step c q) x z ∧ z.unread = [] ∧ Past n z y := by
  cases lacks with
  | ahead ahead =>
      have nothing := ahead.others.symm.trans finished.coming
      obtain ⟨rfl, rfl⟩ := List.append_eq_nil_iff.mp nothing
      exact ahead.finish malformed (ahead.hand.symm.trans finished.hand) read c q
  | held held =>
      obtain ⟨z, steps, unread, past⟩ := held.finish c q
      exact ⟨z, steps, unread.trans read, past⟩
  | past past => exact ⟨x, .refl, read, past⟩

end Dossier.Ingress.Console
