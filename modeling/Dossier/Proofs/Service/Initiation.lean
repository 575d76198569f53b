import Dossier.Proofs.Service.Step
import Dossier.Service.Initiation

/-! # What an initiation adds

However far an initiation comes, and whoever fails on the way, it adds nothing but requests for its document
and pending rows of it, dated by the clock. Main statement: `initiate_adds`.
-/

namespace Dossier.Service

variable {π ε ε' α β : Type}

/-- Whether an attempt, at whatever service, has an effect within bounds, which depend on how often the clock
was read before. -/
def Adds (bounds : Nat → Effect → Prop) (attempt : Attempt ε α) : Prop :=
  ∀ s, ∃ outcome effect t, attempt s = (outcome, t) ∧ effect.Leads s t ∧ bounds s.readings effect

/-- Whether bounds keep an attempt that is put together of others within them. -/
structure Composable (bounds : Nat → Effect → Prop) : Prop where
  nothing : ∀ n, bounds n .nothing
  append : ∀ {n a b}, bounds n a → bounds (n + a.readings) b → bounds n (a ++ b)

variable {bounds : Nat → Effect → Prop}

theorem Adds.bind (composable : Composable bounds) {first : Attempt ε α} {rest : α → Attempt ε β}
    (adds : Adds bounds first) (more : ∀ a, Adds bounds (rest a)) : Adds bounds (first >>= rest) := by
  intro s
  obtain ⟨outcome, effect, t, ends, leads, within⟩ := adds s
  cases outcome with
  | error failure => exact ⟨_, effect, t, bind_error ends, leads, within⟩
  | ok a =>
      obtain ⟨outcome, further, u, later, leads', within'⟩ := more a t
      rw [leads.readings] at within'
      exact ⟨outcome, _, u, (bind_ok ends).trans later, leads.trans leads',
        composable.append within within'⟩

theorem Adds.explain {meaning : ε → ε'} {attempt : Attempt ε α} (adds : Adds bounds attempt) :
    Adds bounds (Service.explain meaning attempt) := by
  intro s
  obtain ⟨outcome, effect, t, ends, leads, within⟩ := adds s
  cases outcome with
  | error failure => exact ⟨_, effect, t, explain_error ends, leads, within⟩
  | ok a => exact ⟨_, effect, t, explain_ok ends, leads, within⟩

theorem Adds.pure (composable : Composable bounds) (a : α) :
    Adds bounds (Pure.pure a : Attempt ε α) :=
  fun s => ⟨.ok a, .nothing, s, rfl, .refl s, composable.nothing _⟩

theorem Adds.throw (composable : Composable bounds) (failure : ε) :
    Adds bounds (MonadExcept.throw failure : Attempt ε α) :=
  fun s => ⟨.error failure, .nothing, s, rfl, .refl s, composable.nothing _⟩

theorem Adds.tell (composable : Composable bounds) (level : LogLevel) (message : String)
    (fields : List (String × String)) :
    Adds bounds (Service.tell level message fields : Attempt ε Unit) :=
  fun _ => ⟨.ok (), .nothing, _, rfl, leads_log _, composable.nothing _⟩

theorem Adds.ask (composable : Composable bounds) (c : Collaborators π)
    (question : Store → Except DatabaseFailure α) : Adds bounds (Service.ask c question) := by
  intro s
  cases fault : c.findFault s.finds with
  | some failure =>
      exact ⟨.error failure, .nothing, { s with finds := s.finds + 1 },
        by simp only [Service.ask, fault], { Effect.Leads.refl s with }, composable.nothing _⟩
  | none =>
      exact ⟨(question s.store).mapError .database, .nothing, { s with finds := s.finds + 1 },
        by simp only [Service.ask, fault], { Effect.Leads.refl s with }, composable.nothing _⟩

/-- Whether an effect is no more than requests for a document and its pending rows, dated by readings of the
clock from one of them on. -/
structure Requests (c : Collaborators π) (documentId : Uuid) (first : Nat) (e : Effect) : Prop where
  rows : ∀ row ∈ e.rows, ∃ processorId reading, first ≤ reading ∧ reading < first + e.readings ∧
    row = .pending documentId processorId (c.clock reading)
  requests : ∀ d ∈ e.requests, ∃ processorId, d = .first (Request.text ⟨⟨processorId⟩, documentId⟩)
  completions : e.completions = []
  events : e.events = []

variable (c : Collaborators π) (documentId : Uuid)

theorem requests_composable : Composable (Requests c documentId) where
  nothing _ := ⟨by simp [Effect.nothing], by simp [Effect.nothing], rfl, rfl⟩
  append := by
    intro n a b first second
    refine ⟨?_, ?_, ?_, ?_⟩
    · intro row member
      rcases List.mem_append.mp member with old | new
      · obtain ⟨processorId, reading, low, high, same⟩ := first.rows row old
        exact ⟨processorId, reading, low, by rw [Effect.readings_append]; omega, same⟩
      · obtain ⟨processorId, reading, low, high, same⟩ := second.rows row new
        exact ⟨processorId, reading, by omega, by rw [Effect.readings_append]; omega, same⟩
    · intro d member
      rcases List.mem_append.mp member with old | new
      · exact first.requests d old
      · exact second.requests d new
    · exact List.append_eq_nil_iff.mpr ⟨first.completions, second.completions⟩
    · exact List.append_eq_nil_iff.mpr ⟨first.events, second.events⟩

theorem requests_sent (processorId : String) (first : Nat) :
    Requests c documentId first
      (sending .requests [.first (Request.text ⟨⟨processorId⟩, documentId⟩)]) where
  rows := by simp [sending]
  requests d member := ⟨processorId, List.mem_singleton.mp member⟩
  completions := rfl
  events := rfl

theorem requests_read (first : Nat) : Requests c documentId first { readings := 1 } where
  rows := by simp
  requests := by simp
  completions := rfl
  events := rfl

theorem requests_saved (processorId : String) (first : Nat) :
    Requests c documentId first
      { rows := [.pending documentId processorId (c.clock first)], readings := 1 } where
  rows row member :=
    ⟨processorId, first, Nat.le_refl _, Nat.lt_succ_self _, List.mem_singleton.mp member⟩
  requests := by simp
  completions := rfl
  events := rfl

theorem publish_adds (processorId : String) :
    Adds (Requests c documentId)
      (publish .requests (Request.text ⟨⟨processorId⟩, documentId⟩)) := by
  intro s
  rcases publish_cases .requests (Request.text ⟨⟨processorId⟩, documentId⟩) s with
    ⟨-, t, sent, leads⟩ | ⟨-, failed⟩
  · exact ⟨_, _, t, sent, leads, requests_sent c documentId processorId _⟩
  · exact ⟨_, _, s, failed, .refl s, (requests_composable c documentId).nothing _⟩

theorem request_adds (processorId : String) :
    Adds (Requests c documentId) (request c documentId processorId) := by
  have composable := requests_composable c documentId
  refine .bind composable (.explain (publish_adds c documentId processorId)) fun _ s => ?_
  have read := leads_readings (s := s)
  rcases save_cases c (.pending documentId processorId (c.clock s.readings))
      { s with readings := s.readings + 1 } with ⟨-, t, saved, leads, -⟩ | ⟨-, failure, t, failed, leads⟩
  · exact ⟨_, _, _, (readClock_bind ..).trans (bind_ok saved), (read.trans leads).trans (leads_log _),
      composable.append (requests_saved c documentId processorId _) (composable.nothing _)⟩
  · exact ⟨_, _, _, (readClock_bind ..).trans (bind_error failed), read.trans leads,
      composable.append (requests_read c documentId _) (composable.nothing _)⟩

theorem enqueue_adds (processorIds : List String) :
    Adds (Requests c documentId) (enqueue c documentId processorIds) := by
  have composable := requests_composable c documentId
  induction processorIds with
  | nil => exact .pure composable ()
  | cons processorId rest ih =>
      exact .bind composable (request_adds c documentId processorId) fun _ => ih

theorem tellProcessed_adds (existing : List Row) :
    Adds (Requests c documentId) (tellProcessed documentId existing : Attempt ε Unit) := by
  have composable := requests_composable c documentId
  unfold tellProcessed Procedure.tellProcessed
  split
  · exact .pure composable ()
  · exact .tell composable _ _ _

theorem filter_adds (processorIds : List String) (again : Bool) :
    Adds (Requests c documentId) (filter c documentId processorIds again) := by
  have composable := requests_composable c documentId
  unfold filter Procedure.filter
  split
  · exact .pure composable _
  · exact .bind composable (.ask composable c _) fun existing =>
      .bind composable (tellProcessed_adds c documentId existing) fun _ => .pure composable _

theorem grant_adds (left : List String) (answer : Except ScanFailure ScanStatus) :
    Adds (Requests c documentId) (grant c documentId left answer) := by
  have composable := requests_composable c documentId
  cases answer with
  | error failure => exact .throw composable _
  | ok status =>
      cases status with
      | failedScan => exact .bind composable (.tell composable _ _ _) fun _ => .throw composable _
      | ready | awaitingScan =>
          exact .bind composable (.tell composable _ _ _) fun _ => enqueue_adds c documentId left

theorem clear_adds (left : List String) : Adds (Requests c documentId) (clear c documentId left) := by
  have composable := requests_composable c documentId
  unfold clear Procedure.clear
  split
  · exact .tell composable _ _ _
  · exact .bind composable (.pure composable (c.scan documentId)) fun answer => grant_adds c documentId left answer

/-- The gate stands behind the choice of processors and before all requests. -/
theorem initiate_eq (processorIds : List String) (again : Bool) :
    initiate c documentId processorIds again =
      filter c documentId processorIds again >>= clear c documentId :=
  rfl

/-- Where processors are left the answer for the scan decides. -/
theorem clear_of_ne_nil {left : List String} (some : left ≠ []) :
    clear c documentId left = grant c documentId left (c.scan documentId) := by
  cases left with
  | nil => contradiction
  | cons processorId rest => rfl

/-- All that an initiation adds are requests and pending rows. -/
theorem initiate_adds (processorIds : List String) (again : Bool) :
    Adds (Requests c documentId) (initiate c documentId processorIds again) :=
  .bind (requests_composable c documentId) (filter_adds c documentId processorIds again) fun left =>
    clear_adds c documentId left

end Dossier.Service
