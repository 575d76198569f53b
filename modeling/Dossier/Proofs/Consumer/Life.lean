import Dossier.Proofs.Consumer.Chain
import Mathlib.Algebra.Order.BigOperators.Group.Finset

/-! # Lives of messages

A message is delivered until it is acknowledged or was delivered too often, and then no more. Messages are numbered
as they are posted, and each copy bears the number of its message. There is never more than one copy of a message,
and its attempt is one more than the message was handled before. Main statements: `Life.stops` and `Lives.bounded`.
-/

namespace Dossier.Service

open RequestConsumer

variable {limit : Nat} {payload : String} {d : Delivery}

/-- A copy that was handled, with what the consumer said of it, if its handling did not break off. -/
structure Handled where
  copy : Copy
  receipt : Option Receipt

/-- Whether a delivery is put off once it is handled. -/
def Handled.again (limit : Nat) (one : Handled) : Bool :=
  one.receipt = some .nack ∧ one.copy.delivery.attempt < limit

/-- Whether a message has led an orderly life; `live` are its copies, and `handled` those that were handled. -/
structure Life (limit : Nat) (payload : String) (live : List Delivery) (handled : List Handled) :
    Prop where
  single : live = [] ∨
    live = [⟨handled.length + 1, payload⟩] ∧ ∀ one ∈ handled, one.receipt = some .nack
  deliveries : handled.map (·.copy.delivery) =
    (List.range handled.length).map fun k => ⟨k + 1, payload⟩
  again : ∀ one ∈ handled.dropLast, one.receipt = some .nack
  few : handled.length + live.length ≤ max 1 limit

namespace Life

variable {live others : List Delivery} {handled : List Handled} {one : Handled}

theorem fresh (limit : Nat) (payload : String) : Life limit payload [.first payload] [] where
  single := .inr ⟨rfl, by simp⟩
  deliveries := rfl
  again := by simp
  few := Nat.le_max_left 1 limit

/-- There is at most one copy, so their order does not matter. -/
theorem perm (life : Life limit payload live handled) (same : live.Perm others) :
    Life limit payload others handled := by
  have equal : others = live := by
    rcases life.single with none | ⟨alone, -⟩
    · rw [none] at same ⊢
      exact same.symm.eq_nil
    · rw [alone] at same ⊢
      exact List.perm_singleton.mp same.symm
  rwa [equal]

theorem only (life : Life limit payload (d :: others) handled) :
    others = [] ∧ d = ⟨handled.length + 1, payload⟩ ∧ ∀ one ∈ handled, one.receipt = some .nack := by
  rcases life.single with none | ⟨alone, nacked⟩
  · cases none
  · obtain ⟨first, rest⟩ := List.cons.inj alone
    exact ⟨rest, first, nacked⟩

/-- A copy may be lost. -/
theorem lose (life : Life limit payload (d :: others) handled) : Life limit payload others handled := by
  obtain ⟨rfl, -, -⟩ := life.only
  exact { life with single := .inl rfl, few := Nat.le_of_succ_le life.few }

/-- The copy of a message is handled, and perhaps another takes its place. -/
theorem handle (life : Life limit payload (d :: others) handled) (same : one.copy.delivery = d)
    {next : List Delivery}
    (renews : next = [] ∨ next = [d.again] ∧ one.receipt = some .nack ∧ d.attempt < limit) :
    Life limit payload (others ++ next) (handled ++ [one]) := by
  obtain ⟨rfl, rfl, nacked⟩ := life.only
  have length : (handled ++ [one]).length = handled.length + 1 := List.length_append
  have few : handled.length + 1 ≤ max 1 limit := life.few
  have deliveries : (handled ++ [one]).map (·.copy.delivery) =
      (List.range (handled ++ [one]).length).map fun k => ⟨k + 1, payload⟩ := by
    rw [length, List.range_succ, List.map_append, List.map_append, life.deliveries]
    exact congrArg _ (congrArg (fun d => [d]) same)
  have again : ∀ other ∈ (handled ++ [one]).dropLast, other.receipt = some .nack := by
    rw [List.dropLast_concat]
    exact nacked
  rcases renews with rfl | ⟨rfl, nack, below⟩
  · exact ⟨.inl rfl, deliveries, again, by rw [length]; exact few⟩
  · refine ⟨.inr ⟨by rw [length]; rfl, fun other member => ?_⟩, deliveries, again, ?_⟩
    · rcases List.mem_append.mp member with old | new
      · exact nacked other old
      · rw [List.mem_singleton.mp new]
        exact nack
    · rw [length]
      exact Nat.le_trans below (Nat.le_max_right 1 limit)

/-- What was handled of a message and what is on its way are deliveries of its payload, numbered from one on. -/
theorem numbers (life : Life limit payload live handled) :
    handled.map (·.copy.delivery) ++ live =
      (List.range (handled.length + live.length)).map fun k => ⟨k + 1, payload⟩ := by
  rcases life.single with rfl | ⟨rfl, -⟩
  · rw [List.append_nil]
    exact life.deliveries
  · rw [life.deliveries, List.length_singleton, List.range_succ, List.map_append]
    rfl

/-- Where a handling does not end with the delivery put off, the message is not handled any more. -/
theorem stops (life : Life limit payload live handled) {k : Nat}
    (final : ∀ one ∈ handled[k]?, one.receipt ≠ some .nack) :
    handled.length + live.length ≤ min (k + 1) (max 1 limit) := by
  refine Nat.le_min.mpr ⟨?_, life.few⟩
  by_contra more
  rw [Nat.not_le] at more
  have among : k < handled.length := by
    rcases life.single with rfl | ⟨rfl, -⟩
    · exact Nat.lt_of_succ_lt more
    · exact Nat.lt_of_succ_lt_succ more
  refine final _ (List.getElem?_eq_getElem among) ?_
  -- it was followed by another handling, or by a copy
  rcases life.single with rfl | ⟨rfl, nacked⟩
  · refine life.again _ (List.mem_iff_getElem.mpr ⟨k, ?_, List.getElem_dropLast _⟩)
    rw [List.length_dropLast]
    exact Nat.lt_sub_of_add_lt more
  · exact nacked _ (List.getElem_mem among)

end Life

/-- The copies of a message that were handled. -/
def handledOf (message : Nat) (handled : List Handled) : List Handled :=
  handled.filter (·.copy.message == message)

/-- Whether all messages lead orderly lives. -/
structure Lives (limit : Nat) (posted : List String) (copies : List Copy) (handled : List Handled) :
    Prop where
  known : ∀ copy ∈ copies, copy.message < posted.length
  reported : ∀ one ∈ handled, one.copy.message < posted.length
  each : ∀ message payload, posted[message]? = some payload →
    Life limit payload (copiesOf message copies) (handledOf message handled)

theorem copiesOf_map_mk (message number : Nat) (deliveries : List Delivery) :
    copiesOf message (deliveries.map (Copy.mk number)) =
      if number = message then deliveries else [] := by
  split
  · subst message
    simp [copiesOf, List.filter_map, Function.comp_def]
  · rename_i different
    rw [copiesOf_eq_nil]
    intro copy member
    obtain ⟨d, -, rfl⟩ := List.mem_map.mp member
    exact different

theorem copiesOf_cons (message : Nat) (copy : Copy) (copies : List Copy) :
    copiesOf message (copy :: copies) =
      if copy.message = message then copy.delivery :: copiesOf message copies
      else copiesOf message copies := by
  simp only [copiesOf, List.filter_cons, beq_iff_eq]
  split
  · rfl
  · rfl

namespace Lives

variable {posted : List String} {copies others : List Copy} {copy : Copy} {handled : List Handled}

theorem empty (limit : Nat) : Lives limit [] [] [] where
  known := by simp
  reported := by simp
  each := by simp

theorem uncopied (lives : Lives limit posted copies handled) {message : Nat}
    (unknown : posted.length ≤ message) : copiesOf message copies = [] :=
  copiesOf_eq_nil.mpr fun copy member =>
    Nat.ne_of_lt (Nat.lt_of_lt_of_le (lives.known copy member) unknown)

theorem unhandled (lives : Lives limit posted copies handled) {message : Nat}
    (unknown : posted.length ≤ message) : handledOf message handled = [] :=
  List.filter_eq_nil_iff.mpr fun one member same =>
    Nat.ne_of_lt (Nat.lt_of_lt_of_le (lives.reported one member) unknown) (beq_iff_eq.mp same)

/-- Copies may change their places. -/
theorem perm (lives : Lives limit posted copies handled) (same : copies.Perm others) :
    Lives limit posted others handled where
  known copy member := lives.known copy (same.mem_iff.mpr member)
  reported := lives.reported
  each message payload found := (lives.each message payload found).perm ((same.filter _).map _)

/-- With each message that is posted a life begins. -/
theorem post (lives : Lives limit posted copies handled) (fresh : List String) :
    Lives limit (posted ++ fresh) (copies ++ numbered posted.length (fresh.map .first)) handled where
  known copy member := by
    rw [List.length_append]
    rcases List.mem_append.mp member with old | new
    · exact Nat.lt_add_right _ (lives.known copy old)
    · have known := mem_numbered new
      rwa [List.length_map] at known
  reported one member := by
    rw [List.length_append]
    exact Nat.lt_add_right _ (lives.reported one member)
  each message payload found := by
    rw [copiesOf_append, copiesOf_numbered]
    rcases Nat.lt_or_ge message posted.length with old | new
    · rw [if_neg (Nat.not_le.mpr old), List.append_nil]
      exact lives.each message payload (by rwa [List.getElem?_append_left old] at found)
    · rw [List.getElem?_append_right new] at found
      rw [if_pos new, List.getElem?_map, found, lives.uncopied new, lives.unhandled new]
      exact .fresh limit payload

/-- A copy may go, with others in its place, if the life of its message goes on. -/
theorem replace (lives : Lives limit posted (copy :: others) handled) (next : List Delivery)
    (done : List Handled) (own : ∀ one ∈ done, one.copy.message = copy.message)
    (goes : ∀ {payload live handled}, Life limit payload (copy.delivery :: live) handled →
      Life limit payload (live ++ next) (handled ++ done)) :
    Lives limit posted (others ++ next.map (Copy.mk copy.message)) (handled ++ done) where
  known other member := by
    rcases List.mem_append.mp member with old | new
    · exact lives.known other (List.mem_cons_of_mem _ old)
    · obtain ⟨d, -, rfl⟩ := List.mem_map.mp new
      exact lives.known copy List.mem_cons_self
  reported one member := by
    rcases List.mem_append.mp member with old | new
    · exact lives.reported one old
    · rw [own one new]
      exact lives.known copy List.mem_cons_self
  each message payload found := by
    have life := lives.each message payload found
    rw [copiesOf_cons] at life
    rw [copiesOf_append, copiesOf_map_mk, handledOf, List.filter_append]
    split
    · subst message
      rw [if_pos rfl] at life
      have all : done.filter (·.copy.message == copy.message) = done :=
        List.filter_eq_self.mpr fun one member => beq_iff_eq.mpr (own one member)
      rw [all]
      exact goes life
    · rename_i different
      rw [if_neg different] at life
      have none : done.filter (·.copy.message == message) = [] :=
        List.filter_eq_nil_iff.mpr fun one member same =>
          different ((own one member).symm.trans (beq_iff_eq.mp same))
      rw [none, List.append_nil, List.append_nil]
      exact life

/-- A copy is a delivery of the payload of its message, by which it is known how often that was handled. -/
theorem copy_eq (lives : Lives limit posted copies handled) (member : copy ∈ copies) :
    ∃ payload, posted[copy.message]? = some payload ∧
      copy.delivery = ⟨(handledOf copy.message handled).length + 1, payload⟩ := by
  have found := List.getElem?_eq_getElem (lives.known copy member)
  have among : copy.delivery ∈ copiesOf copy.message copies :=
    List.mem_map_of_mem (List.mem_filter.mpr ⟨member, beq_self_eq_true _⟩)
  rcases (lives.each _ _ found).single with none | ⟨alone, -⟩
  · rw [none] at among
    cases among
  · rw [alone] at among
    exact ⟨_, found, List.mem_singleton.mp among⟩

/-- The attempts of a copy are in bounds, and its payload is that of a message. -/
theorem bounded (lives : Lives limit posted copies handled) (member : copy ∈ copies) :
    1 ≤ copy.delivery.attempt ∧ copy.delivery.attempt ≤ max 1 limit ∧
      posted[copy.message]? = some copy.delivery.payload := by
  obtain ⟨payload, found, same⟩ := lives.copy_eq member
  have life := lives.each _ _ found
  have single : 1 ≤ (copiesOf copy.message copies).length := List.length_pos_of_mem
    (List.mem_map_of_mem (List.mem_filter.mpr ⟨member, beq_self_eq_true _⟩))
  rw [same]
  exact ⟨Nat.succ_pos _, Nat.le_trans (Nat.add_le_add_left single _) life.few, found⟩

theorem few (lives : Lives limit posted copies handled) (message : Nat) :
    (handledOf message handled).length + (copiesOf message copies).length ≤ max 1 limit := by
  rcases found : posted[message]? with _ | payload
  · have unknown := List.getElem?_eq_none_iff.mp found
    rw [lives.uncopied unknown, lives.unhandled unknown]
    exact Nat.zero_le _
  · exact (lives.each message payload found).few

/-- All that was handled and all that is on its way are not more than every message may be delivered. -/
theorem total (lives : Lives limit posted copies handled) :
    handled.length + copies.length ≤ posted.length * max 1 limit := by
  let messages := handled.map (·.copy.message) ++ copies.map (·.message)
  have count (message : Nat) : messages.count message =
      (handledOf message handled).length + (copiesOf message copies).length := by
    rw [List.count_append, handledOf, copiesOf, List.length_map, ← List.countP_eq_length_filter,
      ← List.countP_eq_length_filter, List.count_eq_countP, List.count_eq_countP, List.countP_map,
      List.countP_map]
    rfl
  have known : ∀ message ∈ (messages : Multiset Nat), message ∈ Finset.range posted.length := by
    intro message member
    rw [Finset.mem_range]
    rcases List.mem_append.mp (Multiset.mem_coe.mp member) with old | live
    · obtain ⟨one, among, rfl⟩ := List.mem_map.mp old
      exact lives.reported one among
    · obtain ⟨copy, among, rfl⟩ := List.mem_map.mp live
      exact lives.known copy among
  calc handled.length + copies.length
      = (messages : Multiset Nat).card := by simp [messages]
    _ = ∑ message ∈ Finset.range posted.length, messages.count message := by
        rw [← Multiset.sum_count_eq_card known]
        simp only [Multiset.coe_count]
    _ ≤ (Finset.range posted.length).card • max 1 limit :=
        Finset.sum_le_card_nsmul _ _ _ fun message _ => (count message).le.trans (lives.few message)
    _ = posted.length * max 1 limit := by rw [Finset.card_range, Nat.nsmul_eq_mul]

/-- No delivery of a message is handled twice. -/
theorem nodup (lives : Lives limit posted copies handled) :
    (handled.map fun one => (one.copy.message, one.copy.delivery.attempt)).Nodup := by
  rw [List.nodup_iff_count_le_one]
  rintro ⟨message, attempt⟩
  have attempts : ((handledOf message handled).map (·.copy.delivery.attempt)).Nodup := by
    rcases found : posted[message]? with _ | payload
    · rw [lives.unhandled (List.getElem?_eq_none_iff.mp found)]
      exact List.nodup_nil
    · have same := congrArg (List.map Delivery.attempt) (lives.each message payload found).deliveries
      rw [List.map_map, List.map_map] at same
      refine Eq.mpr (congrArg List.Nodup same) ?_
      exact List.nodup_range.map fun a b => Nat.succ.inj
  have once := List.nodup_iff_count_le_one.mp attempts attempt
  rw [List.count_eq_countP, List.countP_map, handledOf, List.countP_filter] at once
  rw [List.count_eq_countP, List.countP_map]
  refine Nat.le_trans (Nat.le_of_eq ?_) once
  congr 1
  funext one
  rw [Bool.and_comm]
  rfl

end Lives

end Dossier.Service
