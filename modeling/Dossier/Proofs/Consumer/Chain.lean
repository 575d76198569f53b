import Dossier.Proofs.Consumer.Handling

/-! # Chains of deliveries

A message is delivered again and again until it is settled. Messages are numbered as they are posted, and each
copy of one that is on its way and each report on one that was handled bears its number. There is one copy of
every message of a request that is not settled, and none of one that is. Main statement: `Chain.verdict`.
-/

namespace Dossier.RequestConsumer

/-- A delivery of a numbered message. -/
structure Copy where
  message : Nat
  delivery : Delivery

/-- What became of a delivery of a numbered message. -/
structure Report where
  message : Nat
  attempt : Nat
  receipt : Receipt
  /-- The rows that were saved. -/
  rows : List Row
  told : Log
  /-- The store as it was found and as it was left. -/
  before : Store
  after : Store

/-- The report on a delivery between whose beginning and end a service has changed. -/
def Report.of (message : Nat) (d : Delivery) (receipt : Receipt) (s t : Service) : Report :=
  ⟨message, d.attempt, receipt, t.saved.drop s.saved.length, t.log.drop s.log.length, s.store, t.store⟩

/-- The deliveries of an agenda that are for the topic of requests. -/
def requestsOf (agenda : List Redelivery) : List Delivery :=
  (agenda.filter (·.channel = .requests)).map (·.delivery)

/-- The deliveries for the topic of requests that were put off while a service has changed. -/
def putOffBetween (s t : Service) : List Delivery :=
  requestsOf (t.agenda.drop s.agenda.length)

/-- Whether reports on a request are such as they should be, and say how it ended if it has. -/
structure Verdict (q : QueueSettings) (request : Request) (ended : Prop) (reports : List Report) :
    Prop where
  pair : ∀ report ∈ reports, ∀ row ∈ report.rows, row.documentId = request.documentId ∧
    row.processorId = request.processor.id ∧ row.status.isTerminal = true
  once : (reports.flatMap Report.rows).length ≤ 1
  /-- A row is saved at the last delivery alone. -/
  last : ∀ front report back, reports = front ++ report :: back → report.rows ≠ [] →
    back = [] ∧ ended
  outcome : ended → ∃ front last, reports = front ++ [last] ∧
    ((∃ row, last.rows = [row] ∧ last.receipt = .ack) ∨
      (last.receipt = .nack ∧ q.maxDeliveries ≤ last.attempt ∧
        Service.deadLetter .requests ⟨last.attempt, request.text⟩ ∈ last.told ∧
        ∀ report ∈ reports, report.rows = []))

/-- The deliveries of a request that are on their way, and the reports on those that were handled. -/
inductive Chain (q : QueueSettings) (request : Request) : List Delivery → List Report → Prop where
  | live {reports : List Report}
      (again : ∀ report ∈ reports, report.rows = [] ∧ report.receipt = .nack) :
      Chain q request [⟨reports.length + 1, request.text⟩] reports
  | done {earlier : List Report} {last : Report} {row : Row} {now : Timestamp}
      (again : ∀ report ∈ earlier, report.rows = [] ∧ report.receipt = .nack)
      (ends : Service.Ends request.documentId request.processor.id now row)
      (rows : last.rows = [row]) (receipt : last.receipt = .ack) :
      Chain q request [] (earlier ++ [last])
  | dead {earlier : List Report} {last : Report}
      (again : ∀ report ∈ earlier, report.rows = [] ∧ report.receipt = .nack)
      (rows : last.rows = []) (receipt : last.receipt = .nack) (many : q.maxDeliveries ≤ last.attempt)
      (told : Service.deadLetter .requests ⟨last.attempt, request.text⟩ ∈ last.told) :
      Chain q request [] (earlier ++ [last])

namespace Chain

variable {q : QueueSettings} {request : Request} {deliveries others : List Delivery}
  {reports : List Report} {d : Delivery} {s t : Service} {receipt : Receipt}

/-- There is at most one delivery, so their order does not matter. -/
theorem perm (chain : Chain q request deliveries reports) (same : deliveries.Perm others) :
    Chain q request others reports := by
  have equal : others = deliveries := by
    cases chain with
    | live => exact List.perm_singleton.mp same.symm
    | done | dead => exact same.symm.eq_nil
  rwa [equal]

theorem payload (chain : Chain q request (d :: others) reports) : d.payload = request.text := by
  cases chain with
  | live => rfl

/-- A delivery that is settled is the only one, and may be followed by another. -/
theorem settle (chain : Chain q request (d :: others) reports)
    (settles : Settles q d request s t receipt) (message : Nat) :
    others = [] ∧ Chain q request (putOffBetween s t) (reports ++ [.of message d receipt s t]) := by
  cases chain with
  | live again =>
      refine ⟨rfl, ?_⟩
      cases settles with
      | done ends saved agenda =>
          have none : putOffBetween s t = [] := by simp [putOffBetween, agenda, requestsOf]
          rw [none]
          exact .done again ends (by simp [Report.of, saved]) rfl
      | again saved few agenda =>
          have next : putOffBetween s t = [⟨reports.length + 1 + 1, request.text⟩] := by
            simp [putOffBetween, agenda, requestsOf, Delivery.again]
          have length : (reports ++
              [Report.of message ⟨reports.length + 1, request.text⟩ .nack s t]).length + 1 =
              reports.length + 1 + 1 := by
            rw [List.length_append]
            rfl
          rw [next, ← length]
          refine .live fun report member => ?_
          rcases List.mem_append.mp member with old | new
          · exact again report old
          · rw [List.mem_singleton.mp new]
            exact ⟨by simp [Report.of, saved], rfl⟩
      | dead saved many agenda log =>
          have none : putOffBetween s t = [] := by simp [putOffBetween, agenda, requestsOf]
          rw [none]
          exact .dead again (by simp [Report.of, saved]) rfl many (by simp [Report.of, log])

/-- A chain of deliveries is as it should be. -/
theorem verdict (chain : Chain q request deliveries reports) :
    Verdict q request (deliveries = []) reports := by
  have quiet {reports : List Report}
      (again : ∀ report ∈ reports, report.rows = [] ∧ report.receipt = .nack) :
      reports.flatMap Report.rows = [] :=
    List.flatMap_eq_nil_iff.mpr fun report member => (again report member).1
  cases chain with
  | live again =>
      exact {
        pair := fun report member row saved => by
          rw [(again report member).1] at saved
          cases saved
        once := by rw [quiet again]; exact Nat.zero_le 1
        last := fun front report back same saved =>
          absurd (again report (by rw [same]; simp)).1 saved
        outcome := fun ended => by cases ended }
  | @done earlier last row now again ends rows receipt =>
      exact {
        pair := fun report member other saved => by
          rcases List.mem_append.mp member with old | new
          · rw [(again report old).1] at saved
            cases saved
          · rw [List.mem_singleton.mp new, rows] at saved
            rw [List.mem_singleton.mp saved]
            exact ⟨ends.pair.1, ends.pair.2, ends.isTerminal⟩
        once := by
          rw [List.flatMap_append, quiet again, List.nil_append, List.flatMap_singleton, rows]
          exact Nat.le_refl 1
        last := fun front report back same saved => by
          refine ⟨?_, rfl⟩
          rcases List.eq_nil_or_concat back with none | ⟨middle, final, rfl⟩
          · exact none
          · have shifted : earlier ++ [last] = (front ++ report :: middle) ++ [final] := by
              rw [same]; simp
            obtain ⟨front', -⟩ := List.append_inj' shifted rfl
            exact absurd (again report (by rw [front']; simp)).1 saved
        outcome := fun _ => ⟨earlier, last, rfl, .inl ⟨row, rows, receipt⟩⟩ }
  | @dead earlier last again rows receipt many told =>
      have all : ∀ report ∈ earlier ++ [last], report.rows = [] := by
        intro report member
        rcases List.mem_append.mp member with old | new
        · exact (again report old).1
        · rw [List.mem_singleton.mp new, rows]
      exact {
        pair := fun report member row saved => by
          rw [all report member] at saved
          cases saved
        once := by rw [List.flatMap_eq_nil_iff.mpr all]; exact Nat.zero_le 1
        last := fun front report back same saved => absurd (all report (by rw [same]; simp)) saved
        outcome := fun _ => ⟨earlier, last, rfl, .inr ⟨receipt, many, told, all⟩⟩ }

end Chain

/-- The deliveries of a message that are on their way. -/
def copiesOf (message : Nat) (copies : List Copy) : List Delivery :=
  (copies.filter (·.message == message)).map (·.delivery)

/-- Deliveries with numbers from one on. -/
def numbered : Nat → List Delivery → List Copy
  | _, [] => []
  | number, d :: rest => ⟨number, d⟩ :: numbered (number + 1) rest

/-- Whether the copies of the messages that were posted and the reports on them make chains. -/
structure Ledger (q : QueueSettings) (posted : List Delivery) (copies : List Copy)
    (reports : List Report) : Prop where
  known : ∀ copy ∈ copies, copy.message < posted.length
  reported : ∀ report ∈ reports, report.message < posted.length
  chains : ∀ message request, posted[message]? = some (.first (Request.text request)) →
    Chain q request (copiesOf message copies) (reports.filter (·.message == message))

theorem copiesOf_append (message : Nat) (copies more : List Copy) :
    copiesOf message (copies ++ more) = copiesOf message copies ++ copiesOf message more := by
  simp only [copiesOf, List.filter_append, List.map_append]

theorem copiesOf_eq_nil {message : Nat} {copies : List Copy} :
    copiesOf message copies = [] ↔ ∀ copy ∈ copies, copy.message ≠ message := by
  simp [copiesOf, List.filter_eq_nil_iff]

theorem copiesOf_numbered (message number : Nat) (fresh : List Delivery) :
    copiesOf message (numbered number fresh) =
      if number ≤ message then fresh[message - number]?.toList else [] := by
  induction fresh generalizing number with
  | nil => simp [numbered, copiesOf]
  | cons d rest ih =>
      have step : copiesOf message (numbered number (d :: rest)) =
          copiesOf message [⟨number, d⟩] ++ copiesOf message (numbered (number + 1) rest) :=
        copiesOf_append message [⟨number, d⟩] _
      rw [step, ih]
      rcases Nat.lt_trichotomy number message with less | same | greater
      · have next : message - number = message - (number + 1) + 1 := by omega
        rw [copiesOf_eq_nil.mpr (by simp; omega), if_pos (by omega), if_pos (by omega), next]
        simp
      · subst same
        rw [if_neg (Nat.not_succ_le_self number)]
        simp [copiesOf]
      · rw [copiesOf_eq_nil.mpr (by simp; omega), if_neg (by omega), if_neg (by omega)]
        rfl

theorem mem_numbered {copy : Copy} {number : Nat} {fresh : List Delivery}
    (member : copy ∈ numbered number fresh) : copy.message < number + fresh.length := by
  induction fresh generalizing number with
  | nil => cases member
  | cons d rest ih =>
      rw [List.length_cons]
      rcases List.mem_cons.mp member with rfl | later
      · exact Nat.lt_add_of_pos_right (Nat.succ_pos _)
      · have step := ih later
        omega

theorem map_numbered (number : Nat) (fresh : List Delivery) :
    (numbered number fresh).map (·.delivery) = fresh := by
  induction fresh generalizing number with
  | nil => rfl
  | cons d rest ih => rw [numbered, List.map_cons, ih]

namespace Ledger

variable {q : QueueSettings} {posted : List Delivery} {copies others : List Copy} {copy : Copy}
  {reports : List Report} {s t : Service} {receipt : Receipt}

theorem empty (q : QueueSettings) : Ledger q [] [] [] where
  known := by simp
  reported := by simp
  chains := by simp

/-- Copies may change their places. -/
theorem perm (ledger : Ledger q posted copies reports) (same : copies.Perm others) :
    Ledger q posted others reports where
  known copy member := ledger.known copy (same.mem_iff.mpr member)
  reported := ledger.reported
  chains message request found :=
    (ledger.chains message request found).perm ((same.filter _).map _)

/-- A message that is posted begins a chain of its own. -/
theorem post (ledger : Ledger q posted copies reports) (fresh : List Delivery) :
    Ledger q (posted ++ fresh) (copies ++ numbered posted.length fresh) reports where
  known copy member := by
    rw [List.length_append]
    rcases List.mem_append.mp member with old | new
    · exact Nat.lt_add_right _ (ledger.known copy old)
    · exact mem_numbered new
  reported report member := by
    rw [List.length_append]
    exact Nat.lt_add_right _ (ledger.reported report member)
  chains message request found := by
    rw [copiesOf_append, copiesOf_numbered]
    rcases Nat.lt_or_ge message posted.length with old | new
    · rw [if_neg (by omega), List.append_nil]
      exact ledger.chains message request (by rwa [List.getElem?_append_left old] at found)
    · rw [List.getElem?_append_right new] at found
      have none : copiesOf message copies = [] := copiesOf_eq_nil.mpr fun copy member => by
        have known := ledger.known copy member
        omega
      have unreported : reports.filter (·.message == message) = [] := by
        rw [List.filter_eq_nil_iff]
        intro report member
        have known := ledger.reported report member
        rw [beq_iff_eq]
        omega
      rw [if_pos new, found, none, unreported]
      exact .live fun report member => (List.not_mem_nil member).elim

/-- A copy that is settled gives way to its report, and perhaps to the next copy. -/
theorem settle (ledger : Ledger q posted (copy :: others) reports)
    (settles : ∀ request, copy.delivery.payload = Request.text request →
      Settles q copy.delivery request s t receipt) :
    Ledger q posted (others ++ (putOffBetween s t).map (Copy.mk copy.message))
      (reports ++ [.of copy.message copy.delivery receipt s t]) where
  known other member := by
    rcases List.mem_append.mp member with old | new
    · exact ledger.known other (List.mem_cons_of_mem _ old)
    · obtain ⟨d, -, rfl⟩ := List.mem_map.mp new
      exact ledger.known copy List.mem_cons_self
  reported report member := by
    rcases List.mem_append.mp member with old | new
    · exact ledger.reported report old
    · rw [List.mem_singleton.mp new]
      exact ledger.known copy List.mem_cons_self
  chains message request found := by
    have chain := ledger.chains message request found
    rw [copiesOf_append, List.filter_append]
    by_cases same : copy.message = message
    · have split : copiesOf message (copy :: others) = copy.delivery :: copiesOf message others := by
        simp [copiesOf, same]
      have moved : copiesOf message ((putOffBetween s t).map (Copy.mk copy.message)) =
          putOffBetween s t := by
        simp [copiesOf, same, List.filter_map, Function.comp_def]
      have told : [Report.of copy.message copy.delivery receipt s t].filter (·.message == message) =
          [Report.of copy.message copy.delivery receipt s t] := by
        simp [Report.of, same]
      rw [split] at chain
      obtain ⟨none, next⟩ := chain.settle (settles request chain.payload) copy.message
      rw [none, moved, told, List.nil_append]
      exact next
    · have split : copiesOf message (copy :: others) = copiesOf message others := by
        simp [copiesOf, same]
      have moved : copiesOf message ((putOffBetween s t).map (Copy.mk copy.message)) = [] := by
        simp [copiesOf_eq_nil, same]
      have told : [Report.of copy.message copy.delivery receipt s t].filter (·.message == message) =
          [] := by
        simp [Report.of, same]
      rw [split] at chain
      rw [moved, told, List.append_nil, List.append_nil]
      exact chain

end Ledger

end Dossier.RequestConsumer
