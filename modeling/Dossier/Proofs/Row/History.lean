import Dossier.Proofs.Row.Sorting
import Dossier.Proofs.Timestamp.Instant

/-! # Histories

The history of some rows has them by their instants, those of one instant in the order in which they came. There is
one such list alone, it is what sorting gives, and it only gains rows when rows come on. Main statements:
`IsHistory.unique`, `isHistory_sortByTime` and `sortByTime_sublist`.
-/

namespace Dossier.Row

variable {rows more listed other : List Row} {p : Row → Bool}

theorem sortByTime_nil : sortByTime [] = [] :=
  List.mergeSort_nil

/-- A row that comes first is put between the sorted rows that are earlier and the others. -/
theorem sortByTime_cons_filter (row : Row) (rows : List Row) : sortByTime (row :: rows) =
    (sortByTime rows).filter (fun other => !row.timestamp.le other.timestamp) ++
      row :: (sortByTime rows).filter (fun other => row.timestamp.le other.timestamp) := by
  obtain ⟨earlier, later, whole, rest, before⟩ := sortByTime_cons row rows
  have sorted := sortByTime_pairwise (row :: rows)
  rw [whole, List.pairwise_append] at sorted
  have after : ∀ other ∈ later, row.timestamp.le other.timestamp = true :=
    (List.pairwise_cons.mp sorted.2.1).1
  have early : earlier.filter (fun other => !row.timestamp.le other.timestamp) = earlier :=
    List.filter_eq_self.mpr fun other member => by simp [before other member]
  have noneLate : later.filter (fun other => !row.timestamp.le other.timestamp) = [] :=
    List.filter_eq_nil_iff.mpr fun other member => by simp [after other member]
  have noneEarly : earlier.filter (fun other => row.timestamp.le other.timestamp) = [] :=
    List.filter_eq_nil_iff.mpr before
  rw [whole, rest, List.filter_append, List.filter_append, early, noneLate, noneEarly,
    List.filter_eq_self.mpr after, List.append_nil, List.nil_append]

/-- Rows may be chosen before they are sorted or after. -/
theorem filter_sortByTime (p : Row → Bool) (rows : List Row) :
    (sortByTime rows).filter p = sortByTime (rows.filter p) := by
  induction rows with
  | nil => rw [sortByTime_nil, List.filter_nil, sortByTime_nil]
  | cons row rows ih =>
      cases chosen : p row with
      | true =>
          rw [List.filter_cons_of_pos chosen, sortByTime_cons_filter, sortByTime_cons_filter, ← ih,
            List.filter_append, List.filter_cons_of_pos chosen]
          simp only [List.filter_filter, Bool.and_comm]
      | false =>
          have left : ¬p row = true := by simp [chosen]
          obtain ⟨earlier, later, whole, rest, -⟩ := sortByTime_cons row rows
          rw [List.filter_cons_of_neg left, ← ih, whole, rest, List.filter_append, List.filter_append,
            List.filter_cons_of_neg left]

/-- More rows, wherever they come, only add to the sorted ones. -/
theorem sortByTime_sublist (sublist : rows.Sublist more) :
    (sortByTime rows).Sublist (sortByTime more) := by
  induction sublist with
  | slnil => exact List.Sublist.refl _
  | cons row _ ih =>
      obtain ⟨earlier, later, whole, rest, -⟩ := sortByTime_cons row _
      rw [whole]
      rw [rest] at ih
      exact ih.trans ((List.sublist_cons_self row later).append_left earlier)
  | cons_cons row _ ih =>
      rw [sortByTime_cons_filter, sortByTime_cons_filter]
      exact (ih.filter _).append ((ih.filter _).cons_cons row)

/-- Whether a list has some rows by their instants, and those of one instant in their order. -/
structure IsHistory (rows listed : List Row) : Prop where
  perm : listed.Perm rows
  ascending : listed.Pairwise fun a b => a.timestamp.instant ≤ b.timestamp.instant
  stable : ∀ instant, listed.filter (·.timestamp.instant = instant) =
    rows.filter (·.timestamp.instant = instant)

/-- A list in the order of time is known from what it has of each instant. -/
theorem eq_of_ascending (ascending : listed.Pairwise fun a b => a.timestamp.instant ≤ b.timestamp.instant)
    (too : other.Pairwise fun a b => a.timestamp.instant ≤ b.timestamp.instant)
    (same : ∀ instant, listed.filter (·.timestamp.instant = instant) =
      other.filter (·.timestamp.instant = instant)) : listed = other := by
  have first_eq {a b : Row} {as bs : List Row} (same : ∀ instant,
      (a :: as).filter (·.timestamp.instant = instant) =
        (b :: bs).filter (·.timestamp.instant = instant)) : a ∈ b :: bs := by
    have member : a ∈ (a :: as).filter (·.timestamp.instant = a.timestamp.instant) := by simp
    rw [same] at member
    exact (List.mem_filter.mp member).1
  induction listed generalizing other with
  | nil =>
      cases other with
      | nil => rfl
      | cons b bs => simpa using same b.timestamp.instant
  | cons a as ih =>
      cases other with
      | nil => simpa using same a.timestamp.instant
      | cons b bs =>
          -- Each of the first rows stands in both lists, so neither is later than the other.
          have first : a.timestamp.instant = b.timestamp.instant := by
            refine le_antisymm ?_ ?_
            · rcases List.mem_cons.mp (first_eq fun instant => (same instant).symm) with rfl | behind
              · exact le_rfl
              · exact (List.pairwise_cons.mp ascending).1 b behind
            · rcases List.mem_cons.mp (first_eq same) with rfl | behind
              · exact le_rfl
              · exact (List.pairwise_cons.mp too).1 a behind
          have row : a = b := by
            have heads := same b.timestamp.instant
            rw [List.filter_cons_of_pos (by simp [first]), List.filter_cons_of_pos (by simp)] at heads
            exact (List.cons.inj heads).1
          subst row
          have rest : as = bs := by
            refine ih (List.pairwise_cons.mp ascending).2 (List.pairwise_cons.mp too).2 fun instant => ?_
            have both := same instant
            rw [List.filter_cons, List.filter_cons] at both
            split at both
            · exact (List.cons.inj both).2
            · exact both
          rw [rest]

/-- Rows have one history. -/
theorem IsHistory.unique (history : IsHistory rows listed) (too : IsHistory rows other) :
    other = listed :=
  eq_of_ascending too.ascending history.ascending fun instant =>
    (too.stable instant).trans (history.stable instant).symm

/-- Rows that are sorted by their timestamps are their history. -/
theorem isHistory_sortByTime (rows : List Row) : IsHistory rows (sortByTime rows) where
  perm := List.mergeSort_perm rows _
  ascending := (sortByTime_pairwise rows).imp Timestamp.le_iff_instant_le.mp
  stable instant := by
    rw [filter_sortByTime]
    -- Rows of one instant are not after each other, so they are sorted as they stand.
    refine List.mergeSort_of_pairwise (List.pairwise_of_forall_mem_list ?_)
    intro a first b second
    have now := of_decide_eq_true (List.mem_filter.mp first).2
    have too := of_decide_eq_true (List.mem_filter.mp second).2
    refine Timestamp.le_iff_instant_le.mpr ?_
    rw [now, too]

end Dossier.Row
