import Dossier.Row.Basic

/-! # The latest row

Rows are sorted by time, and those of one instant stay in their order. So of some of the rows the one that
was saved last is the latest just if none of the others has a later timestamp. Main statement:
`getLast?_sortByTime_iff`.
-/

namespace Dossier

namespace Timestamp

variable {a b c : Timestamp}

theorem le_iff : a.le b = true ↔ List.le a.key b.key := by
  rw [le, Bool.not_eq_true', decide_eq_false_iff_not]

theorem le_trans (first : a.le b) (second : b.le c) : a.le c :=
  le_iff.mpr (List.le_trans (le_iff.mp first) (le_iff.mp second))

theorem le_total (a b : Timestamp) : a.le b ∨ b.le a := by
  rw [le_iff, le_iff]
  exact List.le_total a.key b.key

theorem le_refl (a : Timestamp) : a.le a :=
  (le_total a a).elim id id

end Timestamp

namespace Row

variable {rows : List Row} {row : Row} {p : Row → Bool}

theorem notAfter_trans (a b c : Row) (first : a.timestamp.le b.timestamp)
    (second : b.timestamp.le c.timestamp) : a.timestamp.le c.timestamp :=
  Timestamp.le_trans first second

theorem notAfter_total (a b : Row) :
    (a.timestamp.le b.timestamp || b.timestamp.le a.timestamp) = true := by
  rw [Bool.or_eq_true]
  exact Timestamp.le_total a.timestamp b.timestamp

theorem sortByTime_pairwise (rows : List Row) :
    (sortByTime rows).Pairwise fun a b => a.timestamp.le b.timestamp :=
  List.pairwise_mergeSort notAfter_trans notAfter_total rows

theorem mem_sortByTime : row ∈ sortByTime rows ↔ row ∈ rows :=
  List.mem_mergeSort

/-- One more row in front is put in its place among the sorted ones, in front of all that are not
earlier. -/
theorem sortByTime_cons (row : Row) (rows : List Row) :
    ∃ earlier later, sortByTime (row :: rows) = earlier ++ row :: later ∧
      sortByTime rows = earlier ++ later ∧
      ∀ other ∈ earlier, ¬row.timestamp.le other.timestamp := by
  obtain ⟨earlier, later, whole, rest, before⟩ :=
    List.mergeSort_cons notAfter_trans notAfter_total row rows
  exact ⟨earlier, later, whole, rest, fun other member => by simpa using before other member⟩

theorem getLast?_sortByTime (chosen : p row = true)
    (latest : ∀ other ∈ rows, p other = true → other.timestamp.le row.timestamp) :
    ((sortByTime (rows ++ [row])).filter p).getLast? = some row := by
  induction rows with
  | nil => simp [sortByTime, chosen]
  | cons first rows ih =>
      obtain ⟨notAfter, others⟩ := List.forall_mem_cons.mp latest
      obtain ⟨earlier, later, whole, rest, before⟩ := sortByTime_cons first (rows ++ [row])
      have last := ih others
      rw [rest, List.filter_append] at last
      rw [List.cons_append, whole, List.filter_append]
      cases picked : p first with
      | false => rwa [List.filter_cons_of_neg (by simp [picked])]
      | true =>
          rw [List.filter_cons_of_pos picked]
          cases behind : later.filter p with
          | cons second more =>
              rw [behind, List.getLast?_append] at last
              rw [List.getLast?_append, List.getLast?_cons_cons]
              exact last
          | nil =>
              -- The last row would stand in front of one that is not after it.
              rw [behind, List.append_nil] at last
              have member := List.mem_of_getLast? last
              exact absurd (notAfter picked) (before row (List.mem_filter.mp member).1)

theorem le_getLast?_sortByTime (last : ((sortByTime rows).filter p).getLast? = some row)
    {other : Row} (member : other ∈ rows) (chosen : p other = true) :
    other.timestamp.le row.timestamp := by
  obtain ⟨front, whole⟩ := List.getLast?_eq_some_iff.mp last
  have sorted := (sortByTime_pairwise rows).filter p
  have found : other ∈ (sortByTime rows).filter p :=
    List.mem_filter.mpr ⟨mem_sortByTime.mpr member, chosen⟩
  rw [whole] at sorted found
  rcases List.mem_append.mp found with earlier | same
  · exact (List.pairwise_append.mp sorted).2.2 other earlier row (List.mem_singleton_self row)
  · rw [List.mem_singleton.mp same]
    exact Timestamp.le_refl _

/-- Of some rows the last one is the latest just if no other is after it. -/
theorem getLast?_sortByTime_iff (chosen : p row = true) :
    ((sortByTime (rows ++ [row])).filter p).getLast? = some row ↔
      ∀ other ∈ rows, p other = true → other.timestamp.le row.timestamp := by
  constructor
  · intro last other member picked
    exact le_getLast?_sortByTime last (List.mem_append_left _ member) picked
  · exact getLast?_sortByTime chosen

end Row

end Dossier
