import Mathlib.Data.List.NodupEquivFin
import Mathlib.Data.List.Sort
import Mathlib.Order.OrderIsoNat

/-!
# A growing list, page by page

A list is read newest first, a page at a time, while rows are added to it.  Rows
only move towards later pages, so a row that the pages read so far have not
shown is still ahead.
-/

namespace CloudStudio.Data.Pages

variable {Row : Type}

/-- The rows of a page; pages are counted from 0. -/
def page (size number : ℕ) (rows : List Row) : List Row :=
  (rows.drop (number * size)).take size

/-- The row is on this page or a later one. -/
def Ahead (size number : ℕ) (rows : List Row) (row : Row) : Prop :=
  ∃ index, rows[index]? = some row ∧ number * size ≤ index

theorem ahead_first {size : ℕ} {rows : List Row} {row : Row}
    (member : row ∈ rows) : Ahead size 0 rows row := by
  obtain ⟨index, found⟩ := List.mem_iff_getElem?.mp member
  exact ⟨index, found, by simp⟩

namespace Ahead

variable {size number : ℕ} {rows : List Row} {row : Row}

/-- Rows that come between the others only move the row on. -/
theorem grow {later : List Row} (ahead : Ahead size number rows row)
    (within : rows.Sublist later) : Ahead size number later row := by
  obtain ⟨index, found, low⟩ := ahead
  obtain ⟨place, same⟩ :=
    List.sublist_iff_exists_orderEmbedding_getElem?_eq.mp within
  exact ⟨place
    index, by rw [← same, found], low.trans place.strictMono.le_apply⟩

/-- What is ahead is on the page, or stays ahead. -/
theorem turn (ahead : Ahead size number rows row) :
    row ∈ page size number rows ∨ Ahead size (number + 1) rows row := by
  obtain ⟨index, found, low⟩ := ahead
  by_cases high : (number + 1) * size ≤ index
  · exact .inr ⟨index, found, high⟩
  · refine .inl (List.mem_iff_getElem?.mpr ⟨index - number * size, ?_⟩)
    rw [Nat.succ_mul] at high
    rw [page, List.getElem?_take_of_lt (by omega), List.getElem?_drop]
    rwa [Nat.add_sub_cancel' low]

/-- Nothing is ahead once the pages are as many as the rows need. -/
theorem not_past (ahead : Ahead size number rows row) :
    ¬ rows.length ≤ number * size := by
  obtain ⟨index, found, low⟩ := ahead
  obtain ⟨inside, _⟩ := List.getElem?_eq_some_iff.mp found
  omega

end Ahead

variable {time : Row → ℕ} {rows later : List Row}

theorem pairwise_newest (time : Row → ℕ) (rows : List Row) :
    (rows.mergeSort fun first second => time second ≤ time first).Pairwise
      fun first second => time second ≤ time first := by
  have transitive (first second third : Row)
    (high : decide (time second ≤ time first) = true)
      (low : decide (time third ≤ time second) = true) :
      decide (time third ≤ time first) = true :=
    decide_eq_true ((of_decide_eq_true low).trans (of_decide_eq_true high))
  have total (first second : Row) :
      (decide (time second ≤ time first) || decide (time first ≤ time second)) =
        true := by
    simp only [Bool.or_eq_true, decide_eq_true_eq]
    exact le_total _ _
  exact (List.pairwise_mergeSort transitive total rows).imp of_decide_eq_true

/-- Rows of different times keep their order when others are added. -/
theorem mergeSort_sublist [DecidableEq Row] (within : rows.Sublist later)
    (distinct : (later.map time).Nodup) :
    (rows.mergeSort fun first second => time second ≤ time first).Sublist
      (later.mergeSort fun first second => time second ≤ time first) := by
  let sorted := later.mergeSort fun first second => time second ≤ time first
  have unique : later.Nodup := distinct.of_map time
  have chosen : (rows.mergeSort fun first second => time second ≤ time first) =
      sorted.filter (· ∈ rows) := by
    refine List.Perm.eq_of_pairwise ?_ (pairwise_newest time rows)
      ((pairwise_newest time later).filter _) ?_
    · intro first second first_in second_in low high
      have other := within.mem (List.mem_mergeSort.mp first_in)
      have this := List.mem_mergeSort.mp (List.mem_filter.mp second_in).1
      exact List.inj_on_of_nodup_map distinct other this (le_antisymm high low)
    · have nodup : sorted.Nodup :=
        (List.mergeSort_perm _ _).nodup_iff.mpr unique
      refine (List.perm_ext_iff_of_nodup ?_ (nodup.filter _)).mpr fun row => ?_
      · exact (List.mergeSort_perm _ _).nodup_iff.mpr (unique.sublist within)
      · simp only [List.mem_mergeSort, List.mem_filter, decide_eq_true_eq,
          sorted]
        exact ⟨fun member => ⟨within.mem member, member⟩, And.right⟩
  rw [chosen]
  exact List.filter_sublist

end CloudStudio.Data.Pages
