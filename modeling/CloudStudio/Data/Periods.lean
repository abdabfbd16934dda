import CloudStudio.Data.Chain
import Mathlib.Algebra.Order.BigOperators.Group.List
import Mathlib.Order.Basic
import Mathlib.Tactic.Abel

/-!
# Running totals over a period

A running total whose entries have increasing times splits, for every period,
into the entries before the period, those in it and those after it.
-/

namespace CloudStudio.Data

section Cut

variable {Entry : Type} {earlier : Entry → Entry → Prop} {entries : List Entry}

/-- A property that an earlier entry has whenever a later one does cuts the
list. -/
theorem append_filter_not (sorted : entries.Pairwise earlier)
    (early : Entry → Bool)
    (closed : ∀ entry later, earlier entry later → early later = true →
      early entry = true) :
    entries = entries.filter early ++ entries.filter fun entry =>
      !early entry := by
  induction entries with
  | nil => rfl
  | cons head rest ih =>
      rw [List.pairwise_cons] at sorted
      cases first : early head with
      | true =>
          simp only [List.filter_cons, first, if_true, Bool.not_true,
            Bool.false_eq_true, if_false, List.cons_append]
          rw [← ih sorted.2]
      | false =>
          have none : rest.filter early = [] := by
            rw [List.filter_eq_nil_iff]
            intro later member isEarly
            have earlyHead := closed head later (sorted.1 later member) isEarly
            rw [first] at earlyHead
            cases earlyHead
          have all : rest.filter (fun entry => !early entry) = rest := by
            have cut := ih sorted.2
            rw [none, List.nil_append] at cut
            exact cut.symm
          simp [first, none, all]

end Cut

section Period

variable {Entry Time : Type} [LinearOrder Time] (time : Entry → Time)

/-- The entries of a period, both ends included. -/
def during (opens closes : Time) (entries : List Entry) : List Entry :=
  entries.filter fun entry => opens ≤ time entry ∧ time entry ≤ closes

def before (opens : Time) (entries : List Entry) : List Entry :=
  entries.filter fun entry => time entry < opens

def after (closes : Time) (entries : List Entry) : List Entry :=
  entries.filter fun entry => closes < time entry

variable {time} {opens closes : Time} {entries : List Entry}

/-- Up to the end of the period come the entries before it and those in it. -/
theorem upTo_eq
    (sorted : entries.Pairwise fun entry later => time entry < time later)
    (ordered : opens ≤ closes) :
    entries.filter (fun entry => time entry ≤ closes) =
      before time opens entries ++ during time opens closes entries := by
  have cut := append_filter_not
    (sorted.filter fun entry => decide (time entry ≤ closes))
    (fun entry => decide (time entry < opens)) fun entry later order early => by
      rw [decide_eq_true_iff] at early ⊢
      exact order.trans early
  rw [cut, List.filter_filter, List.filter_filter]
  unfold before during
  congr 1
  · apply List.filter_congr
    intro entry _
    simp only [Bool.and_eq_left_iff_imp, decide_eq_true_iff]
    intro early
    exact early.le.trans ordered
  · apply List.filter_congr
    intro entry _
    simp only [← not_lt, decide_not, Bool.decide_and]

/-- The entries are those up to the end of the period and those after it. -/
theorem eq_upTo_append
    (sorted : entries.Pairwise fun entry later => time entry < time later)
    (closes : Time) :
    entries = entries.filter (fun entry => time entry ≤ closes) ++
      after time closes entries := by
  have cut :=
    append_filter_not sorted (fun entry => decide (time entry ≤ closes))
    fun entry later order early => by
      rw [decide_eq_true_iff] at early ⊢
      exact order.le.trans early
  unfold after
  simpa only [← not_le, decide_not] using cut

end Period

namespace Running

variable {Entry Amount : Type} [AddCommGroup Amount]
  {running : Running Entry Amount} {start finish : Amount}

/-- A chain of two parts passes through the total between them. -/
theorem Chains.between {first second : List Entry}
    (chains : running.Chains start (first ++ second) finish) :
    ∃ middle, running.Chains start first middle ∧
      running.Chains middle second finish := by
  induction first generalizing start with
  | nil => exact ⟨start, rfl, chains⟩
  | cons head rest ih =>
      obtain ⟨middle, left, right⟩ := ih chains.2.2
      exact ⟨middle, ⟨chains.1, chains.2.1, left⟩, right⟩

/-- The first entry starts at the start. -/
theorem Chains.first {entries : List Entry}
    (chains : running.Chains start entries finish) {entry : Entry}
    (first : entries.head? = some entry) : running.before entry = start := by
  cases entries with
  | nil => cases first
  | cons head rest =>
      cases first
      exact chains.1

end Running

section Signs

variable {Entry Amount : Type} [AddCommGroup Amount] [LinearOrder Amount]
  (amount : Entry → Amount)

def credits (entries : List Entry) : Amount :=
  ((entries.filter fun entry => 0 < amount entry).map amount).sum

def debits (entries : List Entry) : Amount :=
  ((entries.filter fun entry => amount entry < 0).map amount).sum

/-- The credits and the debits are all there is. -/
theorem credits_add_debits (entries : List Entry) :
    credits amount entries + debits amount entries =
      (entries.map amount).sum := by
  induction entries with
  | nil => simp [credits, debits]
  | cons head rest ih =>
      rw [List.map_cons, List.sum_cons, ← ih]
      unfold credits debits
      rcases lt_trichotomy (amount head) 0 with debit | nothing | credit
      · simp only [List.filter_cons, debit, debit.asymm, decide_true,
          decide_false, if_true,
          Bool.false_eq_true, if_false, List.map_cons, List.sum_cons]
        abel
      · simp [nothing]
      · simp only [List.filter_cons, credit, credit.asymm, decide_true,
          decide_false, if_true,
          Bool.false_eq_true, if_false, List.map_cons, List.sum_cons]
        abel

theorem debits_nonpos [IsOrderedAddMonoid Amount] (entries : List Entry) :
    debits amount entries ≤ 0 := by
  apply (List.sum_le_card_nsmul _ 0 _).trans_eq (nsmul_zero _)
  intro value member
  obtain ⟨entry, kept, rfl⟩ := List.mem_map.mp member
  exact (of_decide_eq_true (List.mem_filter.mp kept).2).le

end Signs

end CloudStudio.Data
