import Mathlib.Algebra.BigOperators.Group.List.Basic
import Mathlib.Algebra.Group.Basic

/-!
# Running totals

A list of entries, each with the total before it, the total after it and the
amount between them, chains from a start to a finish when every entry starts
where the one before it ended.
-/

namespace CloudStudio.Data

variable {Entry Amount : Type} [AddCommGroup Amount]

/-- How to read an entry of a running total. -/
structure Running (Entry Amount : Type) where
  before : Entry → Amount
  after : Entry → Amount
  amount : Entry → Amount

namespace Running

variable (running : Running Entry Amount)

/-- The entries lead from `start` to `finish` without a gap. -/
def Chains (start : Amount) : List Entry → Amount → Prop
  | [], finish => finish = start
  | entry :: rest, finish =>
      running.before entry = start ∧
        running.after entry = running.before entry + running.amount entry ∧
        Chains (running.after entry) rest finish

variable {running} {start finish : Amount} {entries : List Entry}

theorem Chains.append (chains : running.Chains start entries finish)
    {entry : Entry} (continues : running.before entry = finish)
    (adds : running.after entry = running.before entry + running.amount entry) :
    running.Chains start (entries ++ [entry]) (running.after entry) := by
  induction entries generalizing start with
  | nil =>
      cases chains
      exact ⟨continues, adds, rfl⟩
  | cons head rest ih => exact ⟨chains.1, chains.2.1, ih chains.2.2⟩

/-- The finish is the start plus every amount. -/
theorem Chains.sum (chains : running.Chains start entries finish) :
    finish = start + (entries.map running.amount).sum := by
  induction entries generalizing start with
  | nil =>
      rw [show finish = start from chains, List.map_nil, List.sum_nil, add_zero]
  | cons head rest ih =>
      obtain ⟨starts, adds, chained⟩ := chains
      rw [ih chained, adds, starts, List.map_cons, List.sum_cons, add_assoc]

theorem Chains.each (chains : running.Chains start entries finish) :
    ∀ entry ∈ entries,
      running.after entry = running.before entry + running.amount entry := by
  induction entries generalizing start with
  | nil => simp
  | cons head rest ih =>
      rw [List.forall_mem_cons]
      exact ⟨chains.2.1, ih chains.2.2⟩

/-- Every entry starts where the one before it ended. -/
theorem Chains.linked (chains : running.Chains start entries finish) :
    entries.IsChain fun entry next => running.before next =
      running.after entry := by
  induction entries generalizing start with
  | nil => exact .nil
  | cons head rest ih =>
      obtain ⟨_, _, chained⟩ := chains
      cases rest with
      | nil => exact .singleton head
      | cons next rest => exact .cons_cons chained.1 (ih chained)

/-- The last entry ends at the finish. -/
theorem Chains.last (chains : running.Chains start entries finish)
    {entry : Entry} (last : entries.getLast? = some entry) :
    finish = running.after entry := by
  induction entries generalizing start with
  | nil => cases last
  | cons head rest ih =>
      obtain ⟨_, _, chained⟩ := chains
      cases rest with
      | nil =>
          cases last
          exact chained
      | cons next rest =>
          rw [List.getLast?_cons_cons] at last
          exact ih chained last

end Running

end CloudStudio.Data
