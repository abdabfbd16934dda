import Mathlib.Data.List.Nodup

/-!
# Keyed tables

A table is a list of rows in insertion order in which no two rows have the same
key.  The uniqueness of the key, the database's unique index, is a field of the
structure, so a table that violates it cannot be built.
-/

namespace CloudStudio.Data

/-- Rows in insertion order, unique in `key`. -/
structure Table {Row Key : Type} (key : Row → Key) where
  rows : List Row
  unique : (rows.map key).Nodup

namespace Table

variable {Row Key : Type} {key : Row → Key}

/-- The table without rows. -/
def empty : Table key where
  rows := []
  unique := List.nodup_nil

variable [DecidableEq Key]

/-- The row with a key. -/
def find? (table : Table key) (wanted : Key) : Option Row :=
  table.rows.find? fun row => decide (key row = wanted)

/-- Append a row, or fail on the unique index. -/
def insert? (table : Table key) (row : Row) : Option (Table key) :=
  if fresh : key row ∉ table.rows.map key then
    some
      { rows := table.rows ++ [row]
        unique := by
          rw [List.map_append]
          exact table.unique.append (List.nodup_singleton _)
            (by simpa [List.disjoint_singleton] using fresh) }
  else none

/-- Append a row; a row whose key is taken is dropped. -/
def insert (table : Table key) (row : Row) : Table key :=
  (table.insert? row).getD table

/-- Append rows, or fail on the unique index. -/
def insertAll? (table : Table key) (rows : List Row) : Option (Table key) :=
  rows.foldlM insert? table

/-- Append rows; a row whose key is taken is dropped. -/
def insertAll (table : Table key) (rows : List Row) : Table key :=
  rows.foldl insert table

/-- Drop the row with a key, if there is one. -/
def erase (table : Table key) (wanted : Key) : Table key where
  rows := table.rows.filter fun row => key row ≠ wanted
  unique := table.unique.sublist (List.filter_sublist.map key)

/-- Change the row with a key; the change may not touch the key. -/
def modify (table : Table key) (wanted : Key) (change : Row → Row)
    (keeps : ∀ row, key (change row) = key row) : Table key where
  rows := table.rows.map fun row => if key row = wanted then change row else row
  unique := by
    have same : (table.rows.map fun row =>
        if key row = wanted then change row else row).map key =
          table.rows.map key := by
      rw [List.map_map]
      refine List.map_congr_left fun row _ => ?_
      simp only [Function.comp_apply]
      split
      · exact keeps row
      · rfl
    rw [same]
    exact table.unique

/-- Change every row; the change may not touch the keys. -/
def modifyAll (table : Table key) (change : Row → Row)
    (keeps : ∀ row, key (change row) = key row) : Table key where
  rows := table.rows.map change
  unique := by
    rw [List.map_map]
    have same : key ∘ change = key := funext keeps
    rw [same]
    exact table.unique

@[simp] theorem find?_empty (wanted : Key) :
    (empty : Table key).find? wanted = none := rfl

theorem key_of_find? {table : Table key} {wanted : Key} {row : Row}
    (found : table.find? wanted = some row) : key row = wanted := by
  simpa using List.find?_some found

theorem mem_of_find? {table : Table key} {wanted : Key} {row : Row}
    (found : table.find? wanted = some row) : row ∈ table.rows :=
  List.mem_of_find?_eq_some found

theorem find?_eq_none_iff {table : Table key} {wanted : Key} :
    table.find? wanted = none ↔ wanted ∉ table.rows.map key := by
  simp [find?]

/-- A row of the table is the one its key finds. -/
theorem find?_of_mem {table : Table key} {row : Row}
    (member : row ∈ table.rows) : table.find? (key row) = some row := by
  obtain ⟨rows, unique⟩ := table
  simp only [find?] at member ⊢
  induction rows with
  | nil => cases member
  | cons head tail ih =>
      simp only [List.map_cons, List.nodup_cons] at unique
      rcases List.mem_cons.mp member with rfl | later
      · simp
      · have differ : key head ≠ key row := fun equal =>
          unique.1 (equal ▸ List.mem_map_of_mem later)
        simp [differ, ih unique.2 later]

theorem find?_modify (table : Table key) (changed wanted : Key)
    (change : Row → Row) (keeps : ∀ row, key (change row) = key row) :
    (table.modify changed change keeps).find? wanted =
      if wanted = changed then (table.find? wanted).map change
      else table.find? wanted := by
  obtain ⟨rows, unique⟩ := table
  simp only [find?, modify]
  clear unique
  induction rows with
  | nil => simp
  | cons head tail ih =>
      simp only [List.map_cons, List.find?_cons, ih]
      by_cases atHead : key head = changed <;> by_cases same : wanted = changed
        <;> by_cases hit : key head = wanted <;> simp_all

@[simp] theorem find?_modify_self (table : Table key) (wanted : Key)
    (change : Row → Row) (keeps : ∀ row, key (change row) = key row) :
    (table.modify wanted change keeps).find? wanted =
      (table.find? wanted).map change := by
  rw [find?_modify, if_pos rfl]

theorem find?_modify_ne {table : Table key} {changed wanted : Key}
    (differ : wanted ≠ changed) (change : Row → Row)
    (keeps : ∀ row, key (change row) = key row) :
    (table.modify changed change keeps).find? wanted = table.find? wanted := by
  rw [find?_modify, if_neg differ]

omit [DecidableEq Key] in
@[ext] theorem ext {table other : Table key} (same : table.rows = other.rows) :
    table = other := by
  obtain ⟨rows, unique⟩ := table
  obtain ⟨rows', unique'⟩ := other
  cases same
  rfl

/-- Only what a change does to the row it finds matters. -/
theorem find?_modifyAll (table : Table key) (change : Row → Row)
    (keeps : ∀ row, key (change row) = key row) (wanted : Key) :
    (table.modifyAll change keeps).find? wanted =
      (table.find? wanted).map change := by
  unfold find? modifyAll
  rw [List.find?_map]
  have same : (fun row => decide (key row = wanted)) ∘ change =
      fun row => decide (key row = wanted) := by
    funext row
    rw [Function.comp_apply, keeps]
  rw [same]

theorem modify_congr {table : Table key} {wanted : Key} {found : Row}
    (at_key : table.find? wanted = some found) {change other : Row → Row}
    (same : change found = other found)
    (keeps : ∀ row, key (change row) = key row)
    (keepsOther : ∀ row, key (other row) = key row) :
    table.modify wanted change keeps =
      table.modify wanted other keepsOther := by
  ext1
  simp only [modify]
  refine List.map_congr_left fun row member => ?_
  by_cases hit : key row = wanted
  · have equal : row = found := by
      have at_row := find?_of_mem member
      rw [hit, at_key] at at_row
      exact (Option.some.inj at_row).symm
    rw [if_pos hit, if_pos hit, equal, same]
  · rw [if_neg hit, if_neg hit]

/-- A change that gives the found row back changes nothing. -/
theorem modify_eq_self {table : Table key} {wanted : Key} {found : Row}
    (at_key : table.find? wanted = some found) {change : Row → Row}
    (same : change found = found) (keeps : ∀ row, key (change row) = key row) :
    table.modify wanted change keeps = table := by
  rw [modify_congr at_key (show change found = id found from same)
    keeps fun _ => rfl]
  ext1
  simp [modify]

/-- Changing a row leaves the table as it was just when it gives the row
back. -/
theorem modify_eq_self_iff {table : Table key} {wanted : Key} {found : Row}
    (at_key : table.find? wanted = some found) {change : Row → Row}
    (keeps : ∀ row, key (change row) = key row) :
    table.modify wanted change keeps = table ↔ change found = found := by
  constructor
  · intro same
    have changed := table.find?_modify_self wanted change keeps
    rw [same, at_key, Option.map_some] at changed
    exact (Option.some.inj changed).symm
  · exact fun same => modify_eq_self at_key same keeps

/-- A change whose key no row has changes nothing. -/
theorem modify_absent {table : Table key} {wanted : Key}
    (absent : table.find? wanted = none) (change : Row → Row)
    (keeps : ∀ row, key (change row) = key row) :
    table.modify wanted change keeps = table := by
  ext1
  simp only [modify]
  refine (List.map_congr_left fun row member => ?_).trans
    (List.map_id table.rows)
  have differ : key row ≠ wanted := fun hit =>
    find?_eq_none_iff.mp absent (hit ▸ List.mem_map_of_mem member)
  rw [if_neg differ, id]

theorem mem_modify {table : Table key} {wanted : Key} {found row : Row}
    (at_key : table.find? wanted = some found) {change : Row → Row}
    {keeps : ∀ row, key (change row) = key row}
    (member : row ∈ (table.modify wanted change keeps).rows) :
    row = change found ∨ row ∈ table.rows := by
  have at_row := find?_of_mem member
  rw [find?_modify] at at_row
  split at at_row
  · rename_i hit
    rw [hit, at_key] at at_row
    exact .inl (Option.some.inj at_row).symm
  · exact .inr (mem_of_find? at_row)

theorem insert?_eq_none_iff {table : Table key} {row : Row} :
    table.insert? row = none ↔ (table.find? (key row)).isSome := by
  unfold insert?
  split
  · rename_i fresh
    simp [find?_eq_none_iff.mpr fresh]
  · rename_i taken
    simp only [true_iff]
    rw [Option.isSome_iff_ne_none]
    exact fun absent => taken (find?_eq_none_iff.mp absent)

theorem rows_insert {table : Table key} {row : Row}
    (fresh : table.find? (key row) = none) :
    (table.insert row).rows = table.rows ++ [row] := by
  unfold insert insert?
  rw [dif_pos (find?_eq_none_iff.mp fresh)]
  rfl

theorem insert_of_insert? {table other : Table key} {row : Row}
    (inserted : table.insert? row = some other) :
    table.insert row = other ∧ other.rows = table.rows ++ [row] := by
  have fresh : table.find? (key row) = none := by
    by_contra taken
    rw [insert?_eq_none_iff.mpr
      (Option.isSome_iff_ne_none.mpr taken)] at inserted
    cases inserted
  have same : table.insert row = other := by
    rw [insert, inserted]
    rfl
  exact ⟨same, same ▸ rows_insert fresh⟩

theorem insertAll_of_insertAll? {table other : Table key} {rows : List Row}
    (inserted : table.insertAll? rows = some other) :
    table.insertAll rows = other ∧ other.rows = table.rows ++ rows := by
  induction rows generalizing table with
  | nil =>
      cases inserted
      exact ⟨rfl, (List.append_nil _).symm⟩
  | cons row rest ih =>
      simp only [insertAll?, List.foldlM_cons, Option.bind_eq_bind,
        Option.bind_eq_some_iff] at inserted
      obtain ⟨middle, first, later⟩ := inserted
      obtain ⟨same, added⟩ := insert_of_insert? first
      obtain ⟨all, rows_eq⟩ := ih later
      constructor
      · rw [← all, ← same]
        rfl
      · rw [rows_eq, added, List.append_assoc, List.singleton_append]

/-- Rows whose keys are taken are dropped. -/
theorem rows_insertAll (table : Table key) (rows : List Row) :
    ∃ added, added.Sublist rows ∧ (table.insertAll rows).rows =
      table.rows ++ added := by
  induction rows generalizing table with
  | nil => exact ⟨[], .slnil, (List.append_nil _).symm⟩
  | cons row rows ih =>
      obtain ⟨added, sublist, same⟩ := ih (table.insert row)
      by_cases fresh : table.find? (key row) = none
      · refine ⟨row :: added, sublist.cons_cons row, same.trans ?_⟩
        rw [rows_insert fresh, List.append_assoc, List.singleton_append]
      · refine ⟨added, sublist.cons row, same.trans ?_⟩
        have dropped : table.insert row = table := by
          unfold insert insert?
          rw [dif_neg fun absent => fresh (find?_eq_none_iff.mpr absent)]
          rfl
        rw [dropped]

theorem find?_insert (table : Table key) (row : Row) (wanted : Key) :
    (table.insert row).find? wanted =
      (table.find? wanted).or
        (if key row = wanted then some row else none) := by
  unfold insert insert?
  split
  · simp only [Option.getD_some, find?, List.find?_append]
    by_cases hit : key row = wanted <;> simp [hit]
  · rename_i taken
    simp only [Option.getD_none]
    by_cases hit : key row = wanted
    · subst hit
      have present : table.find? (key row) ≠ none :=
        fun absent => taken (find?_eq_none_iff.mp absent)
      cases found : table.find? (key row) with
      | none => exact absurd found present
      | some old => simp
    · simp [hit]

/-- Rows can be appended together when their keys are free and differ. -/
theorem find?_insertAll {table : Table key} {wanted : Key} {row : Row}
    (found : table.find? wanted = some row) (rows : List Row) :
    (table.insertAll rows).find? wanted = some row := by
  obtain ⟨added, _, same⟩ := table.rows_insertAll rows
  unfold find? at found ⊢
  rw [same, List.find?_append, found, Option.some_or]

theorem insertAll?_isSome_iff {table : Table key} {rows : List Row} :
    (table.insertAll? rows).isSome ↔
      (rows.map key).Nodup ∧ ∀ row ∈ rows, table.find? (key row) = none := by
  induction rows generalizing table with
  | nil => simp [insertAll?]
  | cons row rest ih =>
      simp only [insertAll?, List.foldlM_cons, Option.bind_eq_bind]
      cases inserted : table.insert? row with
      | none =>
          have taken := insert?_eq_none_iff.mp inserted
          constructor
          · intro absurd
            cases absurd
          · rintro ⟨_, free⟩
            rw [free row List.mem_cons_self] at taken
            cases taken
      | some other =>
          have fresh : table.find? (key row) = none := by
            by_contra taken
            rw [insert?_eq_none_iff.mpr
              (Option.isSome_iff_ne_none.mpr taken)] at inserted
            cases inserted
          obtain ⟨same, _⟩ := insert_of_insert? inserted
          have later (wanted : Key) : other.find? wanted = none ↔
              table.find? wanted = none ∧ key row ≠ wanted := by
            rw [← same, find?_insert]
            by_cases hit : key row = wanted <;> simp [hit]
          have rest_iff : (rest.foldlM insert? other).isSome ↔ _ := ih
          rw [Option.bind_some, rest_iff]
          simp only [later, List.map_cons, List.nodup_cons, List.mem_map,
            List.forall_mem_cons, fresh, true_and]
          constructor
          · rintro ⟨distinct, free⟩
            exact ⟨⟨fun ⟨twin, member, equal⟩ =>
              (free twin member).2 equal.symm, distinct⟩,
              fun twin member => (free twin member).1⟩
          · rintro ⟨⟨apart, distinct⟩, free⟩
            exact ⟨distinct, fun twin member => ⟨free twin member,
              fun equal => apart ⟨twin, member, equal.symm⟩⟩⟩

/-- A change of rows that keeps what is read of them. -/
theorem filterMap_modify {Value : Type*} (table : Table key) (wanted : Key)
    (change : Row → Row) (keeps : ∀ row, key (change row) = key row)
    {value : Row → Option Value}
    (same : ∀ row, value (change row) = value row) :
    (table.modify wanted change keeps).rows.filterMap value =
      table.rows.filterMap value := by
  unfold modify
  rw [List.filterMap_map]
  apply List.filterMap_congr
  intro row _
  rw [Function.comp_apply]
  split
  · exact same row
  · rfl

/-! ## A property of every row -/

/-- Every row is as `good` says. -/
def Each (table : Table key) (good : Row → Prop) : Prop :=
  ∀ row ∈ table.rows, good row

namespace Each

variable {table : Table key} {good : Row → Prop}

theorem insert {row : Row} (each : table.Each good) (fits : good row) :
    (table.insert row).Each good := by
  cases found : table.find? (key row) with
  | none =>
      intro other member
      rw [rows_insert found, List.mem_append, List.mem_singleton] at member
      cases member with
      | inl old => exact each other old
      | inr same => exact same ▸ fits
  | some old =>
      have taken : table.insert? row = none := by
        rw [insert?_eq_none_iff, found]
        rfl
      rw [Table.insert, taken]
      exact each

theorem insertAll {rows : List Row} (each : table.Each good)
    (fits : ∀ row ∈ rows, good row) : (table.insertAll rows).Each good := by
  induction rows generalizing table with
  | nil => exact each
  | cons row rest ih =>
      apply ih (each.insert (fits row List.mem_cons_self))
      exact fun other member => fits other (List.mem_cons_of_mem row member)

omit [DecidableEq Key] in
theorem modifyAll {change : Row → Row} (each : table.Each good)
    (keeps : ∀ row, key (change row) = key row)
    (stays : ∀ row, good row → good (change row)) :
    (table.modifyAll change keeps).Each good := by
  intro row member
  obtain ⟨before, old, rfl⟩ := List.mem_map.mp member
  exact stays before (each before old)

theorem modify {wanted : Key} {change : Row → Row} (each : table.Each good)
    (keeps : ∀ row, key (change row) = key row)
    (stays : ∀ row, good row → good (change row)) :
    (table.modify wanted change keeps).Each good := by
  intro row member
  obtain ⟨before, old, rfl⟩ := List.mem_map.mp member
  split
  · exact stays before (each before old)
  · exact each before old

end Each

end Table

end CloudStudio.Data
