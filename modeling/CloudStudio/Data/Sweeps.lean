import Mathlib.Data.List.Nodup

/-!
# Sweeps in batches

A sweep goes through the items that are open in a fixed order, at most a batch
of them, one turn each, until a turn fails.  Sweep after sweep starts from the
front again, so an item is reached only when few enough are open before it.
-/

namespace CloudStudio.Data.Sweeps

variable {State Item : Type}

/-- Whether the turn of an item completes, and the state it leaves. -/
abbrev Turn (State Item : Type) := Item → State → Bool × State

/-- The items whose turn has come, until a turn fails, and the state left. -/
def visit (turn : Turn State Item) : List Item → State → List Item × State
  | [], state => ([], state)
  | item :: rest, state =>
      if (turn item state).1 then
        (item :: (visit turn rest (turn item state).2).1,
          (visit turn rest (turn item state).2).2)
      else ([item], (turn item state).2)

/-- All turns complete. -/
def Completes (turn : Turn State Item) : List Item → State → Prop
  | [], _ => True
  | item :: rest, state =>
      (turn item state).1 = true ∧ Completes turn rest (turn item state).2

/-- A turn opens and closes no item but its own. -/
def Frames (isOpen : State → Item → Bool) (turn : Turn State Item) : Prop :=
  ∀ item state other, other ≠ item → isOpen (turn item state).2 other =
    isOpen state other

variable {turn : Turn State Item} {items rest : List Item} {item : Item}
  {state : State}

theorem visit_sublist : (visit turn items state).1.Sublist items := by
  induction items generalizing state with
  | nil => exact List.Sublist.refl []
  | cons item rest ih =>
      rw [visit]
      split
      · exact ih.cons_cons item
      · exact (List.nil_sublist rest).cons_cons item

theorem visit_append_of_completes (completes : Completes turn items state) :
    (visit turn (items ++ rest) state).1 =
      items ++ (visit turn rest (visit turn items state).2).1 := by
  induction items generalizing state with
  | nil => rfl
  | cons item later ih =>
      rw [List.cons_append, visit, if_pos completes.1, ih completes.2, visit,
        if_pos completes.1, List.cons_append]

/-- What comes after a failed turn is not reached. -/
theorem completes_of_visited (fresh : item ∉ items)
    (visited : item ∈ (visit turn (items ++ rest) state).1) :
    Completes turn items state := by
  induction items generalizing state with
  | nil => trivial
  | cons first later ih =>
      rw [List.cons_append, visit] at visited
      have differs : item ≠ first := List.ne_of_not_mem_cons fresh
      have absent : item ∉ later := List.not_mem_of_not_mem_cons fresh
      split at visited
      · rename_i done
        refine ⟨done, ih absent ?_⟩
        exact (List.mem_cons.mp visited).resolve_left differs
      · exact absurd (List.mem_singleton.mp visited) differs

/-- An item that is not visited is as open as before. -/
theorem isOpen_visit {isOpen : State → Item → Bool}
    (frames : Frames isOpen turn)
    (unvisited : item ∉ (visit turn items state).1) :
    isOpen (visit turn items state).2 item = isOpen state item := by
  induction items generalizing state with
  | nil => rfl
  | cons first later ih =>
      rw [visit] at unvisited ⊢
      split at unvisited
      · rename_i done
        rw [if_pos done]
        have differs : item ≠ first := List.ne_of_not_mem_cons unvisited
        rw [ih (List.not_mem_of_not_mem_cons unvisited),
          frames first state item differs]
      · rename_i failed
        rw [if_neg failed]
        exact frames first state item (by simpa using unvisited)

variable (order : List Item) (isOpen : State → Item → Bool) (batch : ℕ)

/-- The items that are open, in their order. -/
def opened (state : State) : List Item := order.filter (isOpen state)

def sweep (turn : Turn State Item) (state : State) : List Item × State :=
  visit turn ((opened order isOpen state).take batch) state

def sweeps : List (Turn State Item) → State → List Item × State
  | [], state => ([], state)
  | turn :: later, state =>
      let first := sweep order isOpen batch turn state
      let others := sweeps later first.2
      (first.1 ++ others.1, others.2)

variable {order isOpen batch} {turns earlier later : List (Turn State Item)}

theorem mem_opened :
    item ∈ opened order isOpen state ↔ item ∈ order ∧ isOpen state item :=
  List.mem_filter

theorem sweeps_append :
    sweeps order isOpen batch (earlier ++ later) state =
      ((sweeps order isOpen batch earlier state).1 ++
          (sweeps order isOpen batch later
            (sweeps order isOpen batch earlier state).2).1,
        (sweeps order isOpen batch later
          (sweeps order isOpen batch earlier state).2).2) := by
  induction earlier generalizing state with
  | nil => rfl
  | cons turn earlier ih =>
      simp only [List.cons_append, sweeps, ih, List.append_assoc]

theorem isOpen_of_swept
    (visited : item ∈ (sweep order isOpen batch turn state).1) :
    item ∈ opened order isOpen state :=
  List.mem_of_mem_take (visit_sublist.subset visited)

theorem isOpen_sweeps (frames : ∀ turn ∈ turns, Frames isOpen turn)
    (unvisited : item ∉ (sweeps order isOpen batch turns state).1) :
    isOpen (sweeps order isOpen batch turns state).2 item =
      isOpen state item := by
  induction turns generalizing state with
  | nil => rfl
  | cons turn later ih =>
      rw [List.forall_mem_cons] at frames
      simp only [sweeps, List.mem_append, not_or] at unvisited ⊢
      rw [ih frames.2 unvisited.2]
      exact isOpen_visit frames.1 unvisited.1

/-- What is closed stays closed: only its own turn could open it. -/
theorem closed_sweeps (frames : ∀ turn ∈ turns, Frames isOpen turn)
    (closed : isOpen state item = false) :
    isOpen (sweeps order isOpen batch turns state).2 item = false := by
  induction turns generalizing state with
  | nil => exact closed
  | cons turn later ih =>
      rw [List.forall_mem_cons] at frames
      refine ih frames.2 ?_
      rw [sweep, isOpen_visit frames.1, closed]
      intro visited
      have wasOpen := (mem_opened.mp (isOpen_of_swept visited)).2
      rw [closed] at wasOpen
      cases wasOpen

/-- The sweep that reaches an item first. -/
theorem first_sweep
    (visited : item ∈ (sweeps order isOpen batch turns state).1) :
    ∃ earlier turn later, turns = earlier ++ turn :: later ∧
      item ∉ (sweeps order isOpen batch earlier state).1 ∧
      item ∈ (sweep order isOpen batch turn
        (sweeps order isOpen batch earlier state).2).1 := by
  induction turns generalizing state with
  | nil => cases visited
  | cons turn later ih =>
      by_cases now : item ∈ (sweep order isOpen batch turn state).1
      · exact ⟨[], turn, later, rfl, List.not_mem_nil, now⟩
      · simp only [sweeps, List.mem_append, now, false_or] at visited
        obtain ⟨earlier, next, rest, rfl, before, reached⟩ := ih visited
        refine ⟨turn :: earlier, next, rest, rfl, ?_, reached⟩
        simp only [sweeps, List.mem_append, not_or]
        exact ⟨now, before⟩

/-- The last open item stays the last for as long as it has not had its turn. -/
theorem opened_concat {before : List Item} {newest : Item}
    (frames : ∀ turn ∈ turns, Frames isOpen turn)
    (last : opened order isOpen state = before ++ [newest])
    (unvisited : newest ∉ (sweeps order isOpen batch turns state).1) :
    ∃ still, opened order isOpen (sweeps order isOpen batch turns state).2 =
      still ++ [newest] := by
  have narrows : opened order isOpen (sweeps order isOpen batch turns state).2 =
      (opened order isOpen state).filter
        (isOpen (sweeps order isOpen batch turns state).2) := by
    simp only [opened, List.filter_filter]
    refine List.filter_congr fun item _ => ?_
    cases open_ : isOpen state item with
    | false => simp [closed_sweeps frames open_]
    | true => simp
  have wasOpen : isOpen state newest = true := by
    have member : newest ∈ opened order isOpen state := by simp [last]
    exact (mem_opened.mp member).2
  refine ⟨before.filter (isOpen (sweeps order isOpen batch turns state).2), ?_⟩
  rw [narrows, last, List.filter_append, List.filter_singleton,
    isOpen_sweeps frames unvisited, wasOpen]
  rfl

/-- Every item still open has had a turn just when nothing was open, or one
sweep found no more than a batch of open items and failed at none before the
last. -/
theorem reaches_open_iff (distinct : order.Nodup)
    (frames : ∀ turn ∈ turns, Frames isOpen turn) :
    (∀ item ∈ opened order isOpen (sweeps order isOpen batch turns state).2,
        item ∈ (sweeps order isOpen batch turns state).1) ↔
      opened order isOpen state = [] ∨
        ∃ earlier turn later, turns = earlier ++ turn :: later ∧
          (opened order isOpen
            (sweeps order isOpen batch earlier state).2).length ≤ batch ∧
          Completes turn
            (opened order isOpen
              (sweeps order isOpen batch earlier state).2).dropLast
            (sweeps order isOpen batch earlier state).2 := by
  have split_frames {earlier later : List (Turn State Item)}
    {turn : Turn State Item}
      (split : turns = earlier ++ turn :: later) :
      (∀ other ∈ earlier, Frames isOpen other) ∧
        ∀ other ∈ turn :: later, Frames isOpen other := by
    subst split
    exact ⟨fun other member => frames other (List.mem_append_left _ member),
      fun other member => frames other (List.mem_append_right _ member)⟩
  constructor
  · intro reached
    rcases List.eq_nil_or_concat (opened order isOpen state) with
      none | ⟨before, newest, last⟩
    · exact .inl none
    rw [List.concat_eq_append] at last
    right
    have member : newest ∈ opened order isOpen state := by simp [last]
    have visited : newest ∈ (sweeps order isOpen batch turns state).1 := by
      by_contra unvisited
      refine unvisited
        (reached newest (mem_opened.mpr ⟨(mem_opened.mp member).1, ?_⟩))
      rw [isOpen_sweeps frames unvisited]
      exact (mem_opened.mp member).2
    obtain ⟨earlier, turn, later, split, unvisited, now⟩ := first_sweep visited
    obtain ⟨still, stillLast⟩ :=
      opened_concat (split_frames split).1 last unvisited
    refine ⟨earlier, turn, later, split, ?_⟩
    have fresh : newest ∉ still := by
      have nodup : (still ++ [newest]).Nodup := stillLast ▸ distinct.filter _
      rw [List.nodup_append] at nodup
      exact fun twin => nodup.2.2 newest twin newest List.mem_cons_self rfl
    rw [sweep, stillLast] at now
    have short : still.length < batch := by
      by_contra long
      rw [List.take_append_of_le_length (Nat.le_of_not_lt long)] at now
      exact fresh (List.mem_of_mem_take (visit_sublist.subset now))
    have all : (still ++ [newest]).take batch = still ++ [newest] :=
      List.take_of_length_le (by simpa using Nat.succ_le_of_lt short)
    rw [all] at now
    rw [stillLast, List.dropLast_concat]
    exact ⟨by simpa using Nat.succ_le_of_lt short,
      completes_of_visited fresh now⟩
  · rintro (none | ⟨earlier, turn, later, split, short, completes⟩) item
      isOpenNow
    · obtain ⟨listed, openNow⟩ := mem_opened.mp isOpenNow
      have closed : isOpen state item = false := by
        by_contra open_
        have member : item ∈ opened order isOpen state :=
          mem_opened.mpr ⟨listed, by simpa using open_⟩
        rw [none] at member
        cases member
      rw [closed_sweeps frames closed] at openNow
      cases openNow
    · obtain ⟨listed, openNow⟩ := mem_opened.mp isOpenNow
      rw [split, sweeps_append] at openNow ⊢
      refine List.mem_append_right _ (List.mem_append_left _ ?_)
      have member :
        item ∈ opened order isOpen
        (sweeps order isOpen batch earlier state).2 := by
        refine mem_opened.mpr ⟨listed, ?_⟩
        by_contra open_
        have closed : isOpen (sweeps order isOpen batch earlier state).2 item =
          false := by
          simpa using open_
        rw [closed_sweeps (split_frames split).2 closed] at openNow
        cases openNow
      rw [sweep, List.take_of_length_le short]
      generalize (sweeps order isOpen batch earlier state).2 =
        reached at member completes ⊢
      rcases List.eq_nil_or_concat (opened order isOpen reached) with
        none | ⟨before, newest, last⟩
      · rw [none] at member
        cases member
      rw [List.concat_eq_append] at last
      rw [last, List.dropLast_concat] at completes
      rw [last, visit_append_of_completes completes]
      rw [last] at member
      rcases List.mem_append.mp member with early | final
      · exact List.mem_append_left _ early
      · refine List.mem_append_right _ ?_
        rw [List.mem_singleton] at final
        subst final
        rw [visit]
        split
        · exact List.mem_cons_self
        · exact List.mem_cons_self

/-- A stable sort and a selection can change places. -/
theorem filter_mergeSort {Row : Type} (key : Row → ℕ) (keep : Row → Bool)
    (rows : List Row) :
    (rows.mergeSort fun first second => key first ≤ key second).filter keep =
      (rows.filter keep).mergeSort fun first second =>
        key first ≤ key second := by
  let le : Row → Row → Bool := fun first second => key first ≤ key second
  have trans (a b c : Row) : le a b → le b c → le a c := by
    simp only [le, decide_eq_true_eq]
    exact Nat.le_trans
  have total (a b : Row) : le a b || le b a := by
    simp only [le, Bool.or_eq_true, decide_eq_true_eq]
    exact Nat.le_total _ _
  change (rows.mergeSort le).filter keep = (rows.filter keep).mergeSort le
  induction rows with
  | nil => simp
  | cons row rest ih =>
      obtain ⟨front, back, whole, parts, smaller⟩ :=
        List.mergeSort_cons trans total row rest
      rw [parts, List.filter_append] at ih
      rw [whole, List.filter_append]
      by_cases kept : keep row
      · obtain ⟨front', back', whole', parts', smaller'⟩ :=
          List.mergeSort_cons trans total row (rest.filter keep)
        rw [List.filter_cons_of_pos kept, List.filter_cons_of_pos kept, whole']
        -- Both cut the sorted rest where `row` belongs.
        have larger : ∀ other ∈ back, le row other := by
          have sorted := List.pairwise_mergeSort trans total (row :: rest)
          rw [whole, List.pairwise_append, List.pairwise_cons] at sorted
          exact sorted.2.1.1
        have larger' : ∀ other ∈ back', le row other := by
          have sorted :=
            List.pairwise_mergeSort trans total (row :: rest.filter keep)
          rw [whole', List.pairwise_append, List.pairwise_cons] at sorted
          exact sorted.2.1.1
        have same : front.filter keep ++ back.filter keep = front' ++ back' :=
          ih.trans parts'
        have cut {first last : List Row}
          (small : ∀ other ∈ first, !le row other)
            (large : ∀ other ∈ last, le row other) :
            (first ++ last).takeWhile (fun other => !le row other) = first ∧
              (first ++ last).dropWhile (fun other => !le row other) =
                last := by
          rw [List.takeWhile_append_of_pos small,
            List.dropWhile_append_of_pos small]
          cases last with
          | nil => simp
          | cons other others =>
              have large_other := large other List.mem_cons_self
              simp [large_other]
        obtain ⟨takes, drops⟩ := cut
          (fun other member => smaller other (List.mem_of_mem_filter member))
          (fun other member => larger other (List.mem_of_mem_filter member))
        obtain ⟨takes', drops'⟩ := cut smaller' larger'
        have fronts : front.filter keep = front' := by
          rw [← takes, same, takes']
        have backs : back.filter keep = back' := by rw [← drops, same, drops']
        rw [fronts, backs]
      · rw [List.filter_cons_of_neg kept, List.filter_cons_of_neg kept, ih]

end CloudStudio.Data.Sweeps
