import LateralTorque.Proofs.History

/-!
# A history is a bounded queue

Read oldest first, a history of `n` slots is the list of the last `n` samples: a queue that takes
the newest sample at its end and, once it is full, drops the oldest one for it.  That holds of a
circle that is not full yet, of one that is just full, and of one that was gone round any number of
times.

The samples are values of any type, and the capacity is any but zero.  Samples are counted without
bound; a counter of 64 bits agrees with that below `2 ^ 64` pushes, and what it does beyond them is
left out.

* `records_pushes` — a history made by pushes records them;
* `Records.toList_eq`, `Records.toList_push` — its list, and what a push does to it;
* `queue_of_pushes` — every way to read a history reads that list: its size, the sample in a place,
  the sample in a place or else the newest, and the list as a whole.
-/

set_option autoImplicit false

namespace LateralTorque.History

variable {α : Type} {capacity : Nat}

/-! ## Lists -/

/-- Reading a list entry by entry gives the list. -/
theorem filterMap_getElem?_range (xs : List α) :
    (List.range xs.length).filterMap (fun i => xs[i]?) = xs := by
  induction xs with
  | nil => rfl
  | cons x rest ih =>
    have hfirst : (x :: rest)[0]? = some x := rfl
    rw [List.length_cons, List.range_succ_eq_map, List.filterMap_cons, hfirst, List.filterMap_map]
    exact congrArg (x :: ·) ih

/-- With one more entry at the end, the oldest of the last ones is dropped if there are as many as
there is room for. -/
theorem rtake_concat (hcapacity : 0 < capacity) (xs : List α) (x : α) :
    (xs ++ [x]).rtake capacity =
      (if (xs.rtake capacity).length = capacity then (xs.rtake capacity).tail
        else xs.rtake capacity) ++ [x] := by
  obtain ⟨room, rfl⟩ := Nat.exists_eq_succ_of_ne_zero hcapacity.ne'
  rw [Nat.succ_eq_add_one, List.rtake_concat_succ]
  congr 1
  simp only [List.rtake, List.length_drop, List.tail_drop]
  split <;>
  · congr 1
    omega

/-! ## The queue -/

theorem records_pushes [Zero α] (hcapacity : 0 < capacity) (samples : List α) :
    (samples.foldl push (empty : History α capacity)).Records samples := by
  induction samples using List.reverseRecOn with
  | nil => exact records_empty
  | append_singleton before sample ih =>
    rw [List.foldl_concat]
    exact ih.push hcapacity sample

variable {h : History α capacity} {samples : List α}

/-- Read oldest first, a history is the list of the last samples. -/
theorem Records.toList_eq (hr : h.Records samples) : h.toList = samples.rtake capacity := by
  have hread : h.get? = fun index => (samples.rtake capacity)[index]? := funext hr.get?_eq
  rw [toList, hr.size_eq, hread, filterMap_getElem?_range]

/-- A push on a full history drops the oldest sample, and no push drops another one. -/
theorem Records.toList_push (hr : h.Records samples) (hcapacity : 0 < capacity) (sample : α) :
    (h.push sample).toList
      = (if h.size = capacity then h.toList.tail else h.toList) ++ [sample] := by
  rw [(hr.push hcapacity sample).toList_eq, hr.size_eq, hr.toList_eq]
  exact rtake_concat hcapacity samples sample

theorem length_rtake (samples : List α) (n : Nat) :
    (samples.rtake n).length = min samples.length n := by
  rw [List.rtake, List.length_drop]
  omega

/-- Nothing is read beyond the newest sample only where there is no sample. -/
theorem Records.getOrNewest?_eq_none_iff (hr : h.Records samples) (hcapacity : 0 < capacity)
    (index : Nat) : h.getOrNewest? index = none ↔ samples = [] := by
  constructor
  · intro hnone
    by_contra hne
    have hpos : 0 < samples.length := List.length_pos_iff.mpr hne
    rw [hr.getOrNewest?_eq hne, List.getElem?_eq_none_iff, length_rtake] at hnone
    omega
  · rintro rfl
    have hempty : h.isEmpty = true := by simp [isEmpty, hr.pushed]
    rw [getOrNewest?, hempty, if_pos rfl]

/-- **A history is a queue of the last samples.**  After any pushes, every way to read it reads the
list of as many of the last samples as there are slots, oldest first; and a further push adds its
sample at the end and drops the oldest one exactly where the slots are all taken. -/
theorem queue_of_pushes [Zero α] (hcapacity : 0 < capacity) (samples : List α) :
    let h : History α capacity := samples.foldl push empty
    let queue := samples.rtake capacity
    h.pushed = samples.length ∧
      queue.length = min samples.length capacity ∧
      h.toList = queue ∧
      h.size = queue.length ∧
      (∀ i, h.get? i = queue[i]?) ∧
      (∀ i, h.getOrNewest? i = queue[min i (queue.length - 1)]?) ∧
      (∀ i, h.getOrNewest? i = none ↔ samples = []) ∧
      ∀ sample, (h.push sample).toList
        = (if h.size = capacity then queue.tail else queue) ++ [sample] := by
  intro h queue
  have hr : h.Records samples := records_pushes hcapacity samples
  refine ⟨hr.pushed, length_rtake samples capacity, hr.toList_eq, hr.size_eq, hr.get?_eq,
    fun i => ?_, hr.getOrNewest?_eq_none_iff hcapacity, fun sample => ?_⟩
  · by_cases hne : samples = []
    · have hnone := (hr.getOrNewest?_eq_none_iff hcapacity i).mpr hne
      rw [hnone]
      simp [queue, hne]
    · exact hr.getOrNewest?_eq hne i
  · rw [hr.toList_push hcapacity, hr.toList_eq]

/-- A circle of three slots, gone round once and two slots further. -/
theorem queue_of_five_pushes :
    let h : History Float 3 := [1.0, 2.0, 3.0, 4.0, 5.0].foldl push empty
    0 < 3 ∧ h.toList = [3.0, 4.0, 5.0] ∧ h.get? 3 = none ∧ h.getOrNewest? 7 = some 5.0 ∧
      (h.push 6.0).toList = [4.0, 5.0, 6.0] := by
  intro h
  have hcapacity : 0 < 3 := by decide
  obtain ⟨-, -, hlist, -, hget, hnewest, -, hpush⟩ :=
    queue_of_pushes hcapacity [(1.0 : Float), 2.0, 3.0, 4.0, 5.0]
  exact ⟨hcapacity, hlist, hget 3, hnewest 7, hpush 6.0⟩

end LateralTorque.History
