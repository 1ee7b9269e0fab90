import Mathlib
import LateralTorque.History

/-!
# Histories against the samples pushed

A history of `n` slots remembers the last `n` of the samples ever pushed.  The relation `Records`
ties the slots to the whole list of samples, so that nothing that reads a history has to look at the
circle of slots.

* `records_empty`, `Records.push` — every history records what was pushed;
* `Records.get?_eq`, `Records.getOrNewest?_eq` — reading it is reading the last `n` samples.

The samples may be of any type, and a history takes them in if it has a slot at all.
-/

set_option autoImplicit false

namespace LateralTorque.History

variable {α : Type} {capacity : Nat}

/-- A history into which samples were pushed, oldest first: it has counted them, and each of the
last ones is in its slot. -/
structure Records (h : History α capacity) (samples : List α) : Prop where
  pushed : h.pushed = samples.length
  slot : ∀ k < samples.length, samples.length ≤ k + capacity →
    h.slots[k % capacity]? = samples[k]?

theorem records_empty [Zero α] : (empty : History α capacity).Records [] where
  pushed := rfl
  slot k hk _ := absurd hk (Nat.not_lt_zero k)

/-- Numbers less than a turn of the circle apart have different slots. -/
theorem mod_ne_mod {k n : Nat} (hlt : k < n) (hturn : n < k + capacity) :
    k % capacity ≠ n % capacity := by
  intro hsame
  have hdvd : capacity ∣ n - k := (Nat.modEq_iff_dvd' hlt.le).mp hsame
  have hle := Nat.le_of_dvd (by omega) hdvd
  omega

theorem Records.push {h : History α capacity} {samples : List α} (hr : h.Records samples)
    (hcapacity : 0 < capacity) (sample : α) : (h.push sample).Records (samples ++ [sample]) := by
  refine ⟨by simp [History.push, hr.pushed], fun k hk hlast => ?_⟩
  rw [List.length_append, List.length_singleton] at hk hlast
  have hwritten : (h.push sample).slots[k % capacity]? =
      if samples.length % capacity = k % capacity then some sample
      else h.slots[k % capacity]? := by
    rw [History.push, hr.pushed]
    dsimp only
    rw [Vector.getElem?_setIfInBounds, if_pos (Nat.mod_lt _ hcapacity)]
  rw [hwritten]
  by_cases hnewest : k = samples.length
  · subst hnewest
    simp
  · -- An older sample among the last ones keeps its slot, which is not the one written.
    have hold : k < samples.length := by omega
    rw [if_neg (mod_ne_mod hold (by omega)).symm, hr.slot k hold (by omega),
      List.getElem?_append_left hold]

variable {h : History α capacity} {samples : List α}

theorem Records.size_eq (hr : h.Records samples) : h.size = (samples.rtake capacity).length := by
  rw [size, hr.pushed, List.rtake_eq_reverse_take_reverse]
  simp [Nat.min_comm]

/-- Reading a history is reading the last samples. -/
theorem Records.get?_eq (hr : h.Records samples) (index : Nat) :
    h.get? index = (samples.rtake capacity)[index]? := by
  have hsize := hr.size_eq
  unfold get?
  split
  · rename_i hindex
    have hnumber : samples.length - capacity + index < samples.length := by
      rw [size, hr.pushed] at hindex
      omega
    have hslot : (h.start + index) % capacity
        = (samples.length - capacity + index) % capacity := by
      rw [start, hr.pushed]
      split
      · rename_i hfull
        rw [Nat.mod_add_mod]
        conv_lhs => rw [← Nat.sub_add_cancel hfull.le, Nat.add_right_comm, Nat.add_mod_right]
      · rename_i hpartial
        rw [Nat.sub_eq_zero_of_le (not_lt.mp hpartial)]
    rw [hslot, hr.slot _ hnumber (by omega), List.rtake, List.getElem?_drop]
  · rename_i hindex
    rw [List.getElem?_eq_none (by omega)]

/-- Beyond the end it is reading the newest one. -/
theorem Records.getOrNewest?_eq (hr : h.Records samples) (hne : samples ≠ []) (index : Nat) :
    h.getOrNewest? index =
      (samples.rtake capacity)[min index ((samples.rtake capacity).length - 1)]? := by
  have hsome : h.isEmpty = false := by
    simp [isEmpty, hr.pushed, hne]
  rw [getOrNewest?, hsome, if_neg (by decide), hr.get?_eq, hr.size_eq]

end LateralTorque.History
