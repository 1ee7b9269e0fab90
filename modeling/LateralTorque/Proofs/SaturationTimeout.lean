import Mathlib
import LateralTorque.Saturation
import LateralTorque.Proofs.Exact
import LateralTorque.Proofs.Restart

/-!
# The saturation timeout

The monitor counts saturated cycles up and all others down, between zero and its limit: a walk that
is held at both ends.  In exact arithmetic it is tied to what it counted from both sides.  Being
held at the limit never raises the count, so that some of the latest cycles account for all of it;
and being held at zero never lowers it, so that a stretch of counted cycles is counted in full.

The cycles and resets are any; the limit is larger than the margin of the timeout, and the period is
positive.

* `count_takeIn` — one step of the walk;
* `le_count_of_counted` — a stretch of counted cycles is counted up to the limit;
* `exists_latest_of_count` — some latest cycles account for the count;
* `timeout_sound_and_complete` — when the monitor times out.

In double precision the sums of periods are rounded, so that a timeout may come a cycle earlier or
later.  That is left out.
-/

set_option autoImplicit false

namespace LateralTorque

/-- What the monitor is told about a cycle. -/
structure MonitoredCycle (α : Type) where
  saturated : Bool
  speed : α
  steerLimited : Bool
  steeringPressed : Bool

/-- Whether a cycle counts towards the timeout. -/
def MonitoredCycle.counted {α : Type} [Scalar α] (c : MonitoredCycle α) : Bool :=
  SaturationMonitor.counts c.saturated c.speed c.steerLimited c.steeringPressed

theorem MonitoredCycle.counted_iff {c : MonitoredCycle ℝ} :
    c.counted = true ↔ c.saturated = true ∧ 10 < c.speed ∧ c.steerLimited = false ∧
      c.steeringPressed = false := by
  have hspeed : (SaturationMonitor.minSpeed : ℝ) = 10 := by norm_num [SaturationMonitor.minSpeed]
  simp [counted, SaturationMonitor.counts, hspeed, and_assoc]

namespace SaturationMonitor

section Runs

variable {α : Type} [Scalar α]

/-- The monitor after a cycle. -/
def takeIn (m : SaturationMonitor α) (c : MonitoredCycle α) : SaturationMonitor α :=
  m.update c.counted

/-- The monitor after a list of cycles. -/
def takeAll (m : SaturationMonitor α) (cycles : List (MonitoredCycle α)) : SaturationMonitor α :=
  cycles.foldl takeIn m

/-- The monitor after cycles and resets. -/
def after (m : SaturationMonitor α) (operations : List (Operation (MonitoredCycle α))) :
    SaturationMonitor α :=
  operations.foldl (Operation.apply takeIn reset) m

variable (m : SaturationMonitor α) (cycles : List (MonitoredCycle α))

theorem takeAll_concat (c : MonitoredCycle α) :
    m.takeAll (cycles ++ [c]) = (m.takeAll cycles).takeIn c := by
  simp [takeAll]

@[simp] theorem limit_takeIn (c : MonitoredCycle α) : (m.takeIn c).limit = m.limit := rfl

@[simp] theorem period_takeIn (c : MonitoredCycle α) : (m.takeIn c).period = m.period := rfl

theorem constants_takeAll :
    (m.takeAll cycles).limit = m.limit ∧ (m.takeAll cycles).period = m.period := by
  induction cycles using List.reverseRecOn with
  | nil => exact ⟨rfl, rfl⟩
  | append_singleton earlier c ih =>
    rw [takeAll_concat, limit_takeIn, period_takeIn]
    exact ih

/-- A reset puts a monitor back at its start. -/
theorem after_create (limit period : α) (operations : List (Operation (MonitoredCycle α))) :
    (create limit period).after operations
      = (create limit period).takeAll (Operation.recent operations) := by
  apply Operation.foldl_apply_eq
  · intro before taken
    rfl
  · rfl

end Runs

/-! ## The walk -/

variable {m : SaturationMonitor ℝ}

/-- **One step of the walk**, held at zero and at the limit. -/
theorem count_takeIn (m : SaturationMonitor ℝ) (c : MonitoredCycle ℝ) :
    (m.takeIn c).count
      = max 0 (min m.limit (if c.counted then m.count + m.period else m.count - m.period)) :=
  Exact.clamp_eq _ _ _

theorem count_takeIn_mem (hlimit : 0 ≤ m.limit) (c : MonitoredCycle ℝ) :
    (m.takeIn c).count ∈ Set.Icc 0 m.limit := by
  rw [count_takeIn]
  exact ⟨le_max_left _ _, max_le hlimit (min_le_left _ _)⟩

theorem count_takeAll_mem (hlimit : 0 ≤ m.limit) (hcount : m.count ∈ Set.Icc 0 m.limit)
    (cycles : List (MonitoredCycle ℝ)) : (m.takeAll cycles).count ∈ Set.Icc 0 m.limit := by
  induction cycles using List.reverseRecOn with
  | nil => exact hcount
  | append_singleton earlier c ih =>
    have hkept := (m.constants_takeAll earlier).1
    rw [takeAll_concat, ← hkept]
    exact count_takeIn_mem (hkept ▸ hlimit) c

/-- **A stretch of counted cycles** is counted in full, up to the limit. -/
theorem le_count_of_counted (hperiod : 0 < m.period) (hcount : 0 ≤ m.count)
    {latest : List (MonitoredCycle ℝ)} (hcounted : ∀ c ∈ latest, c.counted = true) :
    min m.limit (latest.length * m.period) ≤ (m.takeAll latest).count := by
  induction latest using List.reverseRecOn with
  | nil =>
    simp only [List.length_nil, Nat.cast_zero, zero_mul]
    exact (min_le_right _ _).trans hcount
  | append_singleton earlier c ih =>
    rw [List.forall_mem_append, List.forall_mem_singleton] at hcounted
    obtain ⟨hlimit, hkept⟩ := m.constants_takeAll earlier
    have hearlier := ih hcounted.1
    rw [takeAll_concat, count_takeIn, hcounted.2, hlimit, hkept, if_pos rfl]
    refine le_max_of_le_right (le_min (min_le_left _ _) ?_)
    rw [List.length_append, List.length_singleton, Nat.cast_add, Nat.cast_one, add_one_mul]
    rcases min_le_iff.mp hearlier with hfull | hpartly
    · exact (min_le_left _ _).trans (hfull.trans (le_add_of_nonneg_right hperiod.le))
    · exact (min_le_right _ _).trans (add_le_add_left hpartly _)

/-- Counted cycles less the others. -/
noncomputable def surplus (cycles : List (MonitoredCycle ℝ)) : ℝ :=
  cycles.countP (·.counted) - cycles.countP (fun c => !c.counted)

theorem surplus_concat (cycles : List (MonitoredCycle ℝ)) (c : MonitoredCycle ℝ) :
    surplus (cycles ++ [c]) = surplus cycles + if c.counted then 1 else -1 := by
  unfold surplus
  cases hcounted : c.counted with
  | true =>
    simp [List.countP_append, hcounted]
    ring
  | false =>
    simp [List.countP_append, hcounted]
    ring

/-- **Some latest cycles account for the count**: none of them where it is held at zero, and one
more wherever it moves. -/
theorem exists_latest_of_count (hcount : m.count ≤ 0) (cycles : List (MonitoredCycle ℝ)) :
    ∃ latest, latest <:+ cycles ∧ (m.takeAll cycles).count ≤ surplus latest * m.period := by
  induction cycles using List.reverseRecOn with
  | nil =>
    refine ⟨[], List.suffix_rfl, ?_⟩
    simpa [surplus, takeAll] using hcount
  | append_singleton earlier c ih =>
    obtain ⟨latest, ⟨before, hsplit⟩, hle⟩ := ih
    obtain ⟨-, hkept⟩ := m.constants_takeAll earlier
    rw [takeAll_concat, count_takeIn, hkept]
    rcases max_choice 0 (min (m.takeAll earlier).limit
      (if c.counted then (m.takeAll earlier).count + m.period
        else (m.takeAll earlier).count - m.period)) with hzero | hmoves
    · refine ⟨[], List.nil_suffix, ?_⟩
      rw [hzero]
      simp [surplus]
    · refine ⟨latest ++ [c], ⟨before, by rw [← List.append_assoc, hsplit]⟩, ?_⟩
      rw [hmoves, surplus_concat]
      refine (min_le_right _ _).trans ?_
      split <;> linarith

/-! ## The timeout -/

theorem timedOut_iff (m : SaturationMonitor ℝ) : m.timedOut = true ↔ m.limit - 0.001 < m.count := by
  have hmargin : (saturationMargin : ℝ) = 0.001 := by norm_num [saturationMargin]
  rw [timedOut, hmargin, decide_eq_true_iff]

/-- Counted cycles for longer than the limit less the margin end in a timeout. -/
theorem timedOut_of_counted (hperiod : 0 < m.period) (hcount : m.count ∈ Set.Icc 0 m.limit)
    {cycles latest : List (MonitoredCycle ℝ)} (hlatest : latest <:+ cycles)
    (hcounted : ∀ c ∈ latest, c.counted = true)
    (hlong : m.limit - 0.001 < latest.length * m.period) : (m.takeAll cycles).timedOut = true := by
  obtain ⟨before, rfl⟩ := hlatest
  have hsplit : m.takeAll (before ++ latest) = (m.takeAll before).takeAll latest :=
    List.foldl_append
  obtain ⟨hlimit, hkept⟩ := m.constants_takeAll before
  have hbefore := count_takeAll_mem (hcount.1.trans hcount.2) hcount before
  have hstretch := le_count_of_counted (hkept ▸ hperiod) hbefore.1 hcounted
  rw [timedOut_iff, (m.constants_takeAll _).1, hsplit]
  rw [hlimit, hkept] at hstretch
  exact (lt_min (sub_lt_self m.limit (by norm_num)) hlong).trans_le hstretch

/-- A cycle that is not counted ends below the limit, by its whole time or at zero. -/
theorem not_timedOut_of_not_counted (hmargin : 0.001 < m.limit) (hperiod : 0.001 ≤ m.period)
    (hcount : m.count ≤ m.limit) {c : MonitoredCycle ℝ} (hc : c.counted = false) :
    (m.takeIn c).timedOut = false := by
  rw [← Bool.not_eq_true, timedOut_iff, not_lt, count_takeIn, hc, limit_takeIn]
  apply max_le (sub_nonneg.mpr hmargin.le)
  refine (min_le_right _ _).trans ?_
  simp only [Bool.false_eq_true, if_false]
  exact sub_le_sub hcount hperiod

/-- **The timeout is sound and complete.**  After any cycles and resets the count lies between zero
and the limit.  Where the latest cycles since the last reset were all counted, for longer than the
limit less its margin, the monitor has timed out; and where it has timed out, the counted ones among
some latest cycles outweigh the others by as much.  A cycle that is not counted never ends in a
timeout, unless it is shorter than the margin. -/
theorem timeout_sound_and_complete {limit period : ℝ} (hlimit : 0.001 < limit) (hperiod : 0 < period)
    (operations : List (Operation (MonitoredCycle ℝ))) :
    let m := (create limit period).after operations
    let cycles := Operation.recent operations
    (∀ c : MonitoredCycle ℝ, c.counted = true ↔ c.saturated = true ∧ 10 < c.speed ∧
      c.steerLimited = false ∧ c.steeringPressed = false) ∧
    m.count ∈ Set.Icc 0 limit ∧
    (∀ latest, latest <:+ cycles → (∀ c ∈ latest, c.counted = true) →
      limit - 0.001 < latest.length * period → m.timedOut = true) ∧
    (m.timedOut = true → ∃ latest, latest <:+ cycles ∧ limit - 0.001 <
      ((latest.countP (·.counted) : ℝ) - latest.countP (fun c => !c.counted)) * period) ∧
    (0.001 ≤ period → ∀ c : MonitoredCycle ℝ, c.counted = false →
      (m.takeIn c).timedOut = false) := by
  intro m cycles
  have hm : m = (create limit period).takeAll cycles := after_create limit period operations
  obtain ⟨hmlimit, hmperiod⟩ : m.limit = limit ∧ m.period = period := by
    rw [hm]
    exact (create limit period).constants_takeAll cycles
  have hpositive : 0 ≤ limit := le_trans (by norm_num) hlimit.le
  have hstart : (create limit period).count ∈ Set.Icc 0 limit := ⟨le_rfl, hpositive⟩
  have hcount : m.count ∈ Set.Icc 0 limit := by
    rw [hm]
    exact count_takeAll_mem hpositive hstart cycles
  refine ⟨fun c => MonitoredCycle.counted_iff, hcount, ?_, ?_, ?_⟩
  · intro latest hlatest hcounted hlong
    rw [hm]
    exact timedOut_of_counted hperiod hstart hlatest hcounted hlong
  · intro htimedOut
    rw [timedOut_iff, hmlimit] at htimedOut
    obtain ⟨latest, hlatest, hle⟩ := exists_latest_of_count (m := create limit period) le_rfl cycles
    rw [← hm] at hle
    exact ⟨latest, hlatest, htimedOut.trans_le hle⟩
  · intro hlong c hc
    apply not_timedOut_of_not_counted _ _ _ hc
    · rwa [hmlimit]
    · rwa [hmperiod]
    · rw [hmlimit]
      exact hcount.2

/-- With a limit of a tenth of a second at 100 cycles per second: ten saturated cycles after a reset
end in a timeout, which is over as soon as the driver steers. -/
theorem timeout_after_ten_cycles :
    let counted : MonitoredCycle ℝ := ⟨true, 20, false, false⟩
    let driverSteers : MonitoredCycle ℝ := ⟨true, 20, false, true⟩
    let m := (create 0.1 0.01).after
      ([.take counted, .take driverSteers, .reset] ++ List.replicate 10 (.take counted))
    (0.001 : ℝ) < 0.1 ∧ (0 : ℝ) < 0.01 ∧ m.timedOut = true ∧
      (m.takeIn driverSteers).timedOut = false := by
  intro counted driverSteers m
  have hlimit : (0.001 : ℝ) < 0.1 := by norm_num
  have hperiod : (0 : ℝ) < 0.01 := by norm_num
  obtain ⟨hrule, -, hcomplete, -, hover⟩ := timeout_sound_and_complete hlimit hperiod
    ([.take counted, .take driverSteers, .reset] ++ List.replicate 10 (.take counted))
  refine ⟨hlimit, hperiod, ?_, ?_⟩
  · refine hcomplete (List.replicate 10 counted) List.suffix_rfl (fun c hc => ?_) (by norm_num)
    rw [List.eq_of_mem_replicate hc, hrule]
    norm_num [counted]
  · refine hover (by norm_num) driverSteers ?_
    rw [← Bool.not_eq_true, hrule]
    simp [driverSteers]

end SaturationMonitor

end LateralTorque
