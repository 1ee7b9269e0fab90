import LateralTorque.Proofs.Curve
import LateralTorque.Proofs.Run

/-!
# The integrator does not wind up

In exact arithmetic, with integral gains that are not negative, the integrator of a controller moves
only in cycles that reach the PID controller and do not freeze it, and never drives an output that
is beyond a limit further out, unless it comes back towards zero by that.  So the other terms alone
say how large it can get.

The results are about every run of a controller that was accepted, with any models and any source of
tuning; inputs are real numbers, so that no error is NaN.

* `Pid.Governed` — what the parameters make sure of: limits on both sides of zero, time between two
  updates, and no negative integral gain;
* `Pid.Governed.update_rises`, `Pid.Governed.update_falls` — where the integrator moves;
* `Pid.Governed.abs_update_le` — an update keeps to the limit and a bound of the other terms;
* `obey_pid` — what a command does to the PID controller;
* `integrator_disciplined` — the integrator over every run.

The check of the parameters lets negative gains pass, which is why their sign is a hypothesis.  The
bound is one of the terms before they are limited: an error without bound gives none.
-/

set_option autoImplicit false

namespace LateralTorque

/-- The integrator runs freely where neither host nor driver is in the way and the vehicle is not too
slow. -/
theorem CycleInput.freezesIntegrator_eq_false_iff {input : CycleInput ℝ} :
    input.freezesIntegrator = false ↔ input.steerLimited = false ∧
      input.vehicle.steeringPressed = false ∧ 1 / 2 ≤ input.vehicle.speed := by
  have hspeed : (freezeSpeed : ℝ) = 1 / 2 := by norm_num [freezeSpeed]
  simp [freezesIntegrator, hspeed, and_assoc]

/-! ## One update -/

namespace Pid

/-- A PID controller that works as the integrator needs it: limits at the same distance on both
sides of zero, time between the updates, and no negative integral gain. -/
structure Governed (limit : ℝ) (c : Pid ℝ) : Prop where
  upper : c.upperLimit = limit
  lower : c.lowerLimit = -limit
  period : 0 < c.period
  integralGain : ∀ gain ∈ c.integralGain.gains, 0 ≤ gain

variable {limit : ℝ} {c : Pid ℝ}

theorem Governed.update (h : Governed limit c) (error feedforward speed : ℝ) (freeze : Bool) :
    Governed limit (c.update error feedforward speed freeze) :=
  ⟨h.upper, h.lower, h.period, h.integralGain⟩

theorem Governed.reset (h : Governed limit c) : Governed limit c.reset :=
  ⟨h.upper, h.lower, h.period, h.integralGain⟩

theorem reset_sum (c : Pid ℝ) : c.reset.p + c.reset.i + c.reset.d + c.reset.f = 0 := by
  simp [Pid.reset]

/-- An integrator that moves is not frozen and goes where it may go. -/
theorem update_moves {error feedforward speed : ℝ} {freeze : Bool}
    (hmoves : (c.update error feedforward speed freeze).i ≠ c.i) :
    let next := c.update error feedforward speed freeze
    freeze = false ∧ next.i = c.candidate error speed ∧
      c.mayIntegrate error next.i (next.p + next.i + next.d + next.f) = true := by
  unfold update at hmoves ⊢
  dsimp only at hmoves ⊢
  split at hmoves
  · rename_i hgoes
    rw [Bool.and_eq_true, Bool.not_eq_true'] at hgoes
    rw [hgoes.1, hgoes.2]
    exact ⟨rfl, rfl, hgoes.1⟩
  · exact absurd rfl hmoves

theorem Governed.candidate_mono (h : Governed limit c) {error error' : ℝ} (hle : error ≤ error')
    (speed : ℝ) : c.candidate error speed ≤ c.candidate error' speed := by
  have hgain := GainSchedule.value_nonneg h.integralGain speed
  unfold candidate
  gcongr
  exact h.period.le

theorem candidate_zero (c : Pid ℝ) (speed : ℝ) : c.candidate 0 speed = c.i := by
  simp [candidate]

/-- The integrator rises only where the output with it is within the upper limit, or towards
zero. -/
theorem Governed.update_rises (h : Governed limit c) (error feedforward speed : ℝ) (freeze : Bool) :
    let next := c.update error feedforward speed freeze
    c.i < next.i → next.p + next.i + next.d + next.f ≤ limit ∨ next.i < 0 := by
  intro next hrises
  obtain ⟨-, hcandidate, hmay⟩ := update_moves hrises.ne'
  have hpos : 0 < error := by
    by_contra hneg
    have hle := h.candidate_mono (not_lt.mp hneg) speed
    rw [candidate_zero] at hle
    exact absurd (hcandidate ▸ hle) (not_le.mpr hrises)
  simpa [mayIntegrate, hpos.le, hpos.not_ge, h.upper] using hmay

/-- The integrator falls only where the output with it is within the lower limit, or towards
zero. -/
theorem Governed.update_falls (h : Governed limit c) (error feedforward speed : ℝ) (freeze : Bool) :
    let next := c.update error feedforward speed freeze
    next.i < c.i → -limit ≤ next.p + next.i + next.d + next.f ∨ 0 < next.i := by
  intro next hfalls
  obtain ⟨-, hcandidate, hmay⟩ := update_moves hfalls.ne
  have hneg : error < 0 := by
    by_contra hpos
    have hle := h.candidate_mono (not_lt.mp hpos) speed
    rw [candidate_zero] at hle
    exact absurd (hcandidate ▸ hle) (not_le.mpr hfalls)
  simpa [mayIntegrate, hneg.le, hneg.not_ge, h.lower] using hmay

/-- Where the other terms of an update are bounded, the integrator does not get beyond the limit and
the bound. -/
theorem Governed.abs_update_le (h : Governed limit c) {bound : ℝ} (hi : |c.i| ≤ limit + bound)
    (error feedforward speed : ℝ) (freeze : Bool) :
    let next := c.update error feedforward speed freeze
    |next.p + next.d + next.f| ≤ bound → |next.i| ≤ limit + bound := by
  intro next hterms
  have hroom : 0 ≤ limit + bound := (abs_nonneg _).trans hi
  rw [abs_le] at hi hterms ⊢
  rcases lt_trichotomy c.i next.i with hrises | hstays | hfalls
  · refine ⟨hi.1.trans hrises.le, ?_⟩
    rcases h.update_rises error feedforward speed freeze hrises with hwithin | hnegative
    · linarith only [hwithin, hterms.1]
    · exact hnegative.le.trans hroom
  · exact hstays ▸ hi
  · refine ⟨?_, hfalls.le.trans hi.2⟩
    rcases h.update_falls error feedforward speed freeze hfalls with hwithin | hpositive
    · linarith only [hwithin, hterms.2]
    · exact (neg_nonpos.mpr hroom).trans hpositive.le

end Pid

/-! ## Runs -/

namespace Controller

/-- A command leaves the PID controller as it is, resets it, or updates it in a cycle that reaches
it. -/
theorem obey_pid {α : Type} [Scalar α] (c : Controller α) (command : Command α) :
    (c.obey command).pid = c.pid ∨
      (command = .reset ∧ (c.obey command).pid = c.pid.reset) ∨
      ∃ input error feedforward, command = .cycle input ∧ (c.step input).1.report.driven = true ∧
        (c.step input).1.pid =
          c.pid.update error feedforward input.vehicle.speed input.freezesIntegrator := by
  cases command with
  | reset => exact .inr (.inl ⟨rfl, rfl⟩)
  | retune factor offset friction =>
    rw [obey_retune_eq]
    exact .inl rfl
  | supply source => exact .inl rfl
  | cycle input =>
    rcases c.step_cases input with ⟨_, hs⟩ | ⟨_, _, hs⟩ | ⟨_, torques, _, _, hs⟩
    · exact .inl (by rw [obey, hs, openCycle_pid])
    · exact .inl (by rw [obey, hs, ← c.openCycle_pid]; rfl)
    · refine .inr (.inr ⟨input, torques.error, torques.feedforward, rfl, ?_, ?_⟩)
      · rw [hs]
        rfl
      · rw [hs, ← c.openCycle_pid]
        rfl

variable {limit : ℝ} {c : Controller ℝ}

theorem governed_obey (h : c.pid.Governed limit) (command : Command ℝ) :
    (c.obey command).pid.Governed limit := by
  rcases c.obey_pid command with hsame | ⟨_, hreset⟩ | ⟨input, error, feedforward, rfl, _, hupdate⟩
  · rw [hsame]
    exact h
  · rw [hreset]
    exact h.reset
  · rw [obey, hupdate]
    exact h.update _ _ _ _

/-- The integrator of a new controller is at zero, and the limit of the output limits it. -/
theorem governed_of_create {params : Params ℝ} {capabilities : Capabilities ℝ}
    {c₀ : Controller ℝ} (h : create params capabilities = .ok c₀)
    (hgain : ∀ gain ∈ params.integralGain.gains, 0 ≤ gain) :
    0 < params.steerMax ∧ c₀.pid.Governed params.steerMax ∧ c₀.pid.i = 0 := by
  obtain ⟨hvalid, -, rfl⟩ := create_eq_ok_iff.mp h
  obtain ⟨hmax, hrate, -⟩ := Params.validate_eq_ok_iff.mp hvalid
  exact ⟨hmax, ⟨rfl, rfl, one_div_pos.mpr hrate, hgain⟩, rfl⟩

/-- Where the other terms are bounded in every cycle of a run that reaches the PID controller, the
integrator does not get beyond the limit and the bound. -/
theorem abs_run_le {bound : ℝ} (h : c.pid.Governed limit) (hi : |c.pid.i| ≤ limit + bound)
    {commands : List (Command ℝ)}
    (hterms : ∀ d ∈ c.cycles commands, d.report.driven = true →
      |d.pid.p + d.pid.d + d.pid.f| ≤ bound) :
    |(c.run commands).pid.i| ≤ limit + bound := by
  refine (run_induction_of_cycles
    (P := fun d => d.pid.Governed limit ∧ |d.pid.i| ≤ limit + bound) ?_ ⟨h, hi⟩ hterms).2
  rintro d command ⟨hgoverned, hheld⟩ hcycle
  refine ⟨governed_obey hgoverned command, ?_⟩
  rcases d.obey_pid command with hsame | ⟨_, hreset⟩ | ⟨input, error, feedforward, rfl, hdriven, hs⟩
  · rwa [hsame]
  · rw [hreset]
    exact abs_zero.trans_le ((abs_nonneg _).trans hheld)
  · have hother := hcycle rfl hdriven
    rw [obey, hs] at hother ⊢
    exact hgoverned.abs_update_le hheld _ _ _ _ hother

/-- Without a cycle that reaches the PID controller the integrator stays at zero. -/
theorem integral_run_of_undriven {α : Type} [Scalar α] {c : Controller α} (h : c.pid.i = 0)
    {commands : List (Command α)} (hnone : ∀ d ∈ c.cycles commands, d.report.driven = false) :
    (c.run commands).pid.i = 0 := by
  refine run_induction_of_cycles (P := fun d => d.pid.i = 0) ?_ h hnone
  intro d command hzero hcycle
  rcases d.obey_pid command with hsame | ⟨_, hreset⟩ | ⟨input, _, _, rfl, hdriven, _⟩
  · rwa [hsame]
  · rw [hreset]
    rfl
  · exact absurd ((hcycle rfl).symm.trans hdriven) (by decide)

/-- **The integrator does not wind up.**  At the end of any run it moves only with a reset, or in a
cycle that is active and without fault, in which the host does not limit the actuator, the driver
does not steer and the vehicle is not slower than half a metre per second.  It rises and falls only
where that keeps the output within the limit on that side, or goes towards zero.  Where a bound holds
the other terms in every cycle that reached the PID controller, the limit and the bound together hold
the integrator; without such a cycle it is at zero. -/
theorem integrator_disciplined {params : Params ℝ} {capabilities : Capabilities ℝ}
    {c₀ : Controller ℝ} (h : create params capabilities = .ok c₀)
    (hgain : ∀ gain ∈ params.integralGain.gains, 0 ≤ gain) (commands : List (Command ℝ)) :
    let c := c₀.run commands
    (∀ command, (c.obey command).pid.i ≠ c.pid.i → command = .reset ∨
      ∃ input, command = .cycle input ∧ input.active = true ∧
        (c.step input).1.report.modelFault = false ∧ input.steerLimited = false ∧
        input.vehicle.steeringPressed = false ∧ 1 / 2 ≤ input.vehicle.speed) ∧
    (∀ command, let next := (c.obey command).pid
      (c.pid.i < next.i → next.p + next.i + next.d + next.f ≤ params.steerMax ∨ next.i < 0) ∧
      (next.i < c.pid.i → -params.steerMax ≤ next.p + next.i + next.d + next.f ∨ 0 < next.i)) ∧
    ∀ bound, (∀ d ∈ c₀.cycles commands, d.report.driven = true →
        |d.pid.p + d.pid.d + d.pid.f| ≤ bound) →
      |c.pid.i| ≤ params.steerMax + bound ∨
        c.pid.i = 0 ∧ ∀ d ∈ c₀.cycles commands, d.report.driven = false := by
  intro c
  obtain ⟨hmax, hstart, hzero⟩ := governed_of_create h hgain
  have hgoverned : c.pid.Governed params.steerMax :=
    run_induction (P := fun d => d.pid.Governed params.steerMax)
      (fun _ command hd => governed_obey hd command) hstart commands
  refine ⟨fun command hmoves => ?_, fun command => ?_, fun bound hterms => ?_⟩
  · rcases c.obey_pid command with hsame | ⟨hreset, _⟩ | ⟨input, _, _, rfl, hdriven, hs⟩
    · exact absurd (by rw [hsame]) hmoves
    · exact .inl hreset
    · rw [obey, hs] at hmoves
      have hfree := CycleInput.freezesIntegrator_eq_false_iff.mp (Pid.update_moves hmoves).1
      rw [Diagnostics.driven, Bool.and_eq_true, Bool.not_eq_true', step_report_active] at hdriven
      exact .inr ⟨input, rfl, hdriven.1, hdriven.2, hfree⟩
  · rcases c.obey_pid command with hsame | ⟨_, hreset⟩ | ⟨input, _, _, rfl, _, hs⟩
    · rw [hsame]
      exact ⟨fun hlt => absurd hlt (lt_irrefl _), fun hlt => absurd hlt (lt_irrefl _)⟩
    · rw [hreset]
      dsimp only
      rw [c.pid.reset_sum]
      exact ⟨fun _ => .inl hmax.le, fun _ => .inl (neg_nonpos.mpr hmax.le)⟩
    · rw [obey, hs]
      exact ⟨hgoverned.update_rises _ _ _ _, hgoverned.update_falls _ _ _ _⟩
  · by_cases hdriven : ∃ d ∈ c₀.cycles commands, d.report.driven = true
    · obtain ⟨d, hmem, hd⟩ := hdriven
      have hbound : 0 ≤ bound := (abs_nonneg _).trans (hterms d hmem hd)
      refine .inl (abs_run_le hstart ?_ hterms)
      rw [hzero, abs_zero]
      exact add_nonneg hmax.le hbound
    · have hnone : ∀ d ∈ c₀.cycles commands, d.report.driven = false := fun d hmem =>
        Bool.eq_false_of_not_eq_true fun hd => hdriven ⟨d, hmem, hd⟩
      exact .inr ⟨integral_run_of_undriven hzero hnone, hnone⟩

/-- A controller that only integrates keeps its integrator within the limit of the output. -/
theorem integrator_disciplined_of_integrating :
    let params : Params ℝ :=
      { Params.standard with proportionalGain := .constant 0, feedforwardGain := .constant 0 }
    let c₀ := initial params Capabilities.standard
    let commands : List (Command ℝ) :=
      [.cycle (.turn 20 0.001), .reset, .cycle (.turn 30 0.05), .cycle (.turn 30 0.05)]
    create params Capabilities.standard = .ok c₀ ∧
      (∀ gain ∈ params.integralGain.gains, 0 ≤ gain) ∧
      (c₀.cycles commands).map (·.report.driven) = [true, true, true] ∧
      |(c₀.run commands).pid.i| ≤ 1 := by
  intro params c₀ commands
  have hvalid : params.validate = .ok () := by
    refine Params.validate_eq_ok_iff.mpr ⟨?_, ?_, ?_, ?_, ?_⟩
    · norm_num [params, Params.standard]
    · norm_num [params, Params.standard]
    · norm_num [params, Params.standard]
    · norm_num [params, Params.standard, Tuning.standard]
    · simp [params, Params.schedules, Params.standard, GainSchedule.constant,
        GainSchedule.isValid, GainSchedule.nonDescending]
  have hcreate : create params Capabilities.standard = .ok c₀ := create_standard hvalid rfl
  have hgain : ∀ gain ∈ params.integralGain.gains, 0 ≤ gain := by
    norm_num [params, Params.standard, GainSchedule.constant]
  have hdriven : (c₀.cycles commands).map (·.report.driven) = [true, true, true] := rfl
  -- Whatever the torques of a cycle come to, gains of zero leave nothing of them.
  have hnothing (x speed : ℝ) : x * (GainSchedule.constant 0).value speed = 0 := by simp
  have hterms : ∀ d ∈ c₀.cycles commands, d.report.driven = true →
      |d.pid.p + d.pid.d + d.pid.f| ≤ 0 := by
    have hcycles : ∀ d ∈ c₀.cycles commands, d.pid.p = 0 ∧ d.pid.d = 0 ∧ d.pid.f = 0 :=
      List.forall_mem_cons.mpr ⟨⟨hnothing _ _, hnothing _ _, hnothing _ _⟩,
        List.forall_mem_cons.mpr ⟨⟨hnothing _ _, hnothing _ _, hnothing _ _⟩,
          List.forall_mem_singleton.mpr ⟨hnothing _ _, hnothing _ _, hnothing _ _⟩⟩⟩
    intro d hmem _
    obtain ⟨hp, hd, hf⟩ := hcycles d hmem
    simp [hp, hd, hf]
  refine ⟨hcreate, hgain, hdriven, ?_⟩
  have hmax : params.steerMax = 1 := by norm_num [params, Params.standard]
  rcases (integrator_disciplined hcreate hgain commands).2.2 0 hterms with hheld | ⟨hzero, _⟩
  · rwa [hmax, add_zero] at hheld
  · rw [hzero, abs_zero]
    exact zero_le_one

end Controller

end LateralTorque
