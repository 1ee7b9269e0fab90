import LateralTorque.Proofs.Double
import LateralTorque.Proofs.Run

/-!
# The output of a cycle and its record

The torque that a cycle hands out is written in four ways: by the PID controller, by holding the
torque of the cycle before, by disengaging, and by a reset between cycles.

All this is about double precision, as the logical model of `Float` has it, and about every run of a
controller that was accepted: any parameters that pass their check, any vehicle, torque model, low
speed law and source of tuning, and any commands.  Nothing is asked of the inputs, which may be
infinite or NaN.

* `output_within_and_recorded` — the torque is beyond neither limit, and the record says what it is
  and where it comes from;
* `torques_finite_iff` — every torque of a run is finite exactly where every cycle that reaches the
  PID controller sums its terms to a number that is not NaN, and not infinite unless the limit is
  finite.

Comparisons with NaN are false, so the first result does not make the torque a number.  It need not
be one: `infinite_rate_torque_not_finite` is a run with an infinite rate of cycles, and
`overflowing_rate_torque_not_finite` one with the standard parameters, in which the rate of the
error overflows.
-/

set_option autoImplicit false

namespace LateralTorque

/-! ## The terms of a record -/

/-- The sum of the PID terms, in the order in which the controller adds them. -/
def Diagnostics.termSum {α : Type} [Scalar α] (r : Diagnostics α) : α := r.p + r.i + r.d + r.f

/-- Whether a cycle that reached the PID controller added its terms to a number of which the limit
makes a finite one: not NaN, and not infinite unless the limit is finite. -/
def Diagnostics.Summed (limit : Float) (r : Diagnostics Float) : Prop :=
  r.driven = true → r.termSum.isNaN = false ∧ (r.termSum.isFinite = true ∨ limit.isFinite = true)

namespace Controller

variable {c : Controller Float}

/-! ## The limits -/

/-- What holds of every controller in use: a positive limit of the output, the same limit in the
PID controller, and an output beyond neither side of it. -/
structure Limited (c : Controller Float) : Prop where
  positive : 0.0 < c.params.steerMax
  upper : c.pid.upperLimit = c.params.steerMax
  lower : c.pid.lowerLimit = -c.params.steerMax
  output : ¬ c.params.steerMax < c.output ∧ ¬ c.output < -c.params.steerMax

theorem zero_within (h : 0.0 < c.params.steerMax) :
    ¬ c.params.steerMax < 0.0 ∧ ¬ (0.0 : Float) < -c.params.steerMax :=
  ⟨Double.not_lt_zero_of_pos h, Double.not_zero_lt_neg_of_pos h⟩

theorem limited_of_create {params : Params Float} {capabilities : Capabilities Float}
    (h : create params capabilities = .ok c) : Limited c := by
  obtain ⟨hvalid, -, rfl⟩ := create_eq_ok_iff.mp h
  have hpos : 0.0 < params.steerMax := (Params.validate_eq_ok_iff.mp hvalid).1
  exact ⟨hpos, rfl, rfl, zero_within (c := initial params capabilities) hpos⟩

/-- The torque of the PID controller in a cycle that reaches it. -/
theorem drive_output (h : Limited c) (input : CycleInput Float) (torques : ModelTorques Float) :
    (c.drive input torques).1.output =
      -Scalar.clamp (c.drive input torques).1.report.termSum (-c.params.steerMax)
        c.params.steerMax := by
  rw [← h.lower, ← h.upper]
  rfl

theorem limited_prepare (h : Limited c) (input : CycleInput Float) :
    Limited (c.openCycle.1.prepare input).1 :=
  ⟨by simpa using h.positive, by simpa using h.upper, by simpa using h.lower,
    by simpa using h.output⟩

theorem driven_output (h : Limited c) (input : CycleInput Float) (torques : ModelTorques Float) :
    (((c.openCycle.1.prepare input).1.drive input torques).1).output =
      -Scalar.clamp (((c.openCycle.1.prepare input).1.drive input torques).1).report.termSum
        (-c.params.steerMax) c.params.steerMax := by
  have hout := drive_output (limited_prepare h input) input torques
  rwa [prepare_params, openCycle_params] at hout

theorem limited_step (h : Limited c) (input : CycleInput Float) : Limited (c.step input).1 := by
  obtain ⟨hpos, hupper, hlower, hout⟩ := limited_prepare h input
  rcases c.step_cases input with ⟨_, hs⟩ | ⟨_, _, hs⟩ | ⟨_, torques, _, _, hs⟩ <;> rw [hs]
  · exact ⟨hpos, hupper, hlower, zero_within hpos⟩
  · exact ⟨hpos, hupper, hlower, hout⟩
  · refine ⟨hpos, hupper, hlower, ?_⟩
    rw [drive_output (limited_prepare h input)]
    exact Double.clamp_within hpos _

theorem limited_obey (h : Limited c) (command : Command Float) : Limited (c.obey command) := by
  cases command with
  | cycle input => exact limited_step h input
  | reset => exact ⟨h.positive, h.upper, h.lower, zero_within h.positive⟩
  | retune factor offset friction =>
    obtain ⟨tuning, hr⟩ := c.obey_retune factor offset friction
    rw [hr]
    exact ⟨h.positive, h.upper, h.lower, h.output⟩
  | supply source => exact ⟨h.positive, h.upper, h.lower, h.output⟩

/-- Every controller that a run reaches keeps its output within the limits. -/
theorem limited_run {params : Params Float} {capabilities : Capabilities Float}
    (h : create params capabilities = .ok c) (commands : List (Command Float)) :
    Limited (c.run commands) :=
  run_induction (P := Limited) (fun _ command hd => limited_obey hd command) (limited_of_create h)
    commands

theorem create_plain : create Params.standard Capabilities.standard
    = .ok (initial Params.standard Capabilities.standard : Controller Float) :=
  create_standard Params.validate_standard rfl

/-! ## The record of a cycle -/

/-- The record of a cycle from any state within the limits. -/
theorem step_recorded (h : Limited c) (input : CycleInput Float) :
    (c.step input).1.report.output = (c.step input).1.output ∧
      (c.step input).1.report.active = input.active ∧
      ((c.step input).1.report.driven = true →
        (c.step input).1.output = -Scalar.clamp (c.step input).1.report.termSum
          (-c.params.steerMax) c.params.steerMax ∧
        (c.step input).1.output = -(c.step input).1.pid.control) ∧
      ((c.step input).1.report.saturated = true ↔ input.active = true ∧
        c.params.steerMax - Scalar.abs (c.step input).1.output < saturationMargin) := by
  rcases c.step_cases input with ⟨hidle, hs⟩ | ⟨hactive, _, hs⟩ | ⟨hactive, torques, _, _, hs⟩
  · obtain ⟨hinactive, -, hunsaturated, hrecord⟩ := c.openCycle_report
    rw [hs, hidle]
    exact ⟨hrecord, hinactive, by simp [Diagnostics.driven, hinactive], by simp [hunsaturated]⟩
  · rw [hs, hactive]
    exact ⟨rfl, rfl, by simp [Diagnostics.driven, hold], by simp [hold, isSaturated]⟩
  · have hmagnitude : ∀ control : Float, Scalar.abs (-control) = Scalar.abs control :=
      Double.abs_neg
    rw [hs, hactive]
    exact ⟨rfl, rfl, fun _ => ⟨driven_output h input torques, rfl⟩,
      by simp [drive, isSaturated, hmagnitude]⟩

/-- **The torque of every cycle is within the limits, and its record tells where it comes from.** -/
theorem output_within_and_recorded {params : Params Float} {capabilities : Capabilities Float}
    {c₀ : Controller Float} (h : create params capabilities = .ok c₀)
    (commands : List (Command Float)) (input : CycleInput Float) :
    let c := ((c₀.run commands).step input).1
    (¬ params.steerMax < c.output ∧ ¬ c.output < -params.steerMax) ∧
      c.report.output = c.output ∧
      c.report.active = input.active ∧
      (input.active = true → c.report.modelFault = false →
        c.output = -Scalar.clamp (c.report.p + c.report.i + c.report.d + c.report.f)
          (-params.steerMax) params.steerMax ∧
        c.output = -c.pid.control) ∧
      (c.report.saturated = true ↔
        input.active = true ∧ params.steerMax - Scalar.abs c.output < 1e-3) := by
  intro c
  have hbefore : Limited (c₀.run commands) := limited_run h commands
  have hparams : (c₀.run commands).params = params := by
    obtain ⟨-, -, rfl⟩ := create_eq_ok_iff.mp h
    exact run_params _ _
  have hwithin := (limited_step hbefore input).output
  obtain ⟨houtput, hactive, hdriven, hsaturated⟩ := step_recorded hbefore input
  rw [step_params, hparams] at hwithin
  rw [hparams] at hdriven hsaturated
  refine ⟨hwithin, houtput, hactive, fun hengaged hsound => hdriven ?_, hsaturated⟩
  show (c.report.active && !c.report.modelFault) = true
  rw [hactive, hengaged, hsound]
  rfl

/-- A sharp turn after a reset and an idle cycle saturates the output. -/
theorem output_within_and_recorded_in_turn :
    create Params.standard Capabilities.standard
        = .ok (initial Params.standard Capabilities.standard : Controller Float) ∧
      let c := (((initial Params.standard Capabilities.standard).run
        [.cycle (.turn 20.0 0.001), .reset,
          .cycle { CycleInput.turn 20.0 0.0 with active := false }]).step (.turn 20.0 0.05)).1
      c.report.output = c.output ∧ c.output = -c.pid.control ∧ c.report.saturated = true := by
  obtain ⟨-, hrecord, -, hdriven, hsaturated⟩ := output_within_and_recorded create_plain
    [.cycle (.turn 20.0 0.001), .reset, .cycle { CycleInput.turn 20.0 0.0 with active := false }]
    (.turn 20.0 0.05)
  exact ⟨create_plain, hrecord, (hdriven rfl (by decide +kernel)).2,
    hsaturated.mpr (by decide +kernel)⟩

/-! ## Finite torques -/

theorem zero_isFinite : (0 : Float).isFinite = true := by decide

theorem step_isFinite_iff (h : Limited c) (hfinite : c.output.isFinite = true)
    (input : CycleInput Float) :
    (c.step input).1.output.isFinite = true ↔
      (c.step input).1.report.Summed c.params.steerMax := by
  rcases c.step_cases input with ⟨_, hs⟩ | ⟨_, _, hs⟩ | ⟨_, torques, _, _, hs⟩ <;> rw [hs]
  · exact ⟨fun _ hdriven => (by cases hdriven), fun _ => zero_isFinite⟩
  · refine ⟨fun _ hdriven => (by simp [Diagnostics.driven, hold] at hdriven), fun _ => ?_⟩
    show c.openCycle.1.output.isFinite = true
    rwa [openCycle_output]
  · have hdriven : (((c.openCycle.1.prepare input).1.drive input torques).1).report.driven
        = !c.openCycle.1.report.modelFault := rfl
    rw [driven_output h, Double.isFinite_neg, Double.isFinite_clamp_iff h.positive,
      Diagnostics.Summed, hdriven, c.openCycle_report.2.1]
    exact ⟨fun hsum _ => hsum, fun hsum => hsum rfl⟩

/-- A command that is no cycle leaves a finite output finite. -/
theorem obey_isFinite (hfinite : c.output.isFinite = true) {command : Command Float}
    (hcommand : command.isCycle = false) : (c.obey command).output.isFinite = true := by
  cases command with
  | cycle input => cases hcommand
  | reset => exact zero_isFinite
  | retune factor offset friction =>
    obtain ⟨tuning, hr⟩ := c.obey_retune factor offset friction
    rw [hr]
    exact hfinite
  | supply source => exact hfinite

theorem cycles_isFinite_iff (h : Limited c) (hfinite : c.output.isFinite = true)
    (commands : List (Command Float)) :
    (∀ d ∈ c.cycles commands, d.output.isFinite = true) ↔
      ∀ d ∈ c.cycles commands, d.report.Summed c.params.steerMax := by
  induction commands generalizing c with
  | nil => simp [cycles]
  | cons command rest ih =>
    have hrest := ih (limited_obey h command)
    rw [obey_params] at hrest
    cases hcommand : command.isCycle with
    | false =>
      rw [cycles_cons_of_not_cycle c hcommand]
      exact hrest (obey_isFinite hfinite hcommand)
    | true =>
      rw [cycles, if_pos hcommand, List.forall_mem_cons, List.forall_mem_cons]
      obtain ⟨input, rfl⟩ := Command.eq_cycle_of_isCycle hcommand
      -- A cycle that is not finite settles both sides; after one that is, the rest decides.
      constructor
      · rintro ⟨hfirst, hothers⟩
        exact ⟨(step_isFinite_iff h hfinite input).mp hfirst, (hrest hfirst).mp hothers⟩
      · rintro ⟨hfirst, hothers⟩
        have hout := (step_isFinite_iff h hfinite input).mpr hfirst
        exact ⟨hout, (hrest hout).mpr hothers⟩

/-- **Every torque of a run is finite** exactly where every cycle that reaches the PID controller
adds its terms to a number that is not NaN, and not infinite unless the limit is finite. -/
theorem torques_finite_iff {params : Params Float} {capabilities : Capabilities Float}
    {c₀ : Controller Float} (h : create params capabilities = .ok c₀)
    (commands : List (Command Float)) :
    (∀ d ∈ c₀.cycles commands, d.output.isFinite = true) ↔
      ∀ d ∈ c₀.cycles commands, d.report.driven = true →
        d.report.termSum.isNaN = false ∧
          (d.report.termSum.isFinite = true ∨ params.steerMax.isFinite = true) := by
  obtain ⟨-, -, hc⟩ := create_eq_ok_iff.mp h
  have hfinite : c₀.output.isFinite = true := by rw [hc]; exact zero_isFinite
  have hparams : c₀.params = params := by rw [hc]; rfl
  have hiff := cycles_isFinite_iff (limited_of_create h) hfinite commands
  rw [hparams] at hiff
  exact hiff

/-- Two turns with a live estimate and a reset between them. -/
theorem torques_finite_over_reset :
    create Params.standard Capabilities.standard
        = .ok (initial Params.standard Capabilities.standard : Controller Float) ∧
      ∀ d ∈ (initial Params.standard Capabilities.standard : Controller Float).cycles
        [.cycle (.turn 20.0 0.001), .retune 2.0 0.0 0.2, .reset, .cycle (.turn 30.0 0.02)],
        d.output.isFinite = true :=
  ⟨create_plain, (torques_finite_iff create_plain _).mpr (by decide +kernel)⟩

/-- Parameters with no time between two cycles. -/
def unpaced : Params Float := { Params.standard with rate := 1.0 / 0.0 }

/-- The rate of an error over no time is NaN, and so is the torque of the second cycle. -/
theorem infinite_rate_torque_not_finite :
    create unpaced Capabilities.standard = .ok (initial unpaced Capabilities.standard) ∧
      ((initial unpaced Capabilities.standard).cycles
        [.cycle (.turn 20.0 0.001), .cycle (.turn 20.0 0.001)]).map (·.output.isFinite)
          = [true, false] :=
  ⟨create_standard (Params.validate_eq_ok_iff.mpr (by decide +kernel)) rfl, by decide +kernel⟩

/-- With the standard parameters too: the error of a demand that turns around overflows, and an
infinite rate times a derivative gain of zero is NaN. -/
theorem overflowing_rate_torque_not_finite :
    create Params.standard Capabilities.standard
        = .ok (initial Params.standard Capabilities.standard : Controller Float) ∧
      ((initial Params.standard Capabilities.standard : Controller Float).cycles
        [.cycle (.turn 30.0 1.6e305), .cycle (.turn 30.0 (-1.6e305))]).map (·.output.isFinite)
          = [true, false] :=
  ⟨create_plain, by decide +kernel⟩

end Controller

end LateralTorque
