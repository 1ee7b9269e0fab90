import LateralTorque.Proofs.Run

/-!
# Cycles in which the torque model fails

A cycle asks the torque models up to four questions.  Where one of them is not answered, or the
answers come to torques that are not finite, the cycle is given up: the torque of the cycle before
is held, and only what was settled ahead of the torque model has moved.

This holds of any number system, and of every run of a controller that was accepted.  The models are
any functions: when they refuse to answer, and why, is left to them.

* `Answers` — what the models say in a cycle, `Answers.Failed` and `Answers.Gives` what it comes to;
* `modelFault_iff_answers` — a cycle reports a fault exactly where an answer is missing or a torque
  is not finite;
* `held_of_fault` — what such a cycle moves, and what not;
* `output_run_eq` — the torque in force after a run is that of its latest cycle without a fault;
* `fault_holds_torque` — all of it for the next cycle of any run.

An idle cycle counts as one without a fault, so that a fault after it holds no torque.
-/

set_option autoImplicit false

namespace LateralTorque

variable {α : Type} [Scalar α]

/-! ## Answers of the torque models -/

/-- What the torque models answer to the questions of one cycle.  The last of them, for the analytic
friction on top of the learned one, need not be asked. -/
structure Answers (α : Type) where
  setpoint : Except ModelError α
  measurement : Except ModelError α
  feedforward : Except ModelError α
  friction : Option (Except ModelError α)

namespace Answers

/-- The answers in the order of the questions. -/
def toList {α : Type} (a : Answers α) : List (Except ModelError α) :=
  [a.setpoint, a.measurement, a.feedforward] ++ a.friction.toList

/-- Some question is not answered. -/
def Failed {α : Type} (a : Answers α) : Prop := ∃ answer ∈ a.toList, ∃ cause, answer = .error cause

/-- All questions are answered, and the answers come to these torques. -/
def Gives (a : Answers α) (error feedforward : α) : Prop :=
  ∃ fromSetpoint fromMeasurement,
    a.setpoint = .ok fromSetpoint ∧ a.measurement = .ok fromMeasurement ∧
      a.feedforward = .ok feedforward ∧
      ((a.friction = none ∧ error = fromSetpoint - fromMeasurement) ∨
        ∃ torque, a.friction = some (.ok torque) ∧
          error = fromSetpoint - fromMeasurement + torque)

/-- Error and feedforward, or the cause of the first missing answer. -/
def torques (a : Answers α) : Except ModelError (α × α) := do
  let fromSetpoint ← a.setpoint
  let fromMeasurement ← a.measurement
  let feedforward ← a.feedforward
  match a.friction with
  | none => return (fromSetpoint - fromMeasurement, feedforward)
  | some answer => return (fromSetpoint - fromMeasurement + (← answer), feedforward)

theorem failed_of_mem {α : Type} {a : Answers α} (cause : ModelError)
    (h : .error cause ∈ a.toList) : a.Failed := ⟨_, h, cause, rfl⟩

theorem Gives.not_failed {a : Answers α} {error feedforward : α} (h : a.Gives error feedforward) :
    ¬ a.Failed := by
  obtain ⟨_, _, hset, hmeasured, hforward, hfriction⟩ := h
  rintro ⟨answer, hmem, cause, rfl⟩
  rcases hfriction with ⟨hnone, -⟩ | ⟨_, hsome, -⟩
  · simp [toList, hset, hmeasured, hforward, hnone] at hmem
  · simp [toList, hset, hmeasured, hforward, hsome] at hmem

/-- Either an answer is missing or the answers come to torques. -/
theorem failed_or_gives (a : Answers α) :
    (a.Failed ∧ ∃ cause, a.torques = .error cause) ∨
      ∃ error feedforward, a.Gives error feedforward := by
  obtain ⟨setpoint, measurement, feedforward, friction⟩ := a
  cases setpoint with
  | error cause => exact .inl ⟨failed_of_mem cause (by simp [toList]), cause, rfl⟩
  | ok fromSetpoint =>
  cases measurement with
  | error cause => exact .inl ⟨failed_of_mem cause (by simp [toList]), cause, rfl⟩
  | ok fromMeasurement =>
  cases feedforward with
  | error cause => exact .inl ⟨failed_of_mem cause (by simp [toList]), cause, rfl⟩
  | ok feedforward =>
  rcases friction with _ | (cause | torque)
  · exact .inr ⟨_, _, _, _, rfl, rfl, rfl, .inl ⟨rfl, rfl⟩⟩
  · exact .inl ⟨failed_of_mem cause (by simp [toList]), cause, rfl⟩
  · exact .inr ⟨_, _, _, _, rfl, rfl, rfl, .inr ⟨torque, rfl, rfl⟩⟩

theorem Gives.torques_eq {a : Answers α} {error feedforward : α} (h : a.Gives error feedforward) :
    a.torques = .ok (error, feedforward) := by
  obtain ⟨setpoint, measurement, forward, friction⟩ := a
  obtain ⟨_, _, rfl, rfl, rfl, ⟨rfl, rfl⟩ | ⟨_, rfl, rfl⟩⟩ := h
  · rfl
  · rfl

end Answers

namespace Controller

/-! ## The questions of a cycle -/

/-- What the analytic model answers about an acceleration to be reached and a measured one. -/
def analyticAnswers (c : Controller α) (input : CycleInput α) (sig : LateralSignals α)
    (jerk : JerkEstimate α) (setpoint measurement : α) : Answers α :=
  let torque := c.capabilities.torqueModel.analyticModel.torque
  { setpoint := torque (analyticInputs input sig setpoint) c.tuning jerk.setpoint
      sig.accelDeadzone c.params.useLateralJerk false
    measurement := torque (analyticInputs input sig measurement) c.tuning jerk.measurement
      sig.accelDeadzone c.params.useLateralJerk false
    feedforward := torque (analyticInputs input sig (sig.desiredAccel - sig.rollCompensation))
      c.tuning (c.analyticFrictionInput sig jerk) sig.accelDeadzone true true
    friction := none }

/-- What the neural model answers about its features, and the analytic one about the friction where
the model or the tuning asks for it. -/
def neuralAnswers (c : Controller α) (network : NeuralModel α) (input : CycleInput α)
    (sig : LateralSignals α) (frictionInput : α) (features : Features α) : Answers α where
  setpoint := network.evaluate features.setpoint
  measurement := network.evaluate features.measurement
  feedforward := network.evaluate features.feedforward
  friction :=
    if network.frictionOverride || c.tuning.overridden then
      some (c.capabilities.torqueModel.analyticModel.torque
        ⟨0, 0, input.vehicle.speed, input.vehicle.longitudinalAccel⟩ c.tuning frictionInput
        sig.accelDeadzone true false)
    else none

/-- What the torque models answer in a cycle: the neural one where there is one and a usable plan,
the analytic one otherwise. -/
def answers (c : Controller α) (input : CycleInput α) : Answers α :=
  let sig := c.signals input
  let factor := (c.nextLowSpeed input).lastFactor
  match input.usableTrajectory, c.capabilities.torqueModel.neuralModel? with
  | some t, some network =>
    let inputs := c.cycleFeatures network input
    c.neuralAnswers network input sig inputs.frictionInput (c.context.assemble inputs t).2
  | _, _ =>
    c.analyticAnswers input sig (c.lookAhead input sig)
      (sig.desiredAccel + factor * input.desired.curvature)
      (sig.actualAccel + factor * sig.actualCurvature)

theorem analyticTorques_map (c : Controller α) (input : CycleInput α) (sig : LateralSignals α)
    (jerk : JerkEstimate α) (setpoint measurement : α) :
    (c.analyticTorques input sig jerk setpoint measurement).map (fun t => (t.error, t.feedforward))
      = (c.analyticAnswers input sig jerk setpoint measurement).torques := by
  unfold analyticTorques analyticError analyticFeedforward analyticAnswers Answers.torques
  dsimp only
  cases c.capabilities.torqueModel.analyticModel.torque (analyticInputs input sig setpoint)
    c.tuning jerk.setpoint sig.accelDeadzone c.params.useLateralJerk false with
  | error cause => rfl
  | ok fromSetpoint =>
  cases c.capabilities.torqueModel.analyticModel.torque (analyticInputs input sig measurement)
    c.tuning jerk.measurement sig.accelDeadzone c.params.useLateralJerk false with
  | error cause => rfl
  | ok fromMeasurement =>
  cases c.capabilities.torqueModel.analyticModel.torque
    (analyticInputs input sig (sig.desiredAccel - sig.rollCompensation)) c.tuning
    (c.analyticFrictionInput sig jerk) sig.accelDeadzone true true <;> rfl

theorem neuralTorques_map (c : Controller α) (network : NeuralModel α) (input : CycleInput α)
    (sig : LateralSignals α) (frictionInput : α) (features : Features α) :
    (c.neuralTorques network input sig frictionInput features).map
        (fun t => (t.error, t.feedforward))
      = (c.neuralAnswers network input sig frictionInput features).torques := by
  unfold neuralTorques overrideTorque neuralAnswers Answers.torques
  dsimp only
  cases network.evaluate features.setpoint with
  | error cause => rfl
  | ok fromSetpoint =>
  cases network.evaluate features.measurement with
  | error cause => rfl
  | ok fromMeasurement =>
  cases network.evaluate features.feedforward with
  | error cause => rfl
  | ok feedforward =>
  split
  · cases c.capabilities.torqueModel.analyticModel.torque
      ⟨0, 0, input.vehicle.speed, input.vehicle.longitudinalAccel⟩ c.tuning frictionInput
      sig.accelDeadzone true false <;> rfl
  · rfl

theorem outcome_torques (c : Controller α) (input : CycleInput α) :
    (c.outcome input).1.map (fun t => (t.error, t.feedforward)) = (c.answers input).torques := by
  unfold outcome modelTorques answers
  cases input.usableTrajectory with
  | none => exact c.analyticTorques_map _ _ _ _ _
  | some t =>
    cases c.capabilities.torqueModel.neuralModel? with
    | none => exact c.analyticTorques_map _ _ _ _ _
    | some network => exact c.neuralTorques_map _ _ _ _ _

/-! ## A cycle with a fault -/

/-- An active cycle reports a fault exactly where an answer is missing or a torque is not finite. -/
theorem modelFault_iff_answers (c : Controller α) {input : CycleInput α}
    (hactive : input.active = true) :
    (c.step input).1.report.modelFault = true ↔
      (c.openCycle.1.answers input).Failed ∨ ∃ error feedforward,
        (c.openCycle.1.answers input).Gives error feedforward ∧
          (Scalar.isFinite error = false ∨ Scalar.isFinite feedforward = false) := by
  have htorques := c.openCycle.1.outcome_torques input
  rw [step_modelFault_iff, and_iff_right hactive, prepare_result]
  rcases (c.openCycle.1.answers input).failed_or_gives with
    ⟨hfailed, cause, herror⟩ | ⟨error, feedforward, hgives⟩
  · rw [herror] at htorques
    refine ⟨fun _ => .inl hfailed, fun _ torques hok => ?_⟩
    rw [hok] at htorques
    cases htorques
  · rw [hgives.torques_eq] at htorques
    cases hresult : (c.openCycle.1.outcome input).1 with
    | error cause =>
      rw [hresult] at htorques
      cases htorques
    | ok torques =>
      rw [hresult] at htorques
      cases htorques
      simp only [Except.ok.injEq, forall_eq', ModelTorques.areFinite, Bool.and_eq_false_iff]
      refine ⟨fun h => .inr ⟨_, _, hgives, h⟩, ?_⟩
      rintro (hfailed | ⟨_, _, hother, h⟩)
      · exact absurd hfailed hgives.not_failed
      · have hsame := hgives.torques_eq.symm.trans hother.torques_eq
        cases hsame
        exact h

/-- What a cycle with a fault leaves of a controller: everything behind the torque model as it was,
the low speed factor of the cycle, and the cycle in the feature context if the neural model was
asked. -/
structure Held (c d : Controller α) (input : CycleInput α) : Prop where
  pid : d.pid = c.pid
  delay : d.delay = c.delay
  saturation : d.saturation = c.saturation
  output : d.output = c.output
  lowSpeed : d.lowSpeed = c.lowSpeed.update c.capabilities.lowSpeedLaw d.tuning
    (c.openCycle.1.lowSpeedInputs input (c.openCycle.1.signals input))
  factor : d.report.lowSpeedFactor = d.lowSpeed.lastFactor
  context : d.context = c.openCycle.1.nextContext input

theorem held_of_fault (c : Controller α) {input : CycleInput α}
    (hfault : (c.step input).1.report.modelFault = true) : Held c (c.step input).1 input := by
  rcases c.step_cases input with ⟨_, hs⟩ | ⟨_, _, hs⟩ | ⟨_, _, _, _, hs⟩
  · rw [hs] at hfault
    cases hfault
  · rw [hs, prepare_eq, outcome_context]
    refine ⟨c.openCycle_pid, c.openCycle_delay, c.openCycle_saturation, c.openCycle_output, ?_, rfl,
      rfl⟩
    rw [← c.openCycle_lowSpeed, ← c.openCycle_capabilities]
    rfl
  · rw [hs] at hfault
    cases hfault

end Controller

/-! ## The torque in force -/

/-- Whether a command is a reset. -/
def Command.isReset {α : Type} : Command α → Bool
  | .reset => true
  | .cycle _ | .retune .. | .supply _ => false

/-- There is no reset behind the last one. -/
theorem Command.isReset_of_mem_rtakeWhile {α : Type} (commands : List (Command α)) :
    ∀ command ∈ commands.rtakeWhile fun command => !command.isReset,
      command.isReset = false := fun command hmem => by
  simpa using List.mem_rtakeWhile_imp hmem

/-- The torque of the latest cycle without a fault, or `start` if there is none. -/
def standingTorque {α : Type} (start : α) (cycles : List (Controller α)) : α :=
  ((cycles.filter fun d => !d.report.modelFault).getLast?.map (·.output)).getD start

theorem standingTorque_cons {α : Type} (start : α) (d : Controller α)
    (rest : List (Controller α)) :
    standingTorque start (d :: rest)
      = standingTorque (if d.report.modelFault then start else d.output) rest := by
  unfold standingTorque
  cases hfault : d.report.modelFault with
  | true => simp [hfault]
  | false =>
    simp only [List.filter_cons, hfault, Bool.not_false, if_true, List.getLast?_cons]
    cases (rest.filter fun d => !d.report.modelFault).getLast? <;> rfl

namespace Controller

/-- A cycle with a fault keeps the torque in force; any other one sets it. -/
theorem standingTorque_step (c : Controller α) (input : CycleInput α) :
    (if (c.step input).1.report.modelFault then c.output else (c.step input).1.output)
      = (c.step input).1.output := by
  split
  · rename_i hfault
    exact (c.held_of_fault hfault).output.symm
  · rfl

/-- **The torque in force** after commands without a reset is that of the latest cycle without a
fault. -/
theorem output_run_eq (c : Controller α) {commands : List (Command α)}
    (hkept : ∀ command ∈ commands, command.isReset = false) :
    (c.run commands).output = standingTorque c.output (c.cycles commands) := by
  induction commands generalizing c with
  | nil => rfl
  | cons command rest ih =>
    have hrest := ih (c.obey command) fun other h => hkept other (List.mem_cons_of_mem _ h)
    cases command with
    | cycle input =>
      rw [cycles_cycle, standingTorque_cons, standingTorque_step]
      exact hrest
    | reset => cases hkept .reset List.mem_cons_self
    | retune factor offset friction =>
      have hkeeps : (c.obey (.retune factor offset friction)).output = c.output := by
        obtain ⟨tuning, hr⟩ := c.obey_retune factor offset friction
        rw [hr]
      rw [run_cons, cycles_cons_of_not_cycle _ rfl, hrest, hkeeps]
    | supply source => exact hrest

/-- What holds at the start and after every reset holds after the commands up to the last reset. -/
theorem run_upto_reset {P : Controller α → Prop} {c : Controller α} (h : P c)
    (hreset : ∀ d : Controller α, P d.reset) (commands : List (Command α)) :
    P (c.run (commands.rdropWhile fun command => !command.isReset)) := by
  by_cases hnone : commands.rdropWhile (fun command => !command.isReset) = []
  · rw [hnone]
    exact h
  · have hlast := List.rdropWhile_last_not _ commands hnone
    generalize commands.rdropWhile (fun command => !command.isReset) = before at hnone hlast ⊢
    rw [← List.dropLast_append_getLast hnone, run_concat]
    cases hcommand : before.getLast hnone with
    | reset => exact hreset _
    | cycle _ | retune _ _ _ | supply _ => simp [hcommand, Command.isReset] at hlast

/-- Commands up to the last reset, or no command at all, leave no torque in force. -/
theorem output_upto_reset {c : Controller α} (h : c.output = 0) (commands : List (Command α)) :
    (c.run (commands.rdropWhile fun command => !command.isReset)).output = 0 :=
  run_upto_reset (P := fun d => d.output = 0) h (fun _ => rfl) commands

/-- **A fault leaves everything behind the torque model as it was.**  An active cycle of any run
reports a fault exactly where a torque model does not answer or where error or feedforward is not
finite.  It then hands out the torque of the latest cycle without a fault since the start or the
last reset, or none if there was no such cycle. -/
theorem fault_holds_torque {params : Params α} {capabilities : Capabilities α}
    {c₀ : Controller α} (h : create params capabilities = .ok c₀) (commands : List (Command α))
    {input : CycleInput α} (hactive : input.active = true) :
    let c := c₀.run commands
    let d := (c.step input).1
    let answers := c.openCycle.1.answers input
    (d.report.modelFault = true ↔ answers.Failed ∨ ∃ error feedforward,
      answers.Gives error feedforward ∧
        (Scalar.isFinite error = false ∨ Scalar.isFinite feedforward = false)) ∧
    (d.report.modelFault = true → Held c d input ∧
      d.output = standingTorque 0
        ((c₀.run (commands.rdropWhile fun command => !command.isReset)).cycles
          (commands.rtakeWhile fun command => !command.isReset))) := by
  intro c d answers
  refine ⟨c.modelFault_iff_answers hactive, fun hfault => ⟨c.held_of_fault hfault, ?_⟩⟩
  have hstart : c₀.output = 0 := by
    obtain ⟨-, -, rfl⟩ := create_eq_ok_iff.mp h
    rfl
  have hkept : ∀ command ∈ commands.rtakeWhile fun command => !command.isReset,
      command.isReset = false := fun command hmem => by
    simpa using List.mem_rtakeWhile_imp hmem
  have hrun := output_run_eq
    (c₀.run (commands.rdropWhile fun command => !command.isReset)) hkept
  rw [output_upto_reset hstart, run, run, ← List.foldl_append,
    List.rdropWhile_append_rtakeWhile] at hrun
  exact (c.held_of_fault hfault).output.trans hrun

/-- The linear law up to a largest acceleration, beyond which it does not answer. -/
def boundedLaw (largest : α) : AnalyticModel α where
  torque inputs tuning frictionInput deadzone compensate _ :=
    if largest < Scalar.abs inputs.lateralAccel then .error .notFinite
    else .ok (linearTorque inputs tuning frictionInput deadzone compensate)
  isLinear := true

/-- Two demands beyond the model, one after the other, hold the torque of the turn before them. -/
theorem fault_holds_torque_of_turn :
    let capabilities : Capabilities Float :=
      { Capabilities.standard with torqueModel := .analytic (boundedLaw 5.0) }
    let c₀ := initial Params.standard capabilities
    let restarted := c₀.run [.cycle (.turn 20.0 0.002), .reset]
    let c := c₀.run [.cycle (.turn 20.0 0.002), .reset, .cycle (.turn 20.0 0.001),
      .retune 2.0 0.0 0.2, .cycle (.turn 30.0 0.02)]
    let input : CycleInput Float := .turn 30.0 0.03
    let d := (c.step input).1
    create Params.standard capabilities = .ok c₀ ∧ input.active = true ∧
      d.report.modelFault = true ∧ d.pid = c.pid ∧
      d.output = (restarted.step (.turn 20.0 0.001)).1.output ∧ d.output < 0.0 := by
  intro capabilities c₀ restarted c input d
  have hcreate : create Params.standard capabilities = .ok c₀ :=
    create_standard (Params.validate_eq_ok_iff.mpr (by decide +kernel)) rfl
  have hactive : input.active = true := rfl
  have hfault : d.report.modelFault = true := by decide +kernel
  obtain ⟨held, houtput⟩ := (fault_holds_torque hcreate [.cycle (.turn 20.0 0.002), .reset,
    .cycle (.turn 20.0 0.001), .retune 2.0 0.0 0.2, .cycle (.turn 30.0 0.02)] hactive).2 hfault
  refine ⟨hcreate, hactive, hfault, held.pid, houtput.trans ?_, by decide +kernel⟩
  decide +kernel

end Controller

end LateralTorque
