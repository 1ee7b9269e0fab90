import LateralTorque.Proofs.PastFeatures

/-!
# The low speed factor from cycle to cycle

The factor by which an active cycle shifts setpoint and measurement comes from the low speed law,
which is told the factor before it.  In `step` the law is a function, which cannot say how often it
was called.  So the cycle is written here once more with the law asked in a monad, and a law that
records what it is asked shows that both agree.

The law is any function, one that is never finite included.  That both ways to write a cycle agree
holds of any number system; the result on runs is about double precision, where zero is a finite
number by computation.

* `stepAsking`, `runAsking` — a cycle and a run that ask the law in a monad;
* `LowSpeedLaw.recorded` — a law with a record of its questions;
* `runAsking_recorded` — a run with the recorded law is the run, and each active cycle has asked;
* `lastFactor_run` — the factor kept is that of the latest record;
* `low_speed_factor_threaded` — the factors told, used, kept and recorded in any run.

A cycle with a fault has asked the law like any other active one, and keeps its answer.
-/

set_option autoImplicit false

namespace LateralTorque

variable {α : Type} [Scalar α]

/-- What a low speed law is asked. -/
structure LowSpeedQuestion (α : Type) where
  tuning : Tuning α
  inputs : LowSpeedInputs α

/-! ## Asking the law -/

section Asking

variable {m : Type → Type} [Monad m]

/-- The factor kept between cycles, after the law was asked in a monad. -/
def LowSpeedScheduler.updateAsking (ask : LowSpeedQuestion α → m α) (s : LowSpeedScheduler α)
    (tuning : Tuning α) (inputs : LowSpeedInputs α) :
    m (LowSpeedScheduler α × List (Event α)) := do
  let factor ← ask ⟨tuning, { inputs with previousFactor := s.lastFactor }⟩
  return (⟨if Scalar.isFinite factor then factor else 0⟩, Event.ofFactor factor)

namespace Controller

variable (ask : LowSpeedQuestion α → m α)

/-- An active cycle up to the torque model, with the law asked in a monad. -/
def prepareAsking (c : Controller α) (input : CycleInput α) :
    m (Controller α × Except ModelError (ModelTorques α) × List (Event α)) := do
  let sig := c.signals input
  let (lowSpeed, events) ←
    c.lowSpeed.updateAsking ask c.tuning (c.lowSpeedInputs input sig)
  let factor := lowSpeed.lastFactor
  let setpoint := sig.desiredAccel + factor * input.desired.curvature
  let measurement := sig.actualAccel + factor * sig.actualCurvature
  let jerk := c.lookAhead input sig
  let (result, context, usedNeural) := c.modelTorques input sig jerk setpoint measurement
  return ({ c with
    lowSpeed := lowSpeed
    context := context
    report := { c.report with
      active := true
      actualAccel := sig.actualAccel
      desiredAccel := sig.desiredAccel
      lowSpeedFactor := factor
      desiredJerk := jerk.desired
      lookaheadJerk := jerk.lookahead
      usedNeural := usedNeural } },
    result, events)

/-- An active cycle, with the law asked in a monad. -/
def stepActiveAsking (c : Controller α) (input : CycleInput α) :
    m (Controller α × List (Event α)) := do
  let (prepared, result, lowSpeedEvents) ← c.prepareAsking ask input
  let (settled, events) := prepared.settle input result
  return (settled, lowSpeedEvents ++ events)

/-- One cycle, with the law asked in a monad. -/
def stepAsking (c : Controller α) (input : CycleInput α) : m (Controller α × List (Event α)) := do
  let (opened, tuningEvents) := c.openCycle
  let (done, events) ←
    if input.active then opened.stepActiveAsking ask input
    else pure ({ opened with output := 0 }, [])
  return (done, tuningEvents ++ events
    ++ [.cycleDone done.tick done.report.active done.output done.report.error done.report.f])

/-- The controller after a command, with the law asked in a monad. -/
def obeyAsking (c : Controller α) : Command α → m (Controller α)
  | .cycle input => do
    let (done, _) ← c.stepAsking ask input
    return done
  | command => return c.obey command

/-- The controller after a run, with the law asked in a monad. -/
def runAsking (c : Controller α) (commands : List (Command α)) : m (Controller α) :=
  commands.foldlM (obeyAsking ask) c

end Controller

end Asking

/-! ## What a run asks -/

/-- A low speed law with a record of the questions it was asked, oldest first. -/
def LowSpeedLaw.recorded (law : LowSpeedLaw α) (question : LowSpeedQuestion α) :
    StateM (List (LowSpeedQuestion α)) α := fun asked =>
  (law question.tuning question.inputs, asked ++ [question])

namespace Controller

/-- What the rest of an active cycle asks the low speed law. -/
def lowSpeedQuestion (c : Controller α) (input : CycleInput α) : LowSpeedQuestion α where
  tuning := c.tuning
  inputs := { c.lowSpeedInputs input (c.signals input) with
    previousFactor := c.lowSpeed.lastFactor }

end Controller

/-- What a cycle asks the low speed law if it is active. -/
def RunCycle.lowSpeedQuestion (s : RunCycle α) : LowSpeedQuestion α :=
  s.before.openCycle.1.lowSpeedQuestion s.input

/-- The questions of the active ones among some cycles. -/
def lowSpeedQuestions (cycles : List (RunCycle α)) : List (LowSpeedQuestion α) :=
  (cycles.filter fun s => s.input.active).map RunCycle.lowSpeedQuestion

@[simp] theorem lowSpeedQuestions_nil : lowSpeedQuestions ([] : List (RunCycle α)) = [] := rfl

theorem lowSpeedQuestions_singleton (s : RunCycle α) :
    lowSpeedQuestions [s] = if s.input.active then [s.lowSpeedQuestion] else [] := by
  cases hactive : s.input.active <;> simp [lowSpeedQuestions, hactive]

theorem lowSpeedQuestions_append (earlier later : List (RunCycle α)) :
    lowSpeedQuestions (earlier ++ later)
      = lowSpeedQuestions earlier ++ lowSpeedQuestions later := by
  rw [lowSpeedQuestions, List.filter_append, List.map_append]
  rfl

namespace Controller

/-- The law is asked before a fault can end an active cycle. -/
theorem stepActiveAsking_recorded (c : Controller α) (input : CycleInput α)
    (asked : List (LowSpeedQuestion α)) :
    (c.stepActiveAsking c.capabilities.lowSpeedLaw.recorded input).run asked
      = (c.stepActive input, asked ++ [c.lowSpeedQuestion input]) := rfl

theorem stepAsking_recorded (c : Controller α) (input : CycleInput α)
    (asked : List (LowSpeedQuestion α)) :
    (c.stepAsking c.capabilities.lowSpeedLaw.recorded input).run asked
      = (c.step input, asked ++ lowSpeedQuestions [⟨c, input⟩]) := by
  rw [lowSpeedQuestions_singleton]
  cases hactive : input.active with
  | false =>
    rw [if_neg Bool.false_ne_true, List.append_nil]
    simp only [stepAsking, step, hactive]
    rfl
  | true =>
    have hasked := c.openCycle.1.stepActiveAsking_recorded input asked
    rw [openCycle_capabilities] at hasked
    simp only [stepAsking, step, hactive, if_true, StateT.run_bind, hasked]
    rfl

@[simp] theorem obey_lowSpeedLaw (c : Controller α) (command : Command α) :
    (c.obey command).capabilities.lowSpeedLaw = c.capabilities.lowSpeedLaw := by
  cases command with
  | cycle input => rw [obey, step_capabilities]
  | reset | supply _ => rfl
  | retune factor offset friction => rw [obey_retune_eq]

@[simp] theorem run_lowSpeedLaw (c : Controller α) (commands : List (Command α)) :
    (c.run commands).capabilities.lowSpeedLaw = c.capabilities.lowSpeedLaw :=
  run_induction (P := fun d => d.capabilities.lowSpeedLaw = c.capabilities.lowSpeedLaw)
    (fun d command h => (d.obey_lowSpeedLaw command).trans h) rfl commands

theorem trace_cons (c : Controller α) (command : Command α) (rest : List (Command α)) :
    c.trace (command :: rest) = c.trace [command] ++ (c.obey command).trace rest := by
  cases command <;> rfl

theorem obeyAsking_recorded (c : Controller α) (command : Command α)
    (asked : List (LowSpeedQuestion α)) :
    (c.obeyAsking c.capabilities.lowSpeedLaw.recorded command).run asked
      = (c.obey command, asked ++ lowSpeedQuestions (c.trace [command])) := by
  cases command with
  | cycle input =>
    rw [obeyAsking, StateT.run_bind, stepAsking_recorded]
    rfl
  | reset | retune _ _ _ | supply _ =>
    rw [trace, trace, lowSpeedQuestions_nil, List.append_nil]
    rfl

/-- A run asks the law in its active cycles, once in each. -/
theorem runAsking_recorded (c : Controller α) (commands : List (Command α))
    (asked : List (LowSpeedQuestion α)) :
    (c.runAsking c.capabilities.lowSpeedLaw.recorded commands).run asked
      = (c.run commands, asked ++ lowSpeedQuestions (c.trace commands)) := by
  induction commands generalizing c asked with
  | nil =>
    rw [trace, lowSpeedQuestions_nil, List.append_nil]
    rfl
  | cons command rest ih =>
    have hrest := ih (c.obey command)
    rw [obey_lowSpeedLaw] at hrest
    rw [runAsking, List.foldlM_cons, StateT.run_bind, obeyAsking_recorded]
    refine (hrest _).trans ?_
    rw [trace_cons c command rest, lowSpeedQuestions_append, List.append_assoc]
    rfl

end Controller

/-! ## The factor of a cycle -/

/-- The factor in the latest record of some cycles, or `start` if there is none. -/
def latestFactor (start : α) (cycles : List (RunCycle α)) : α :=
  (cycles.getLast?.map fun s => s.after.report.lowSpeedFactor).getD start

theorem latestFactor_cons (start : α) (s : RunCycle α) (later : List (RunCycle α)) :
    latestFactor start (s :: later) = latestFactor s.after.report.lowSpeedFactor later := by
  unfold latestFactor
  rw [List.getLast?_cons]
  cases later.getLast? <;> rfl

namespace Controller

/-- The factor that a cycle leaves: from the answer of the law if it is active, and the one of the
cycle before if it is not. -/
theorem step_lowSpeed (c : Controller α) (input : CycleInput α) :
    (c.step input).1.lowSpeed =
      if input.active then c.openCycle.1.nextLowSpeed input else c.lowSpeed := by
  rcases c.step_cases input with ⟨hidle, hs⟩ | ⟨hactive, _, hs⟩ | ⟨hactive, _, _, _, hs⟩ <;> rw [hs]
  · rw [hidle]
    exact c.openCycle_lowSpeed
  · rw [hactive]
    rfl
  · rw [hactive]
    rfl

/-- Every record has the factor that its cycle leaves. -/
theorem step_report_lowSpeedFactor (c : Controller α) (input : CycleInput α) :
    (c.step input).1.report.lowSpeedFactor = (c.step input).1.lowSpeed.lastFactor := by
  rcases c.step_cases input with ⟨_, hs⟩ | ⟨_, _, hs⟩ | ⟨_, _, _, _, hs⟩ <;> rw [hs]
  · rw [openCycle_eq]
    rfl
  · rfl
  · rfl

/-- Between resets the factor is that of the latest record. -/
theorem lastFactor_run_of_kept (c : Controller α) {commands : List (Command α)}
    (hkept : ∀ command ∈ commands, command.isReset = false) :
    (c.run commands).lowSpeed.lastFactor =
      latestFactor c.lowSpeed.lastFactor (c.trace commands) := by
  induction commands generalizing c with
  | nil => rfl
  | cons command rest ih =>
    have hrest := ih (c.obey command) fun other h => hkept other (List.mem_cons_of_mem _ h)
    rw [run_cons, hrest]
    cases command with
    | cycle input =>
      rw [trace, latestFactor_cons, RunCycle.after, step_report_lowSpeedFactor]
      rfl
    | reset => cases hkept .reset List.mem_cons_self
    | retune factor offset friction =>
      rw [trace, obey_retune_eq]
    | supply source => rfl

/-- The factor after a run is that of the latest record since the start or the last reset, or zero if
there is none. -/
theorem lastFactor_run {params : Params α} {capabilities : Capabilities α} {c₀ : Controller α}
    (h : create params capabilities = .ok c₀) (commands : List (Command α)) :
    (c₀.run commands).lowSpeed.lastFactor = latestFactor 0 (c₀.recentCycles commands) := by
  have hstart : (c₀.run (commands.rdropWhile fun command => !command.isReset)).lowSpeed.lastFactor
      = 0 := by
    obtain ⟨-, -, rfl⟩ := create_eq_ok_iff.mp h
    exact run_upto_reset (P := fun d => d.lowSpeed.lastFactor = 0) rfl (fun _ => rfl) commands
  rw [← run_since_reset, lastFactor_run_of_kept _ (Command.isReset_of_mem_rtakeWhile commands),
    hstart]
  rfl

/-- The factor of an active cycle is the answer of the law, or zero for one that is not finite. -/
theorem lastFactor_nextLowSpeed (c : Controller α) (input : CycleInput α) :
    let question := c.lowSpeedQuestion input
    let answer := c.capabilities.lowSpeedLaw question.tuning question.inputs
    (c.nextLowSpeed input).lastFactor = if Scalar.isFinite answer then answer else 0 := rfl

theorem isFinite_nextLowSpeed (hzero : Scalar.isFinite (0 : α) = true) (c : Controller α)
    (input : CycleInput α) : Scalar.isFinite (c.nextLowSpeed input).lastFactor = true := by
  rw [lastFactor_nextLowSpeed]
  split
  · assumption
  · exact hzero

theorem isFinite_lastFactor_obey (hzero : Scalar.isFinite (0 : α) = true) (c : Controller α)
    (command : Command α) (h : Scalar.isFinite c.lowSpeed.lastFactor = true) :
    Scalar.isFinite (c.obey command).lowSpeed.lastFactor = true := by
  cases command with
  | cycle input =>
    rw [obey, step_lowSpeed]
    split
    · exact isFinite_nextLowSpeed hzero _ input
    · exact h
  | reset => exact hzero
  | retune factor offset friction =>
    rw [obey_retune_eq]
    exact h
  | supply source => exact h

/-- An active cycle shifts setpoint and measurement by the factor that it leaves, whatever becomes of
them. -/
theorem step_shifted (c : Controller α) {input : CycleInput α} (hactive : input.active = true) :
    let opened := c.openCycle.1
    let sig := opened.signals input
    let factor := (c.step input).1.lowSpeed.lastFactor
    (c.step input).1 = ((opened.prepare input).1.settle input
      (opened.modelTorques input sig (opened.lookAhead input sig)
        (sig.desiredAccel + factor * input.desired.curvature)
        (sig.actualAccel + factor * sig.actualCurvature)).1).1 := by
  intro opened sig factor
  have hnext : (c.step input).1.lowSpeed = opened.nextLowSpeed input :=
    (c.step_lowSpeed input).trans (if_pos hactive)
  have hfactor : factor = (opened.nextLowSpeed input).lastFactor :=
    congrArg LowSpeedScheduler.lastFactor hnext
  rw [hfactor, step_of_active c hactive]
  rfl

/-- **The low speed factor goes from cycle to cycle.**  A run asks the low speed law in its active
cycles, once in each, and in no other.  The law is told the factor in the record of the cycle before,
or zero where there is none since the start or the last reset; its answer, or zero for one that is
not finite, shifts setpoint and measurement, is kept, and is in the record.  Other cycles keep the
factor and record it. -/
theorem low_speed_factor_threaded {params : Params Float} {capabilities : Capabilities Float}
    {c₀ : Controller Float} (h : create params capabilities = .ok c₀)
    (commands : List (Command Float)) :
    let law := capabilities.lowSpeedLaw
    (c₀.runAsking law.recorded commands).run []
        = (c₀.run commands, lowSpeedQuestions (c₀.trace commands)) ∧
      ∀ input,
        let now : RunCycle Float := ⟨c₀.run commands, input⟩
        let question := now.lowSpeedQuestion
        let answer := law question.tuning question.inputs
        let factor := if Scalar.isFinite answer then answer else 0.0
        let opened := now.before.openCycle.1
        let sig := opened.signals input
        (now.before.stepAsking law.recorded input).run []
            = (now.before.step input, if input.active then [question] else []) ∧
          question.inputs.previousFactor = latestFactor 0.0 (c₀.recentCycles commands) ∧
          (input.active = true → now.after.lowSpeed.lastFactor = factor ∧
            now.after = ((opened.prepare input).1.settle input
              (opened.modelTorques input sig (opened.lookAhead input sig)
                (sig.desiredAccel + factor * input.desired.curvature)
                (sig.actualAccel + factor * sig.actualCurvature)).1).1) ∧
          (input.active = false → now.after.lowSpeed = now.before.lowSpeed) ∧
          now.after.report.lowSpeedFactor = now.after.lowSpeed.lastFactor ∧
          Scalar.isFinite now.before.lowSpeed.lastFactor = true ∧
          Scalar.isFinite now.after.lowSpeed.lastFactor = true := by
  intro law
  have hzero : Scalar.isFinite (0 : Float) = true := by decide +kernel
  have hlaw : c₀.capabilities.lowSpeedLaw = law := by
    obtain ⟨-, -, rfl⟩ := create_eq_ok_iff.mp h
    rfl
  have hkept : (c₀.run commands).capabilities.lowSpeedLaw = law := by
    rw [run_lowSpeedLaw, hlaw]
  have hbefore : Scalar.isFinite (c₀.run commands).lowSpeed.lastFactor = true := by
    refine run_induction (P := fun d => Scalar.isFinite d.lowSpeed.lastFactor = true)
      (isFinite_lastFactor_obey hzero) ?_ commands
    obtain ⟨-, -, rfl⟩ := create_eq_ok_iff.mp h
    exact hzero
  refine ⟨by rw [← hlaw, runAsking_recorded, List.nil_append], fun input => ?_⟩
  intro now question answer factor opened sig
  have hfactor : input.active = true → now.after.lowSpeed.lastFactor = factor := by
    intro hactive
    have hopened : opened.capabilities.lowSpeedLaw = law :=
      (congrArg Capabilities.lowSpeedLaw now.before.openCycle_capabilities).trans hkept
    rw [RunCycle.after, step_lowSpeed, if_pos hactive, lastFactor_nextLowSpeed]
    exact hopened ▸ rfl
  refine ⟨?_, ?_, fun hactive => ⟨hfactor hactive, ?_⟩, fun hidle => ?_,
    now.before.step_report_lowSpeedFactor input, hbefore,
    isFinite_lastFactor_obey hzero now.before (.cycle input) hbefore⟩
  · rw [← hkept, stepAsking_recorded, List.nil_append, lowSpeedQuestions_singleton]
  · have hlatest : (c₀.run commands).lowSpeed.lastFactor
        = latestFactor 0.0 (c₀.recentCycles commands) := lastFactor_run h commands
    rw [← hlatest, ← openCycle_lowSpeed]
    rfl
  · rw [← hfactor hactive]
    exact now.before.step_shifted hactive
  · rw [RunCycle.after, step_lowSpeed, hidle]
    rfl

/-- A law that counts on from the factor it is told, and has no answer above 25 m/s: over an idle
cycle, one with a fault, one without an answer, and a reset. -/
theorem low_speed_factor_threaded_of_counting :
    let counting : LowSpeedLaw Float := fun _ inputs =>
      if inputs.speed < 25.0 then inputs.previousFactor + 1.0 else 0.0 / 0.0
    let capabilities : Capabilities Float := { Capabilities.standard with lowSpeedLaw := counting }
    let c₀ := initial Params.standard capabilities
    let turn : CycleInput Float := CycleInput.turn 20.0 0.001
    let commands : List (Command Float) :=
      [.cycle turn, .cycle { turn with active := false }, .cycle (.turn 20.0 (0.0 / 0.0)),
        .cycle (.turn 30.0 0.001), .cycle turn, .reset]
    create Params.standard capabilities = .ok c₀ ∧
      (c₀.cycles commands).map (·.report.modelFault) = [false, false, true, false, false] ∧
      ((c₀.runAsking counting.recorded commands).run []).2.map (·.inputs.previousFactor)
        = [0.0, 1.0, 2.0, 0.0] ∧
      (c₀.cycles commands).map (·.report.lowSpeedFactor) = [1.0, 1.0, 2.0, 0.0, 1.0] ∧
      (⟨c₀.run commands, turn⟩ : RunCycle Float).after.lowSpeed.lastFactor = 1.0 := by
  intro counting capabilities c₀ turn commands
  have hcreate : create Params.standard capabilities = .ok c₀ :=
    create_standard Params.validate_standard rfl
  obtain ⟨hrun, hcycles⟩ := low_speed_factor_threaded hcreate commands
  obtain ⟨-, -, hactive, -⟩ := hcycles turn
  refine ⟨hcreate, by decide +kernel, ?_, by decide +kernel, ?_⟩
  · have hasked : ((c₀.runAsking counting.recorded commands).run []).2
        = lowSpeedQuestions (c₀.trace commands) := congrArg Prod.snd hrun
    rw [hasked]
    decide +kernel
  · rw [(hactive rfl).1]
    decide +kernel

end Controller

end LateralTorque
