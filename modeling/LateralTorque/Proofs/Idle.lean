import LateralTorque.Proofs.Run

/-!
# Idle cycles

While it is not engaged the controller counts its cycles, looks up the tuning and puts out no
torque; all else it remembers.  What it does once it is engaged again depends on its memory alone,
as long as no torque has to be held.  So a run without faults and under a fixed tuning goes the same
way with its idle cycles and without them.

This holds of any number system and from any state.  Faults have to be kept out, since a cycle with
a fault holds the torque before it, which an idle cycle has set to none.  The tuning has to be
fixed, since a store is looked at by the count of cycles, the idle ones included.

* `step_of_idle_eq` — all that an idle cycle changes;
* `memory`, `step_of_memory` — controllers with the same memory do the same in a cycle;
* `idle_cycles_transparent` — the engaged cycles of a run do not depend on the idle ones.

The count in a record tells the idle cycles, and is set aside in the comparison.
-/

set_option autoImplicit false

namespace LateralTorque

variable {α : Type} [Scalar α]

/-- Whether a source of tuning is consulted in cycle `tick`. -/
def TuningSource.isDue {α : Type} (source : TuningSource α) (tick : Nat) : Bool :=
  match source with
  | .fixed => false
  | .keyed _ => tick % Tuning.refreshPeriod == 0
  | .hosted _ => true

theorem TuningSource.refresh_of_not_due {source : TuningSource α} {tick : Nat}
    (h : source.isDue tick = false) (current : Tuning α) : source.refresh tick current = .keep := by
  cases source with
  | fixed => rfl
  | keyed store =>
    have hbetween : ¬ tick % Tuning.refreshPeriod = 0 := by simpa [isDue] using h
    simp [refresh, hbetween]
  | hosted refresh => cases h

/-- Whether a command is a cycle in which the controller is not engaged. -/
def Command.isIdle {α : Type} : Command α → Bool
  | .cycle input => !input.active
  | .reset | .retune .. | .supply _ => false

namespace Controller

theorem nextTuning_of_not_due {c : Controller α}
    (h : c.capabilities.tuningSource.isDue (c.tick + 1) = false) : c.nextTuning = c.tuning := by
  unfold nextTuning
  rw [TuningSource.refresh_of_not_due h]

/-- All that an idle cycle changes. -/
theorem step_of_idle_eq (c : Controller α) {input : CycleInput α} (hidle : input.active = false) :
    (c.step input).1 = { c with
      tick := c.tick + 1
      tuning := c.nextTuning
      output := 0
      report := { c with tick := c.tick + 1, tuning := c.nextTuning }.openRecord } := by
  rw [step_of_idle c hidle, openCycle_eq]

/-! ## Memory -/

/-- A controller without its count, its torque and its record: what it remembers for the cycles to
come. -/
def memory (c : Controller α) : Controller α :=
  { c with tick := 0, output := 0, report := Diagnostics.initial }

/-- What a host sees of a cycle but for its count: the torque and the record. -/
def seen (c : Controller α) : α × Diagnostics α := (c.output, { c.report with tick := 0 })

/-- The same cycle at another count and after another torque. -/
def recounted (c : Controller α) (tick : Nat) (torque : α) : Controller α :=
  { c with tick := tick, output := torque, report := { c.report with tick := tick } }

theorem prepare_recounted (c : Controller α) (tick : Nat) (torque : α) (input : CycleInput α) :
    ((c.recounted tick torque).prepare input).1 = (c.prepare input).1.recounted tick torque ∧
      ((c.recounted tick torque).prepare input).2.1 = (c.prepare input).2.1 := by
  have hlowSpeed : (c.recounted tick torque).nextLowSpeed input = c.nextLowSpeed input := rfl
  have houtcome : (c.recounted tick torque).outcome input = c.outcome input := rfl
  rw [prepare_eq, prepare_eq, prepare_result, prepare_result, hlowSpeed, houtcome]
  exact ⟨rfl, rfl⟩

theorem settle_recounted (c : Controller α) (tick : Nat) (torque : α) (input : CycleInput α)
    (result : Except ModelError (ModelTorques α)) :
    ((c.recounted tick torque).settle input result).1.memory = (c.settle input result).1.memory ∧
      ((c.settle input result).1.report.modelFault = false →
        ((c.recounted tick torque).settle input result).1.seen
          = (c.settle input result).1.seen) := by
  cases result with
  | error cause => exact ⟨rfl, fun h => (by cases h)⟩
  | ok torques =>
    by_cases hfinite : torques.areFinite = true
    · simp only [settle, hfinite, if_true]
      exact ⟨rfl, fun _ => rfl⟩
    · simp only [settle, hfinite]
      exact ⟨rfl, fun h => (by cases h)⟩

variable {c d : Controller α}

theorem eq_of_memory (h : c.memory = d.memory) :
    d = { c with tick := d.tick, output := d.output, report := d.report } := by
  cases c
  cases d
  simp only [memory, mk.injEq, and_true] at h ⊢
  grind

/-- With a fixed tuning, cycles of controllers with one memory start alike. -/
theorem openCycle_of_memory (h : c.memory = d.memory)
    (hfixed : c.capabilities.tuningSource = .fixed) :
    d.openCycle.1 = c.openCycle.1.recounted (d.tick + 1) d.output := by
  have htuning : c.nextTuning = c.tuning := nextTuning_of_not_due (by rw [hfixed]; rfl)
  have hd := eq_of_memory h
  have htuning' : d.nextTuning = d.tuning := nextTuning_of_not_due (by rw [hd, hfixed]; rfl)
  rw [openCycle_eq, openCycle_eq, htuning, htuning', hd]
  rfl

/-- **What a cycle makes of the memory** depends on the memory alone, and so does what a host sees
of an engaged cycle without a fault. -/
theorem step_of_memory (h : c.memory = d.memory)
    (hfixed : c.capabilities.tuningSource = .fixed) (input : CycleInput α) :
    (c.step input).1.memory = (d.step input).1.memory ∧
      (input.active = true → (c.step input).1.report.modelFault = false →
        (c.step input).1.seen = (d.step input).1.seen) := by
  have hopen := openCycle_of_memory h hfixed
  cases hactive : input.active with
  | false =>
    rw [step_of_idle c hactive, step_of_idle d hactive, hopen]
    exact ⟨rfl, fun h => (by cases h)⟩
  | true =>
    obtain ⟨hprepared, hresult⟩ := c.openCycle.1.prepare_recounted (d.tick + 1) d.output input
    rw [step_of_active c hactive, step_of_active d hactive, hopen, hprepared, hresult]
    obtain ⟨hmemory, hseen⟩ := (c.openCycle.1.prepare input).1.settle_recounted (d.tick + 1)
      d.output input (c.openCycle.1.prepare input).2.1
    exact ⟨hmemory.symm, fun _ hsound => (hseen hsound).symm⟩

/-- An idle cycle leaves the memory as it is. -/
theorem memory_step_of_idle (hfixed : c.capabilities.tuningSource = .fixed)
    {input : CycleInput α} (hidle : input.active = false) :
    (c.step input).1.memory = c.memory := by
  have htuning : c.nextTuning = c.tuning := nextTuning_of_not_due (by rw [hfixed]; rfl)
  rw [step_of_idle_eq c hidle, htuning]
  rfl

/-- Between cycles too, the memory depends on the memory alone. -/
theorem memory_obey_of_not_cycle (h : c.memory = d.memory) {command : Command α}
    (hcommand : command.isCycle = false) :
    (c.obey command).memory = (d.obey command).memory := by
  rw [eq_of_memory h]
  cases command with
  | cycle input => cases hcommand
  | reset => rfl
  | retune factor offset friction =>
    rw [obey_retune_eq, obey_retune_eq]
    rfl
  | supply source => rfl

/-- A fixed tuning stays fixed where no other source is supplied. -/
theorem obey_fixed (hfixed : c.capabilities.tuningSource = .fixed) {command : Command α}
    (hsupply : ∀ source, command = .supply source → source = .fixed) :
    (c.obey command).capabilities.tuningSource = .fixed := by
  cases command with
  | cycle input => rwa [obey, step_capabilities]
  | reset => exact hfixed
  | retune factor offset friction =>
    obtain ⟨tuning, hr⟩ := c.obey_retune factor offset friction
    rwa [hr]
  | supply source => exact hsupply source rfl

/-! ## Runs -/

/-- From one memory, a run without faults and the same run without its idle cycles show a host the
same engaged cycles. -/
theorem cycles_of_memory (h : c.memory = d.memory)
    (hfixed : c.capabilities.tuningSource = .fixed) {commands : List (Command α)}
    (hsupply : ∀ source, .supply source ∈ commands → source = .fixed)
    (hsound : ∀ e ∈ c.cycles commands, e.report.active = true → e.report.modelFault = false) :
    ((c.cycles commands).filter (·.report.active)).map seen
      = (d.cycles (commands.filter fun command => !command.isIdle)).map seen := by
  induction commands generalizing c d with
  | nil => rfl
  | cons command rest ih =>
    have hstill := obey_fixed hfixed fun source hs => hsupply source (hs ▸ List.mem_cons_self)
    have hrest : ∀ source, .supply source ∈ rest → source = .fixed :=
      fun source hmem => hsupply source (List.mem_cons_of_mem _ hmem)
    cases hcommand : command.isCycle with
    | false =>
      have hbusy : command.isIdle = false := by
        cases command with
        | cycle input => cases hcommand
        | reset | retune _ _ _ | supply _ => rfl
      rw [cycles_cons_of_not_cycle _ hcommand] at hsound ⊢
      rw [List.filter_cons_of_pos (by simp [hbusy]), cycles_cons_of_not_cycle _ hcommand]
      exact ih (memory_obey_of_not_cycle h hcommand) hstill hrest hsound
    | true =>
      obtain ⟨input, rfl⟩ := Command.eq_cycle_of_isCycle hcommand
      rw [cycles_cycle, List.forall_mem_cons] at hsound
      rw [cycles_cycle]
      cases hactive : input.active with
      | false =>
        -- The cycle is in neither list, and leaves the memory as it was.
        rw [List.filter_cons_of_neg (by simp [hactive]),
          List.filter_cons_of_neg (by simp [Command.isIdle, hactive])]
        exact ih ((memory_step_of_idle hfixed hactive).trans h) hstill hrest hsound.2
      | true =>
        obtain ⟨hmemory, hseen⟩ := step_of_memory h hfixed input
        have hsame := hseen hactive (hsound.1 (by simp [hactive]))
        rw [List.filter_cons_of_pos (by simp [hactive]),
          List.filter_cons_of_pos (by simp [Command.isIdle, hactive]), cycles_cycle, List.map_cons,
          List.map_cons, hsame, ih hmemory hstill hrest hsound.2]

/-- **Idle cycles leave no trace.**  An idle cycle moves the count, the tuning where the source is
consulted, the torque, which becomes none, and the record; and with a fixed tuning, taking the idle
cycles out of a run without faults changes neither torque nor record of any engaged cycle, but for
the count in the record. -/
theorem idle_cycles_transparent :
    (∀ (c : Controller α) (input : CycleInput α), input.active = false →
      let d := (c.step input).1
      d = { c with tick := c.tick + 1, tuning := d.tuning, output := 0, report := d.report } ∧
        (c.capabilities.tuningSource.isDue (c.tick + 1) = false → d.tuning = c.tuning)) ∧
    ∀ (c : Controller α) (commands : List (Command α)),
      c.capabilities.tuningSource = .fixed →
      (∀ source, .supply source ∈ commands → source = .fixed) →
      (∀ d ∈ c.cycles commands, d.report.active = true → d.report.modelFault = false) →
      ((c.cycles commands).filter (·.report.active)).map
          (fun d => (d.output, { d.report with tick := 0 }))
        = (c.cycles (commands.filter fun command => !command.isIdle)).map
          (fun d => (d.output, { d.report with tick := 0 })) := by
  refine ⟨fun c input hidle => ?_, fun c commands hfixed hsupply hsound => ?_⟩
  · rw [step_of_idle_eq c hidle]
    exact ⟨rfl, nextTuning_of_not_due⟩
  · exact cycles_of_memory rfl hfixed hsupply hsound

/-- Two idle cycles between two turns. -/
theorem idle_cycles_transparent_between_turns :
    let c : Controller Float := initial Params.standard Capabilities.standard
    let idle : CycleInput Float := { CycleInput.turn 20.0 0.01 with active := false }
    let commands : List (Command Float) :=
      [.cycle (.turn 20.0 0.001), .cycle idle, .cycle idle, .cycle (.turn 30.0 0.02)]
    c.capabilities.tuningSource = .fixed ∧
      (∀ d ∈ c.cycles commands, d.report.active = true → d.report.modelFault = false) ∧
      (c.step idle).1.tuning = c.tuning ∧
      ((c.cycles commands).filter (·.report.active)).map (·.output)
        = (c.cycles [.cycle (.turn 20.0 0.001), .cycle (.turn 30.0 0.02)]).map (·.output) := by
  intro c idle commands
  have hfixed : c.capabilities.tuningSource = .fixed := rfl
  have hsound : ∀ d ∈ c.cycles commands,
      d.report.active = true → d.report.modelFault = false := by decide +kernel
  obtain ⟨hidle, hruns⟩ := idle_cycles_transparent (α := Float)
  have hsame := hruns c commands hfixed (by simp [commands]) hsound
  refine ⟨hfixed, hsound, (hidle c idle rfl).2 rfl, ?_⟩
  have houtputs := congrArg (List.map Prod.fst) hsame
  rwa [List.map_map, List.map_map] at houtputs

end Controller

end LateralTorque
