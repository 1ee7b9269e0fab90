import LateralTorque.Proofs.Overrides
import LateralTorque.Proofs.Product

/-!
# Usable tunings

The control laws divide by the factor of the tuning and add its offset and friction, so they want
finite numbers and a positive factor.  Three checks guard the tuning: that of the parameters, that
of the stored overrides and that of a live estimate.  Each lets something through.

This is about double precision and every run of a controller that was accepted, with any source of
tuning.  A host's own source may hand over anything, which counts as a way to spoil the tuning like
the others.

* `Tuning.Usable` — a positive factor, and finite factor, offset and friction;
* `usable_nextTuning_iff`, `usable_obey_iff` — what keeps a usable tuning usable, for a cycle and
  for any command;
* `tuning_usable_iff` — when the tuning is usable throughout a run;
* `infinite_estimate_accepted`, `vanishing_override_accepted` — two ways in which it is not: an
  estimated factor that is infinite, and a stored one so small that a hundredth of it is zero.

What a controller does under a tuning that is not usable is left to the results on faults and on the
output.
-/

set_option autoImplicit false

namespace LateralTorque

/-- A tuning whose numbers are finite and whose factor is positive. -/
structure Tuning.Usable (t : Tuning Float) : Prop where
  positive : 0 < t.accelFactor
  finiteFactor : t.accelFactor.isFinite = true
  finiteOffset : t.accelOffset.isFinite = true
  finiteFriction : t.friction.isFinite = true

/-! ## What gets past the checks -/

/-- A look at the source in cycle `tick` puts an unusable tuning in use: a stored factor, positive
in percent, vanishes when it is scaled, or the host's own source hands an unusable tuning over. -/
def TuningSource.Spoils (source : TuningSource) (tick : Nat) (current : Tuning Float) : Prop :=
  match source with
  | .fixed => False
  | .keyed store => Tuning.refreshPeriod ∣ tick ∧
      ∃ factor friction : Float, Tuning.Overrides store factor friction ∧ ¬ 0 < factor * 0.01
  | .hosted refresh => ∃ tuning, refresh tick current = some tuning ∧ ¬ tuning.Usable

/-- A command puts an unusable tuning in use: a cycle through its look at the source, and a live
estimate where its factor is infinite. -/
def Controller.Spoils (c : Controller Float) : Command Float → Prop
  | .cycle _ => c.capabilities.tuningSource.Spoils (c.tick + 1) c.tuning
  | .retune factor offset friction => 0 < factor ∧ factor.isFinite = false ∧
      offset.isFinite = true ∧ friction.isFinite = true
  | .reset | .supply _ => False

namespace Tuning

variable {t : Tuning Float} {store : KeyValueStore} {factor friction : Float}

/-- Overrides leave a tuning usable unless the factor vanishes when it is scaled. -/
theorem usable_overriddenBy_iff (ht : t.Usable) (h : Overrides store factor friction) :
    (t.overriddenBy factor friction).Usable ↔ 0 < factor * 0.01 := by
  obtain ⟨_, _, _, _, _, hfactor⟩ := h.holdsFactor
  obtain ⟨_, _, _, _, _, hfriction⟩ := h.holdsFriction
  exact ⟨fun husable => husable.positive, fun hpositive =>
    { positive := hpositive
      finiteFactor := Double.isFinite_percent hfactor
      finiteOffset := ht.finiteOffset
      finiteFriction := Double.isFinite_percent hfriction }⟩

/-- Overrides that agree with a usable tuning have a factor that does not vanish. -/
theorem percent_pos_of_agrees (ht : t.Usable)
    (h : (t.overriddenBy factor friction).agrees t = true) : 0 < factor * 0.01 := by
  obtain ⟨hfactor, -⟩ := agrees_iff.mp h
  exact Double.pos_of_beq hfactor ht.positive

theorem usable_estimated_iff (ht : t.Usable) (factor offset friction : Float) :
    (t.estimated factor offset friction).Usable ↔
      ¬ (0 < factor ∧ factor.isFinite = false ∧ offset.isFinite = true ∧
        friction.isFinite = true) := by
  unfold estimated
  split
  · rename_i hrefused
    refine ⟨fun _ haccepted => ?_, fun _ => ht⟩
    obtain ⟨hpositive, -, hoffset, hfriction⟩ := haccepted
    rcases hrefused with hsign | hflaw | hflaw
    · exact hsign hpositive
    · exact absurd hoffset (by simpa [Scalar.isFinite] using hflaw)
    · exact absurd hfriction (by simpa [Scalar.isFinite] using hflaw)
  · rename_i haccepted
    simp only [not_or, Decidable.not_not, Bool.not_eq_true', Bool.not_eq_false] at haccepted
    obtain ⟨hpositive, hoffset, hfriction⟩ := haccepted
    constructor
    · intro husable hinfinite
      exact absurd husable.finiteFactor (by simp [hinfinite.2.1])
    · intro hfinite
      have hfactor : factor.isFinite = true := by
        by_contra hinfinite
        exact hfinite ⟨hpositive, by simpa using hinfinite, hoffset, hfriction⟩
      exact ⟨hpositive, hfactor, hoffset, hfriction⟩

end Tuning

/-! ## Runs -/

namespace Controller

variable {c : Controller Float}

/-- **A cycle keeps a usable tuning usable** unless its look at the source spoils it. -/
theorem usable_nextTuning_iff (h : c.tuning.Usable) :
    c.nextTuning.Usable ↔
      ¬ c.capabilities.tuningSource.Spoils (c.tick + 1) c.tuning := by
  cases hsource : c.capabilities.tuningSource with
  | fixed =>
    have hkept : c.nextTuning = c.tuning := by simp [nextTuning, hsource, TuningSource.refresh]
    simpa [hkept, TuningSource.Spoils] using h
  | hosted refresh =>
    cases hrefresh : refresh (c.tick + 1) c.tuning with
    | none =>
      have hkept : c.nextTuning = c.tuning := by
        simp [nextTuning, hsource, TuningSource.refresh, hrefresh]
      simpa [hkept, TuningSource.Spoils, hrefresh] using h
    | some tuning =>
      have hnext : c.nextTuning = tuning := by
        simp [nextTuning, hsource, TuningSource.refresh, hrefresh]
      simp [hnext, TuningSource.Spoils, hrefresh]
  | keyed store =>
    by_cases hdue : Tuning.refreshPeriod ∣ c.tick + 1
    · rcases Tuning.overrides_cases Float store with ⟨factor, friction, hread⟩ | hread | hread
      · -- A store has one reading, so the factor that it spoils with is the one read here.
        have hspoils : (TuningSource.keyed store).Spoils (c.tick + 1) c.tuning ↔
            ¬ 0 < factor * 0.01 := by
          constructor
          · rintro ⟨-, other, _, hother, hvanishes⟩
            rwa [KeyValueStore.holds_unique hread.holdsFactor hother.holdsFactor]
          · intro hvanishes
            exact ⟨hdue, factor, friction, hread, hvanishes⟩
        rw [hspoils, not_not]
        rcases nextTuning_of_overrides hsource hdue hread with hnext | ⟨hagrees, hnext⟩ <;>
          rw [hnext]
        · exact Tuning.usable_overriddenBy_iff h hread
        · exact ⟨fun _ => Tuning.percent_pos_of_agrees h hagrees, fun _ => h⟩
      · rw [nextTuning_of_unsets hsource hdue hread]
        constructor
        · rintro - ⟨-, _, _, hother, -⟩
          exact hother.not_unsets hread
        · intro _
          exact ⟨h.positive, h.finiteFactor, h.finiteOffset, h.finiteFriction⟩
      · rw [nextTuning_of_unreadable hsource hdue hread]
        constructor
        · rintro - ⟨-, _, _, hother, -⟩
          exact hother.not_unreadable hread
        · exact fun _ => h
    · rw [nextTuning_of_not_dvd hsource hdue]
      exact ⟨fun _ hspoils => hdue hspoils.1, fun _ => h⟩

/-- **A command keeps a usable tuning usable** unless it spoils it. -/
theorem usable_obey_iff (h : c.tuning.Usable) (command : Command Float) :
    (c.obey command).tuning.Usable ↔ ¬ c.Spoils command := by
  cases command with
  | cycle input =>
    rw [obey, step_tuning]
    exact usable_nextTuning_iff h
  | reset | supply _ => exact ⟨fun _ hspoils => hspoils, fun _ => h⟩
  | retune factor offset friction =>
    rw [obey_retune_eq]
    exact Tuning.usable_estimated_iff h factor offset friction

/-- **The tuning is usable throughout a run** exactly where the numbers of the parameters' tuning are
finite and no command of the run spoils the tuning that it finds. -/
theorem tuning_usable_iff {params : Params Float} {capabilities : Capabilities Float}
    {c₀ : Controller Float} (h : create params capabilities = .ok c₀)
    (commands : List (Command Float)) :
    (∀ before, before <+: commands → (c₀.run before).tuning.Usable) ↔
      (params.tuning.accelFactor.isFinite = true ∧ params.tuning.accelOffset.isFinite = true ∧
        params.tuning.friction.isFinite = true) ∧
      ∀ before command, before ++ [command] <+: commands → ¬ (c₀.run before).Spoils command := by
  obtain ⟨hvalid, -, hc⟩ := create_eq_ok_iff.mp h
  have htuning : c₀.tuning = params.tuning := by rw [hc]; rfl
  constructor
  · intro husable
    have hstart : params.tuning.Usable := htuning ▸ husable [] List.nil_prefix
    refine ⟨⟨hstart.finiteFactor, hstart.finiteOffset, hstart.finiteFriction⟩, ?_⟩
    intro before command hprefix
    have hbefore := husable before ((List.prefix_append before [command]).trans hprefix)
    have hafter := husable _ hprefix
    rw [run_concat] at hafter
    exact (usable_obey_iff hbefore command).mp hafter
  · rintro ⟨⟨hfactor, hoffset, hfriction⟩, hspoils⟩ before
    -- The parameters' own check gives the sign; after that one command at a time.
    induction before using List.reverseRecOn with
    | nil =>
      intro _
      have hpositive := (Params.validate_eq_ok_iff.mp hvalid).2.2.2.1
      rw [run, List.foldl_nil, htuning]
      exact ⟨hpositive, hfactor, hoffset, hfriction⟩
    | append_singleton before command ih =>
      intro hprefix
      have hbefore := ih ((List.prefix_append before [command]).trans hprefix)
      rw [run_concat]
      exact (usable_obey_iff hbefore command).mpr (hspoils before command hprefix)

/-- Overrides that come in force in cycle 250, a live estimate on top of them and a reset. -/
theorem tuning_usable_over_overrides :
    let capabilities : Capabilities Float :=
      { Capabilities.standard with tuningSource := .keyed (overrideStore " 300" "12\n") }
    let c₀ := initial Params.standard capabilities
    let idle : CycleInput Float := { CycleInput.turn 20.0 0.0 with active := false }
    let commands : List (Command Float) :=
      List.replicate 250 (.cycle idle) ++ [.retune 2.0 0.0 0.2, .reset]
    create Params.standard capabilities = .ok c₀ ∧
      ∀ before, before <+: commands → (c₀.run before).tuning.Usable := by
  intro capabilities c₀ idle commands
  have hcreate : create Params.standard capabilities = .ok c₀ :=
    create_standard Params.validate_standard rfl
  refine ⟨hcreate, (tuning_usable_iff hcreate commands).mpr ⟨by decide +kernel, ?_⟩⟩
  intro before command hprefix
  have hmem : command ∈ commands := hprefix.subset (by simp)
  have hsource : (c₀.run before).capabilities.tuningSource
      = .keyed (overrideStore " 300" "12\n") := by
    refine run_induction_of_mem
      (P := fun d => d.capabilities.tuningSource = .keyed (overrideStore " 300" "12\n"))
      (fun d other hother hd => ?_) rfl
    have hcommand : other ∈ commands :=
      hprefix.subset (List.mem_append_left [command] hother)
    simp only [commands, List.mem_append, List.mem_replicate, List.mem_cons, List.not_mem_nil,
      or_false] at hcommand
    rcases hcommand with ⟨-, rfl⟩ | rfl | rfl
    · rw [obey, step_capabilities, hd]
    · rw [obey_retune_eq, hd]
    · exact hd
  simp only [commands, List.mem_append, List.mem_replicate, List.mem_cons, List.not_mem_nil,
    or_false] at hmem
  rcases hmem with ⟨-, rfl⟩ | rfl | rfl
  · rw [Spoils, hsource]
    rintro ⟨-, factor, friction, hoverrides, hvanishes⟩
    obtain rfl := KeyValueStore.holds_unique overrides_overrideStore.holdsFactor
      hoverrides.holdsFactor
    exact hvanishes (by decide +kernel)
  · exact fun hspoils => absurd hspoils.2.1 (by decide +kernel)
  · exact fun hspoils => hspoils

/-- An infinite factor is positive, so a live estimate with one is accepted. -/
theorem infinite_estimate_accepted :
    let c₀ : Controller Float := initial Params.standard Capabilities.standard
    let c := c₀.run [.retune (1.0 / 0.0) 0.0 0.1]
    create Params.standard Capabilities.standard = .ok c₀ ∧
      c₀.retune (1.0 / 0.0) 0.0 0.1 = .ok c ∧ ¬ c.tuning.Usable := by
  intro c₀ c
  have hcreate : create Params.standard Capabilities.standard = .ok c₀ :=
    create_standard Params.validate_standard rfl
  rcases c₀.retune_cases (1.0 / 0.0) 0.0 0.1 with ⟨-, hkept⟩ | ⟨haccepted, -⟩
  · -- Refused, the estimate would have left the factor as it was.
    exact absurd (congrArg (·.tuning.accelFactor) hkept) (by decide +kernel)
  · exact ⟨hcreate, haccepted, fun husable => absurd husable.finiteFactor (by decide +kernel)⟩

/-- A stored factor is tested before it is scaled, so one that is tiny becomes zero. -/
theorem vanishing_override_accepted :
    let capabilities : Capabilities Float :=
      { Capabilities.standard with tuningSource := .keyed (overrideStore "1e-322" "12") }
    let idle : CycleInput Float := { CycleInput.turn 20.0 0.0 with active := false }
    let c := (initial Params.standard capabilities).run (List.replicate 250 (.cycle idle))
    create Params.standard capabilities = .ok (initial Params.standard capabilities) ∧
      c.tuning.overridden = true ∧ c.tuning.accelFactor = 0 :=
  ⟨create_standard Params.validate_standard rfl, by decide +kernel,
    by decide +kernel⟩

end Controller

end LateralTorque
