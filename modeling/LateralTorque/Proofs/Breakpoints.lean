import Mathlib
import LateralTorque.Proofs.Curve

/-!
# Curves at their breakpoints

A curve whose breakpoints do not descend is known everywhere: it is held before its first and after
its last point, straight between two neighbours, and has the value of a point at its breakpoint.
Where a breakpoint is repeated the curve jumps, and there are several values to take.  It takes the
first of them, except at its far end.

Arithmetic is exact, the lists have any lengths, and a breakpoint may be repeated any number of
times.  That the breakpoints do not descend is what the controller checks of its gain schedules, and
what holds of the tables that it brings along; other curves are left out here, and `CurveOrder` has
the bounds that hold of them too.

* `Joins` — a curve away from its breakpoints;
* `FirstAt`, `LastAt`, `EndsAt` — the points before and after a jump, and the far end;
* `interpPoints_of_segment`, `interpPoints_of_end` — the value on a segment and at the far end;
* `interp_right_value_iff` — the whole curve, and when a jump is taken to its right hand value;
* `step_not_taken_at_breakpoint` — a step inside a curve, where it is not.
-/

set_option autoImplicit false

namespace LateralTorque

namespace Exact

/-! ## Curves on paper -/

/-- The breakpoints do not descend; they may be repeated. -/
def NonDescending (points : List (ℝ × ℝ)) : Prop := points.Pairwise fun p q => p.1 ≤ q.1

/-- A curve through points away from their breakpoints: the first value before them, the last one
after them, and the straight line through two neighbours between these. -/
structure Joins (points : List (ℝ × ℝ)) (x y : ℝ) : Prop where
  before : ∀ p, points.head? = some p → x < p.1 → y = p.2
  after : ∀ p, points.getLast? = some p → p.1 < x → y = p.2
  between : ∀ p q, [p, q] <:+: points → p.1 < x → x < q.1 →
    y = p.2 + (x - p.1) / (q.1 - p.1) * (q.2 - p.2)

/-- The point with the first index that carries a breakpoint. -/
def FirstAt (points : List (ℝ × ℝ)) (x : ℝ) (p : ℝ × ℝ) : Prop :=
  ∃ earlier later, points = earlier ++ p :: later ∧ p.1 = x ∧ ∀ q ∈ earlier, q.1 ≠ x

/-- The point with the last index that carries a breakpoint. -/
def LastAt (points : List (ℝ × ℝ)) (x : ℝ) (p : ℝ × ℝ) : Prop :=
  ∃ earlier later, points = earlier ++ p :: later ∧ p.1 = x ∧ ∀ q ∈ later, q.1 ≠ x

/-- The far end of a curve that has a width: no breakpoint lies beyond `x`, and one lies before
it. -/
def EndsAt (points : List (ℝ × ℝ)) (x : ℝ) : Prop :=
  (∃ p ∈ points, p.1 < x) ∧ ∀ p ∈ points, p.1 ≤ x

namespace NonDescending

variable {points below above : List (ℝ × ℝ)} {p q : ℝ × ℝ}

theorem head_le {first : ℝ × ℝ} (h : NonDescending points) (hfirst : points.head? = some first)
    (hp : p ∈ points) : first.1 ≤ p.1 := by
  have hrefl : Std.Refl fun a b : ℝ × ℝ => a.1 ≤ b.1 := ⟨fun a => le_rfl⟩
  have hhead := (List.head_eq_iff_head?_eq_some (List.ne_nil_of_mem hp)).mpr hfirst
  exact hhead ▸ List.Pairwise.rel_head h hp

theorem le_getLast {last : ℝ × ℝ} (h : NonDescending points) (hlast : points.getLast? = some last)
    (hp : p ∈ points) : p.1 ≤ last.1 := by
  have hrefl : Std.Refl fun a b : ℝ × ℝ => a.1 ≤ b.1 := ⟨fun a => le_rfl⟩
  have hend := (List.getLast_eq_iff_getLast?_eq_some (List.ne_nil_of_mem hp)).mpr hlast
  exact hend ▸ List.Pairwise.rel_getLast h hp

theorem le_of_split (h : NonDescending (below ++ p :: above)) :
    (∀ a ∈ below, a.1 ≤ p.1) ∧ ∀ b ∈ above, p.1 ≤ b.1 := by
  obtain ⟨-, habove, hcross⟩ := List.pairwise_append.mp h
  refine ⟨fun a ha => hcross a ha p List.mem_cons_self, fun b hb => ?_⟩
  exact List.rel_of_pairwise_cons habove hb

end NonDescending

/-! ## The value on a segment -/

theorem linearMap_eq (s₀ s₁ t₀ t₁ x : ℝ) :
    linearMap s₀ s₁ t₀ t₁ x = t₀ + (x - s₀) / (s₁ - s₀) * (t₁ - t₀) := by
  rw [linearMap, mul_div_right_comm]

/-- A straight line ends in its right hand point. -/
theorem linearMap_right {s₀ s₁ : ℝ} (h : s₀ < s₁) (t₀ t₁ : ℝ) : linearMap s₀ s₁ t₀ t₁ s₁ = t₁ := by
  rw [linearMap_eq, div_self (sub_pos.mpr h).ne', one_mul, add_sub_cancel]

variable {x : ℝ} {points below above : List (ℝ × ℝ)} {p q : ℝ × ℝ}

/-- Points below `x` are passed over. -/
theorem interpAfter_append (hbelow : ∀ a ∈ below, a.1 < x) (before : ℝ × ℝ) :
    interpAfter x before (below ++ above) = interpAfter x (below.getLast?.getD before) above := by
  induction below generalizing before with
  | nil => rfl
  | cons a rest ih =>
    obtain ⟨ha, hrest⟩ := List.forall_mem_cons.mp hbelow
    rw [List.cons_append, interpAfter, if_neg (not_le.mpr ha), ih hrest, List.getLast?_cons,
      Option.getD_some]

/-- A segment with `x` in it has a width, so that the curve is straight there. -/
theorem interpAfter_of_segment (hp : p.1 < x) (hq : x ≤ q.1) :
    interpAfter x p (q :: above) = linearMap p.1 q.1 p.2 q.2 x := by
  have hwidth : ¬ (q.1 == p.1) = true := by
    rw [beq_iff]
    exact (hp.trans_le hq).ne'
  rw [interpAfter, if_pos hq, if_neg hwidth]

theorem interpPoints_of_le (hfirst : points.head? = some p) (h : x ≤ p.1) :
    interpPoints x points = p.2 := by
  cases points with
  | nil => cases hfirst
  | cons a rest =>
    cases hfirst
    rw [interpPoints]
    exact if_pos h

/-- At its far end and beyond it a curve has its last value. -/
theorem interpPoints_of_end {first last : ℝ × ℝ} (hfirst : points.head? = some first)
    (hlast : points.getLast? = some last) (hx : first.1 < x) (h : last.1 ≤ x) :
    interpPoints x points = last.2 := by
  cases points with
  | nil => cases hfirst
  | cons a rest =>
    cases hfirst
    rw [List.getLast?_cons] at hlast
    cases hlast
    rw [interpPoints]
    simp only [if_neg (not_le.mpr hx), if_pos h]

/-- **The value on a segment**, its right hand point included, before the far end of the curve. -/
theorem interpPoints_of_segment (h : NonDescending points) (hsegment : [p, q] <:+: points)
    (hp : p.1 < x) (hq : x ≤ q.1) (hmore : ∃ r ∈ points, x < r.1) :
    interpPoints x points = linearMap p.1 q.1 p.2 q.2 x := by
  obtain ⟨below, above, rfl⟩ := hsegment
  rw [List.append_assoc, List.cons_append, List.cons_append, List.nil_append] at h hmore ⊢
  have hbelow : ∀ a ∈ below, a.1 < x := fun a ha => ((h.le_of_split).1 a ha).trans_lt hp
  have hlast : ∀ last, (below ++ p :: q :: above).getLast? = some last → ¬ last.1 ≤ x := by
    intro last hlast
    obtain ⟨r, hr, hbeyond⟩ := hmore
    exact not_le.mpr (hbeyond.trans_le (h.le_getLast hlast hr))
  cases below with
  | nil =>
    rw [List.nil_append] at hlast ⊢
    have hend := hlast _ (List.getLast?_cons)
    rw [interpPoints]
    simp only [if_neg (not_le.mpr hp), if_neg hend]
    exact interpAfter_of_segment hp hq
  | cons first rest =>
    obtain ⟨hfirst, hrest⟩ := List.forall_mem_cons.mp hbelow
    rw [List.cons_append] at hlast ⊢
    have hend := hlast _ (List.getLast?_cons)
    rw [interpPoints]
    simp only [if_neg (not_le.mpr hfirst), if_neg hend]
    have hpassed : ∀ a ∈ rest ++ [p], a.1 < x := by
      intro a ha
      rcases List.mem_append.mp ha with hmem | hsame
      · exact hrest a hmem
      · rwa [List.mem_singleton.mp hsame]
    calc interpAfter x first (rest ++ p :: q :: above)
        = interpAfter x first ((rest ++ [p]) ++ q :: above) := by simp
      _ = interpAfter x p (q :: above) := by rw [interpAfter_append hpassed]; simp
      _ = linearMap p.1 q.1 p.2 q.2 x := interpAfter_of_segment hp hq

/-! ## The whole curve -/

theorem joins_interpPoints (h : NonDescending points) (x : ℝ) :
    Joins points x (interpPoints x points) where
  before p hfirst hx := interpPoints_of_le hfirst hx.le
  after p hlast hx := by
    cases points with
    | nil => cases hlast
    | cons first rest =>
      have hfirst : first.1 ≤ p.1 := h.le_getLast hlast List.mem_cons_self
      exact interpPoints_of_end rfl hlast (hfirst.trans_lt hx) hx.le
  between p q hsegment hp hq := by
    have hmem : q ∈ points := hsegment.subset (by simp)
    rw [interpPoints_of_segment h hsegment hp hq.le ⟨q, hmem, hq⟩, linearMap_eq]

/-- The far end of a curve has the value of its last point. -/
theorem interpPoints_of_endsAt (h : NonDescending points) (hend : EndsAt points x)
    (hp : LastAt points x p) : interpPoints x points = p.2 := by
  obtain ⟨⟨a, ha, hax⟩, hle⟩ := hend
  obtain ⟨earlier, later, rfl, rfl, hlater⟩ := hp
  have hnone : later = [] := by
    rw [List.eq_nil_iff_forall_not_mem]
    intro q hq
    have hsame : q.1 = p.1 :=
      le_antisymm (hle q (by simp [hq])) ((h.le_of_split).2 q hq)
    exact hlater q hq hsame
  subst hnone
  have hlast : (earlier ++ [p]).getLast? = some p := by simp
  cases hfirst : (earlier ++ [p]).head? with
  | none => simp at hfirst
  | some first =>
    exact interpPoints_of_end hfirst hlast ((h.head_le hfirst ha).trans_lt hax) le_rfl

/-- Everywhere else a curve has the value of the first point at a breakpoint. -/
theorem interpPoints_of_not_endsAt (h : NonDescending points) (hend : ¬ EndsAt points x)
    (hp : FirstAt points x p) : interpPoints x points = p.2 := by
  obtain ⟨earlier, later, rfl, rfl, hearlier⟩ := hp
  have hbelow : ∀ a ∈ earlier, a.1 < p.1 := fun a ha =>
    lt_of_le_of_ne ((h.le_of_split).1 a ha) (hearlier a ha)
  obtain rfl | ⟨below, before, rfl⟩ := earlier.eq_nil_or_concat
  · exact interpPoints_of_le rfl le_rfl
  · -- A point lies before the breakpoint, so one lies beyond it.
    rw [List.concat_eq_append] at h hend hbelow ⊢
    have hbefore : before.1 < p.1 := hbelow before (by simp)
    have hmore : ∃ r ∈ below ++ [before] ++ p :: later, p.1 < r.1 := by
      by_contra hnone
      push Not at hnone
      exact hend ⟨⟨before, by simp, hbefore⟩, hnone⟩
    have hsegment : [before, p] <:+: below ++ [before] ++ p :: later := ⟨below, later, by simp⟩
    rw [interpPoints_of_segment h hsegment hbefore le_rfl hmore, linearMap_right hbefore]

/-- Two lists beyond whose common part something is added still have the same points. -/
theorem zip_take_append (breakpoints values extra : List ℝ) :
    let n := min breakpoints.length values.length
    (breakpoints.take n ++ extra).zip (values.take n) = breakpoints.zip values ∧
      (breakpoints.take n).zip (values.take n ++ extra) = breakpoints.zip values := by
  intro n
  have hbreakpoints : (breakpoints.take n).length = n := by
    rw [List.length_take]
    omega
  have hvalues : (values.take n).length = n := by
    rw [List.length_take]
    omega
  have hlength : (breakpoints.take n).length = (values.take n).length := by
    rw [hbreakpoints, hvalues]
  have hcommon : breakpoints.zip values = (breakpoints.take n).zip (values.take n) :=
    List.zip_eq_zip_take_min
  rw [hcommon]
  constructor
  · have hextra : (breakpoints.take n ++ extra).zip (values.take n ++ [])
        = (breakpoints.take n).zip (values.take n) ++ extra.zip [] := List.zip_append hlength
    rwa [List.append_nil, List.zip_nil_right, List.append_nil] at hextra
  · have hextra : (breakpoints.take n ++ []).zip (values.take n ++ extra)
        = (breakpoints.take n).zip (values.take n) ++ [].zip extra := List.zip_append hlength
    rwa [List.append_nil, List.zip_nil_left, List.append_nil] at hextra

end Exact

namespace GainSchedule

open Exact

theorem nonDescending_iff {speeds : List ℝ} :
    nonDescending speeds = true ↔ speeds.Pairwise (· ≤ ·) := by
  rw [← List.isChain_iff_pairwise]
  induction speeds with
  | nil => simp [nonDescending]
  | cons first rest ih =>
    cases rest with
    | nil => simp [nonDescending]
    | cons second rest =>
      rw [nonDescending, Bool.and_eq_true, decide_eq_true_iff, ih, List.isChain_cons_cons]

/-- A schedule can be used where its breakpoints do not descend: steps are allowed. -/
theorem isValid_iff {g : GainSchedule ℝ} : g.isValid = true ↔
    g.speeds ≠ [] ∧ g.speeds.length = g.gains.length ∧
      NonDescending (g.speeds.zip g.gains) := by
  have hpoints : g.speeds.length = g.gains.length →
      (NonDescending (g.speeds.zip g.gains) ↔ g.speeds.Pairwise (· ≤ ·)) := by
    intro hlength
    have hspeeds := List.map_fst_zip hlength.le
    conv_rhs => rw [← hspeeds, List.pairwise_map]
    rfl
  simp only [isValid, all_isFinite, Bool.and_true, Bool.and_eq_true, Bool.not_eq_true',
    List.isEmpty_eq_false_iff, beq_iff_eq, nonDescending_iff, and_assoc]
  refine and_congr_right fun _ => and_congr_right fun hlength => (hpoints hlength).symm

end GainSchedule

namespace Exact

/-- **A curve and its breakpoints.**  A curve whose breakpoints do not descend is held before and
after its points and straight between neighbours, and nothing but its points counts.  At a
breakpoint it has the value of the first point there, and only at its far end that of the last one:
so it takes a jump to its right hand value exactly at the far end, or where there is no jump.
Schedules of gains are accepted with steps in them. -/
theorem interp_right_value_iff {breakpoints values : List ℝ}
    (h : NonDescending (breakpoints.zip values)) (x : ℝ) :
    let points := breakpoints.zip values
    let y := interp x breakpoints values
    Joins points x y ∧
    (∀ left right, FirstAt points x left → LastAt points x right →
      (EndsAt points x → y = right.2) ∧ (¬ EndsAt points x → y = left.2) ∧
      (y = right.2 ↔ left.2 = right.2 ∨ EndsAt points x)) ∧
    (let n := min breakpoints.length values.length
      ∀ extra, interp x (breakpoints.take n ++ extra) (values.take n) = y ∧
        interp x (breakpoints.take n) (values.take n ++ extra) = y) ∧
    ∀ g : GainSchedule ℝ, g.isValid = true ↔ g.speeds ≠ [] ∧ g.speeds.length = g.gains.length ∧
      NonDescending (g.speeds.zip g.gains) := by
  intro points y
  refine ⟨joins_interpPoints h x, fun left right hleft hright => ?_, fun extra => ?_,
    fun g => GainSchedule.isValid_iff⟩
  · have hend : EndsAt points x → y = right.2 := fun hend => interpPoints_of_endsAt h hend hright
    have hinside : ¬ EndsAt points x → y = left.2 := fun hend =>
      interpPoints_of_not_endsAt h hend hleft
    refine ⟨hend, hinside, fun hy => ?_, fun hsame => ?_⟩
    · by_cases hfar : EndsAt points x
      · exact .inr hfar
      · exact .inl ((hinside hfar).symm.trans hy)
    · by_cases hfar : EndsAt points x
      · exact hend hfar
      · rw [hinside hfar]
        exact hsame.resolve_right hfar
  · obtain ⟨hbreakpoints, hvalues⟩ := zip_take_append breakpoints values extra
    exact ⟨congrArg (interpPoints x) hbreakpoints, congrArg (interpPoints x) hvalues⟩

/-- A curve that ends in a jump takes it. -/
theorem interp_right_value_at_end :
    let points : List (ℝ × ℝ) := [(0, 1), (10, 1), (10, 2)]
    NonDescending ([0, 10, 10].zip [1, 1, 2]) ∧ FirstAt points 10 (10, 1) ∧
      LastAt points 10 (10, 2) ∧ interp (10 : ℝ) [0, 10, 10] [1, 1, 2] = 2 := by
  intro points
  have h : NonDescending ([0, 10, 10].zip [1, 1, 2]) := by norm_num [NonDescending]
  have hfirst : FirstAt points 10 (10, 1) := ⟨[(0, 1)], [(10, 2)], rfl, rfl, by norm_num⟩
  have hlast : LastAt points 10 (10, 2) := ⟨[(0, 1), (10, 1)], [], rfl, rfl, by simp⟩
  have hend : EndsAt points 10 := ⟨⟨(0, 1), by simp [points], by norm_num⟩, by norm_num [points]⟩
  exact ⟨h, hfirst, hlast, ((interp_right_value_iff h 10).2.1 _ _ hfirst hlast).1 hend⟩

/-- A step of a schedule is not taken at its breakpoint: the gain is still the one before it. -/
theorem step_not_taken_at_breakpoint :
    let g : GainSchedule ℝ := ⟨[0, 10, 10, 20], [1, 1, 2, 2]⟩
    g.isValid = true ∧ LastAt (g.speeds.zip g.gains) 10 (10, 2) ∧ g.value 10 = 1 ∧
      g.value 10 ≠ 2 := by
  intro g
  have hdescending : NonDescending (g.speeds.zip g.gains) := by norm_num [NonDescending, g]
  have hvalid : g.isValid = true := GainSchedule.isValid_iff.mpr ⟨by simp [g], rfl, hdescending⟩
  have hfirst : FirstAt (g.speeds.zip g.gains) 10 (10, 1) :=
    ⟨[(0, 1)], [(10, 2), (20, 2)], rfl, rfl, by norm_num⟩
  have hlast : LastAt (g.speeds.zip g.gains) 10 (10, 2) :=
    ⟨[(0, 1), (10, 1)], [(20, 2)], rfl, rfl, by norm_num⟩
  have hinside : ¬ EndsAt (g.speeds.zip g.gains) 10 := by
    rintro ⟨-, hle⟩
    have hbeyond := hle (20, 2) (by simp [g])
    norm_num at hbeyond
  have hvalue : g.value 10 = 1 := interpPoints_of_not_endsAt hdescending hinside hfirst
  exact ⟨hvalid, hlast, hvalue, by rw [hvalue]; norm_num⟩

end Exact

end LateralTorque
