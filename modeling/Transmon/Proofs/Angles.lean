import Mathlib.Tactic.FieldSimp
import Mathlib.Tactic.Ring
import Transmon.Ansatz.Circuit
import Transmon.Proofs.Basic

/-!
# Angles of a schedule

The angles of a schedule stand in pairs, one for each layer. A ramp does not follow the pairs: a layer writes at its own
number and at the next, and so over what the layer before wrote last.
-/

namespace Transmon.Ansatz

theorem getElem?_phases (xs : List Rat) (i : Nat) : (Angles.phases xs)[i]? = xs[2 * i]? := by
  induction xs using Angles.phases.induct generalizing i with
  | case1 => rfl
  | case2 g => cases i <;> simp [Angles.phases, Nat.mul_succ]
  | case3 g b xs ih => cases i <;> simp [Angles.phases, ih, Nat.mul_succ]

theorem getElem?_mixings (xs : List Rat) (i : Nat) : (Angles.mixings xs)[i]? = xs[2 * i + 1]? := by
  induction xs using Angles.mixings.induct generalizing i with
  | case1 => rfl
  | case2 g => simp [Angles.mixings]
  | case3 g b xs ih => cases i <;> simp [Angles.mixings, ih, Nat.mul_succ]

namespace Schedule

variable {s : Schedule Rat}

theorem getElem?_withLayers (paired : s.angles.values.length = 2 * s.layers) (p i : Nat) :
    (s.withLayers p).angles.values[i]? = if i < 2 * p then some (s.angles.values[i]?.getD 0) else none := by
  have zero : (Quantity.zero : Rat) = 0 := rfl
  rcases lt_trichotomy p s.layers with fewer | rfl | more
  · by_cases inside : i < 2 * p
    · have held : i % s.angles.values.length = i := Nat.mod_eq_of_lt (by omega)
      simp [withLayers, fewer, Angles.resized, inside, zero, held]
    · simp [withLayers, fewer, Angles.resized, inside]
  · grind [withLayers]
  · simp only [withLayers, more, more.not_gt, Angles.padded, zero]
    grind

/-- After `n` layers the rising line stands at the first `n` angles. Of the falling line only the last angle is left,
since each layer writes over that of the layer before. -/
theorem foldlM_rampStep {a : Angles Rat} (exact : a.isWhole = false) {p n : Nat} (fits : n ≤ p)
    (paired : a.values.length = 2 * p) (beta gamma : Rat) :
    ∃ b, (List.range n).foldlM (rampStep (beta, gamma) p) a = .ok b ∧ b.isWhole = false ∧ b.values.length = 2 * p ∧
      ∀ i, b.values[i]? = if i < n then some ((i + 1) / p * gamma)
        else if i = n ∧ 0 < n then some ((1 - (i - 1) / p) * beta) else a.values[i]? := by
  induction n with
  | zero => exact ⟨a, by simp, exact, paired, by simp⟩
  | succ n ih =>
    obtain ⟨b, run, whole, length, held⟩ := ih (by omega)
    have nonzero : p ≠ 0 := by omega
    have inside : n + 1 < b.values.length := by omega
    have step : rampStep (beta, gamma) p b n =
        .ok ⟨(b.values.set n ((n + 1) / p * gamma)).set (n + 1) ((1 - n / p) * beta), false⟩ := by
      simp [rampStep, Quantity.over?, Quantity.ofInt, nonzero, require, Angles.write, whole, inside,
        Nat.lt_of_succ_lt inside]
    refine ⟨_, by simpa [List.range_succ, run] using step, rfl, by simpa using length, fun i => ?_⟩
    rcases lt_trichotomy i (n + 1) with before | rfl | after
    · rcases eq_or_ne i n with rfl | other
      · simp [Nat.lt_of_succ_lt inside]
      · have below : i < n := by omega
        simp [before, before.ne', below, below.ne', held]
    · simp [inside]
    · have beyond : n < i := by omega
      simp [after.ne, after.ne', after.not_gt, beyond.ne, beyond.ne', beyond.not_gt, held]

/-- A ramp writes its rising line over the whole first half of the angles, those of mixing included. Of its falling line
it leaves one angle, and the rest is as it was. -/
theorem ramped_withLayers (paired : s.angles.values.length = 2 * s.layers) (exact : s.angles.isWhole = false)
    {p : Nat} (positive : 0 < p) (beta gamma : Rat) :
    ∃ r, (s.withLayers p).ramped beta gamma = .ok r ∧ r.layers = p ∧ ∀ i,
      r.gammas[i]? = r.angles.values[2 * i]? ∧ r.betas[i]? = r.angles.values[2 * i + 1]? ∧
      r.angles.values[i]? = if i < p then some ((i + 1) / p * gamma) else if i = p then some (beta / p)
        else if i < 2 * p then some (s.angles.values[i]?.getD 0) else none := by
  have layers : (s.withLayers p).layers = p := by grind [withLayers]
  have length : (s.withLayers p).angles.values.length = 2 * p := by grind [withLayers, Angles.resized, Angles.padded]
  have inexact : (s.withLayers p).angles.isWhole = false := by grind [withLayers, Angles.resized, Angles.padded]
  obtain ⟨b, run, -, -, held⟩ := foldlM_rampStep inexact le_rfl length beta gamma
  have last : (1 - ((p : Rat) - 1) / p) * beta = beta / p := by
    have nonzero : (p : Rat) ≠ 0 := by exact_mod_cast positive.ne'
    field_simp
    simp
  refine ⟨⟨p, b, true⟩, by simp [ramped, layers, run], rfl, fun i => ⟨getElem?_phases _ i, getElem?_mixings _ i, ?_⟩⟩
  rw [held, getElem?_withLayers paired]
  grind

theorem ramped_two_layers : ∃ r, ((⟨2, .zeros 2, false⟩ : Schedule Rat).withLayers 2).ramped 1 (1 / 2) = .ok r ∧
    r.betas[0]? = some (1 / 2) := by
  obtain ⟨r, run, -, held⟩ := ramped_withLayers (s := ⟨2, .zeros 2, false⟩) rfl rfl (p := 2) (by decide) 1 (1 / 2)
  exact ⟨r, run, by rw [(held 0).2.1, (held 1).2.2]; norm_num⟩

end Schedule

end Transmon.Ansatz
