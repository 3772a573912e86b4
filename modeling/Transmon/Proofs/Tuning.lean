import Transmon.Compiler.Standard
import Transmon.Proofs.Basic

/-!
# What a new calibration changes

A calibration is stored before a builder is made of it, and the builder before its data are checked. A refusal undoes
neither.
-/

namespace Transmon.Compiler

open Work

variable (compiler : Compiler) (calibration : Named Value)

/-- The builder made of a calibration for the same station and operations. -/
def rebuilt : Outcome Builder := builderFor compiler.builder.station compiler.builder.operations calibration

theorem runFrom_setCalibration : runFrom (setCalibration calibration) compiler =
    (compiler.rebuilt calibration >>= checkCalibration,
      { compiler with calibration, builder := (compiler.rebuilt calibration).toOption.getD compiler.builder }) := by
  unfold setCalibration refresh
  change runFrom (liftM (compiler.rebuilt calibration) >>= _) { compiler with calibration } = _
  rw [runFrom_bind]
  cases compiler.rebuilt calibration with
  | error fault => rfl
  | ok builder => rfl

/-- The calibration is the present one, and no other builder can be made of it. -/
def IsPresent : Prop :=
  calibration = compiler.calibration ∧
    ∀ builder, compiler.rebuilt calibration = .ok builder → builder = compiler.builder

theorem setCalibration_unchanged_iff :
    (runFrom (setCalibration calibration) compiler).2 = compiler ↔ compiler.IsPresent calibration := by
  rw [runFrom_setCalibration, IsPresent]
  cases compiler.rebuilt calibration with
  | error fault =>
    cases compiler
    simp [Except.toOption]
  | ok builder =>
    cases compiler
    simp [Except.toOption]

variable (name impl : String) (locus : Names) (params : Named Value)

/-- Refused or not, a calibration leaves the compiler as it was exactly if it is the present one, and so does an
amendment that is for a registered implementation. -/
theorem tuning_unchanged_iff :
    ((runFrom (setCalibration calibration) compiler).2 = compiler ↔ compiler.IsPresent calibration) ∧
      ((runFrom (amend name impl locus params) compiler).2 = compiler ↔
        ∀ operation, compiler.builder.operations.get? name = some operation → operation.implementations.contains impl →
          compiler.IsPresent (amended name impl locus params compiler.calibration)) := by
  refine ⟨setCalibration_unchanged_iff compiler calibration, ?_⟩
  have read : runFrom (get : Tuning Compiler) compiler = (.ok compiler, compiler) := rfl
  simp only [amend, runFrom_bind, read]
  cases compiler.builder.operations.get? name with
  | none => exact iff_of_true rfl (by simp)
  | some operation =>
    simp only [Option.some.injEq, forall_eq']
    cases operation.implementations.contains impl with
    | false => exact iff_of_true rfl (by simp)
    | true => simpa using setCalibration_unchanged_iff compiler _

end Transmon.Compiler
