import Mathlib.Data.List.Perm.Basic
import Transmon.Move.Resolution
import Transmon.Proofs.Basic

/-!
# What a calibrated chip accepts

An operation is offered at a locus if one of its implementations is calibrated there. The check of a single step is
stated in these terms: a free operation may act on all components, a factorizable one on components of offered loci,
a symmetric one on an offered locus in any order, and every other one on an offered locus as it stands. A step that
is refused without a mapping is always refused as a misfit.
-/

namespace Transmon

open Outcome List

namespace Architecture

variable {arch : Architecture} {gate : Gate} {name : String} {locus : List String}

@[simp] theorem misfit_eq_ok_iff {α : Type} {reason : String} {result : α} :
    (misfit reason : Outcome α) = .ok result ↔ False := by
  simp [misfit]

/-- A pair has two orders. -/
theorem eq_or_eq_of_pair_perm {first second : String} (reordered : [first, second].Perm locus) :
    locus = [first, second] ∨ locus = [second, first] := by
  obtain ⟨a, b, rfl⟩ := length_eq_two.mp reordered.length_eq.symm
  by_cases same : first = a
  · subst same
    have others := (perm_cons first).mp reordered
    exact .inl (by rw [singleton_perm_singleton.mp others])
  · obtain rfl : first = b := by simpa [same] using reordered.subset mem_cons_self
    have others := (perm_cons first).mp (reordered.trans (.swap first a []))
    exact .inr (by rw [singleton_perm_singleton.mp others])

/-- An operation can be used at a locus, in one of its implementations. -/
def Offers (architecture : Architecture) (name : String) (locus : List String) : Prop :=
  ∃ gate, architecture.gates.get? name = some gate ∧ locus ∈ gate.loci

theorem Gate.mem_loci_iff : locus ∈ gate.loci ↔ ∃ loci ∈ gate.implementations.values, locus ∈ loci := by
  simp [Gate.loci, mem_eraseDups]

@[simp] theorem mem_components_iff :
    name ∈ arch.components ↔ name ∈ arch.qubits ∨ name ∈ arch.resonators := by
  simp [components]

variable {s : Circuit.Step}

/-- A chip with resonators as a calibration describes it: every operation is listed once and used at components of the
chip, pairs are loci of `cz` and `move` only, the first component of a pair is a qubit, and a `move` is between a qubit
and a resonator. -/
structure IsStar (architecture : Architecture) : Prop where
  distinct : architecture.gates.keys.Nodup
  supported : architecture.gates.contains "move" = true
  apart : ∀ name ∈ architecture.qubits, name ∉ architecture.resonators
  components : ∀ name locus, architecture.Offers name locus → ∀ component ∈ locus, component ∈ architecture.components
  pairs : ∀ name first second, architecture.Offers name [first, second] → name = "cz" ∨ name = "move"
  cz : ∀ locus, architecture.Offers "cz" locus → ∃ first second, locus = [first, second] ∧ first ∈ architecture.qubits
  move : ∀ locus, architecture.Offers "move" locus → ∃ qubit resonator, locus = [qubit, resonator] ∧
    qubit ∈ architecture.qubits ∧ resonator ∈ architecture.resonators

theorem allowed_of_unspecified (unspecified : s.implementation = none)
    (found : arch.gates.get? s.name = some gate) : arch.allowed s = .ok (gate.loci, s.name) := by
  simp only [allowed, found, unspecified]
  rfl

variable {loci : List (List String)}

theorem gate_of_allowed {shown : String} (unspecified : s.implementation = none)
    (permitted : arch.allowed s = .ok (loci, shown)) :
    ∃ gate, arch.gates.get? s.name = some gate ∧ gate.loci = loci := by
  cases found : arch.gates.get? s.name with
  | none => simp [allowed, found] at permitted
  | some gate =>
    rw [allowed_of_unspecified unspecified found] at permitted
    exact ⟨gate, rfl, (Prod.mk.inj (Except.ok.inj permitted)).1⟩

/-- What is allowed for a step is offered, whether it asks for an implementation or not. -/
theorem offers_of_allowed {shown : String}
    (permitted : arch.allowed s = .ok (loci, shown)) (mem : locus ∈ loci) :
    arch.Offers s.name locus := by
  unfold allowed at permitted
  split at permitted
  · simp [misfit, failWith] at permitted
  · next gate found =>
    refine ⟨gate, found, ?_⟩
    split at permitted
    · obtain ⟨rfl, -⟩ := Prod.mk.inj (pure_eq_ok_iff.mp permitted)
      exact mem
    · split at permitted
      · simp [misfit, failWith] at permitted
      · next known =>
        obtain ⟨rfl, -⟩ := Prod.mk.inj (pure_eq_ok_iff.mp permitted)
        exact Gate.mem_loci_iff.mpr ⟨_, mem_map_of_mem (Table.mem_entries_of_get? known), mem⟩

theorem allowed_fault {fault : Fault} (refused : arch.allowed s = .error fault) :
    fault.kind = .circuitInvalid := by
  unfold allowed at refused
  split at refused
  · cases refused
    rfl
  · split at refused
    · cases refused
    · split at refused
      · cases refused
        rfl
      · cases refused

/-- Whether an operation that is not free fits a locus, given the loci that are allowed. -/
def Fits (operation : Circuit.Native) (loci : List (List String)) (locus : List String) : Prop :=
  if operation.isFactorizable then ∀ name ∈ locus, name ∈ loci.flatten
  else if operation.isSymmetric then ∃ known ∈ loci, known.Perm locus
  else locus ∈ loci

variable {op : Circuit.Native}

theorem Fits.mono {loci others : List (List String)} (fits : Fits op loci locus)
    (within : ∀ known ∈ loci, known ∈ others) : Fits op others locus := by
  unfold Fits at fits ⊢
  by_cases factorizable : op.isFactorizable = true
  · rw [if_pos factorizable] at fits ⊢
    intro name mem
    obtain ⟨known, listed, inside⟩ := mem_flatten.mp (fits name mem)
    exact mem_flatten.mpr ⟨known, within known listed, inside⟩
  · rw [if_neg factorizable] at fits ⊢
    by_cases symmetric : op.isSymmetric = true
    · rw [if_pos symmetric] at fits ⊢
      obtain ⟨known, listed, reordered⟩ := fits
      exact ⟨known, within known listed, reordered⟩
    · rw [if_neg symmetric] at fits ⊢
      exact within locus fits

/-- The components of a locus that fits are components of loci that are allowed. -/
theorem Fits.exists_locus {loci : List (List String)} (fits : Fits op loci locus)
    (mem : name ∈ locus) : ∃ known ∈ loci, name ∈ known := by
  unfold Fits at fits
  split at fits
  · exact mem_flatten.mp (fits name mem)
  · split at fits
    · obtain ⟨known, listed, reordered⟩ := fits
      exact ⟨known, listed, reordered.mem_iff.mpr mem⟩
    · exact ⟨locus, fits, mem⟩

/-- The check of a step without a mapping, as a condition on its operation and its locus. -/
theorem checkStep_eq_ok_iff :
    arch.checkStep none s = .ok () ↔ ∃ op, Circuit.Native.named? s.name = some op ∧
      if op.isFree then ∀ name ∈ s.locus, name ∈ arch.components
      else ∃ loci shown, arch.allowed s = .ok (loci, shown) ∧ Fits op loci s.locus := by
  unfold checkStep
  cases known : Circuit.Native.named? s.name with
  | none => simp [misfit, failWith]
  | some op =>
    simp only [Option.filter_none, pure_bind, Option.some.injEq, exists_eq_left']
    split
    · rw [check_eq_ok_iff (by simp [fail]), Names.within_iff]
    · rw [bind_eq_ok_iff, Prod.exists]
      refine exists_congr fun loci => exists_congr fun shown => and_congr_right fun _ => ?_
      unfold Fits
      split
      · rw [check_eq_ok_iff (by simp [fail]), Names.within_iff]
      · rw [check_eq_ok_iff (by simp [misfit, failWith])]
        split
        · simp [isPerm_iff]
        · simp

/-- Without a mapping a step is only ever refused because it does not fit the chip. -/
theorem checkStep_fault {fault : Fault} (refused : arch.checkStep none s = .error fault) :
    fault.kind = .circuitInvalid := by
  unfold checkStep at refused
  cases known : Circuit.Native.named? s.name with
  | none =>
    rw [known] at refused
    cases refused
    rfl
  | some op =>
    simp only [known, Option.filter_none, pure_bind] at refused
    split at refused
    · cases check_eq_error refused
      rfl
    · cases permitted : arch.allowed s with
      | error other =>
        rw [permitted] at refused
        cases refused
        exact allowed_fault permitted
      | ok pair =>
        rw [permitted, ok_bind] at refused
        split at refused
        · cases check_eq_error refused
          rfl
        · cases check_eq_error refused
          rfl

/-- A step with a chosen name fits exactly if its operation does. -/
theorem checkStep_iff_of_named (known : Circuit.Native.named? s.name = some op)
    (calibrated : op.isFree = false) : arch.checkStep none s = .ok () ↔
      ∃ loci shown, arch.allowed s = .ok (loci, shown) ∧ Fits op loci s.locus := by
  simp [checkStep_eq_ok_iff, known, calibrated]

theorem named?_of_move (named : s.name = "move") :
    Circuit.Native.named? s.name = some { name := "move", arity := 2 } := by
  rw [named]
  rfl

theorem named?_of_cz (named : s.name = "cz") :
    Circuit.Native.named? s.name = some { name := "cz", arity := 2, isSymmetric := true } := by
  rw [named]
  rfl

/-- A move that is accepted is offered at exactly its locus. -/
theorem offers_of_checkStep_move (named : s.name = "move") (accepted : arch.checkStep none s = .ok ()) :
    arch.Offers "move" s.locus := by
  obtain ⟨loci, shown, permitted, fits⟩ := (checkStep_iff_of_named (named?_of_move named) rfl).mp accepted
  exact named ▸ offers_of_allowed permitted fits

theorem checkStep_move (named : s.name = "move") (unspecified : s.implementation = none)
    (offered : arch.Offers "move" s.locus) : arch.checkStep none s = .ok () := by
  obtain ⟨gate, found, mem⟩ := offered
  exact (checkStep_iff_of_named (named?_of_move named) rfl).mpr
    ⟨_, _, allowed_of_unspecified unspecified (named ▸ found), mem⟩

/-- A `cz` that is accepted is offered at its locus, or at its locus in another order. -/
theorem offers_of_checkStep_cz (named : s.name = "cz") (accepted : arch.checkStep none s = .ok ()) :
    ∃ locus, arch.Offers "cz" locus ∧ locus.Perm s.locus := by
  obtain ⟨loci, shown, permitted, locus, mem, reordered⟩ :=
    (checkStep_iff_of_named (named?_of_cz named) rfl).mp accepted
  exact ⟨locus, named ▸ offers_of_allowed permitted mem, reordered⟩

theorem checkStep_cz (named : s.name = "cz") (unspecified : s.implementation = none)
    (offered : arch.Offers "cz" locus) (reordered : locus.Perm s.locus) :
    arch.checkStep none s = .ok () := by
  obtain ⟨gate, found, mem⟩ := offered
  exact (checkStep_iff_of_named (named?_of_cz named) rfl).mpr
    ⟨_, _, allowed_of_unspecified unspecified (named ▸ found), locus, mem, reordered⟩

/-- On a star every accepted step acts on components of the chip. -/
theorem IsStar.mem_components_of_checkStep (star : arch.IsStar)
    (accepted : arch.checkStep none s = .ok ()) (mem : name ∈ s.locus) :
    name ∈ arch.components := by
  obtain ⟨op, -, fits⟩ := checkStep_eq_ok_iff.mp accepted
  split at fits
  · exact fits name mem
  · obtain ⟨loci, shown, permitted, fits⟩ := fits
    obtain ⟨known, listed, inside⟩ := fits.exists_locus mem
    exact star.components _ known (offers_of_allowed permitted listed) name inside

/-- One implementation of an operation can be used at a locus, in some order of its components. -/
def Implements (architecture : Architecture) (name implementation : String) (locus : List String) : Prop :=
  ∃ gate loci, architecture.gates.get? name = some gate ∧ gate.implementations.get? implementation = some loci ∧
    ∃ known ∈ loci, known.Perm locus

variable {impl : String}

theorem allowed_of_chosen {loci : List (List String)} (chosen : s.implementation = some impl) :
    (∃ shown, arch.allowed s = .ok (loci, shown)) ↔
      ∃ gate, arch.gates.get? s.name = some gate ∧ gate.implementations.get? impl = some loci := by
  unfold allowed
  cases found : arch.gates.get? s.name with
  | none => simp
  | some gate =>
    simp only [chosen, Option.some.injEq, exists_eq_left']
    cases gate.implementations.get? impl with
    | none => simp
    | some known => simp

/-- A `cz` that asks for an implementation is accepted exactly where this implementation can be used. -/
theorem checkStep_cz_of_chosen (named : s.name = "cz") (chosen : s.implementation = some impl) :
    arch.checkStep none s = .ok () ↔ arch.Implements "cz" impl s.locus := by
  rw [checkStep_iff_of_named (named?_of_cz named) rfl]
  constructor
  · rintro ⟨loci, shown, permitted, fits⟩
    obtain ⟨gate, found, listed⟩ := (allowed_of_chosen chosen).mp ⟨shown, permitted⟩
    exact ⟨gate, loci, named ▸ found, listed, fits⟩
  · rintro ⟨gate, loci, found, listed, fits⟩
    obtain ⟨shown, permitted⟩ := (allowed_of_chosen chosen).mpr ⟨gate, named ▸ found, listed⟩
    exact ⟨loci, shown, permitted, fits⟩

end Architecture

end Transmon
