import Mathlib.Algebra.Group.Nat.Even
import Mathlib.Data.Nat.Find
import Mathlib.Order.Basic
import Transmon.Proofs.Move.Meaning

/-!
# Intervals of moves

What the checks of a circuit's moves find out step by step is said here of the circuit as a whole. On each resonator
the first move and the second, the third and the fourth, and so on make up an interval, in which the state of a qubit
is away. The check for an architecture and the check for a chip pass the same circuits: those in which each move
belongs to an interval of its qubit, a qubit's intervals are disjoint, and nothing else happens to the qubit inside.
-/

namespace Transmon.Circuit.Step

open List Table Option Architecture

/-- The qubit and the resonator that a step moves a state between. -/
def shift? (step : Step) : Option (String × String) :=
  if step.name = "move" then
    match step.locus with
    | [qubit, resonator] => some (qubit, resonator)
    | _ => none
  else none

theorem shift?_eq_some_iff {s : Step} {q res : String} :
    s.shift? = some (q, res) ↔ s.name = "move" ∧ s.locus = [q, res] := by
  unfold shift?
  split
  · next named =>
    split
    · next located => simp [named, located]
    · next other =>
      simp only [reduceCtorEq, named, true_and, false_iff]
      exact other q res
  · next named => simp [named]

end Transmon.Circuit.Step

namespace Transmon.Move

open Outcome List Table Option Architecture
open Circuit (Step)

variable (steps : List Step) (position : Nat) (qubit resonator : String)

/-- The step at a position moves a state between a qubit and a resonator. -/
def MovesAt : Prop :=
  steps[position]?.bind Step.shift? = some (qubit, resonator)

/-- The number of moves at a resonator before a position. -/
def shiftsBefore (resonator : String) : Nat :=
  ((steps.take position).filterMap Step.shift?).countP fun shift => shift.2 = resonator

/-- Strictly between two positions no step moves at a resonator. -/
def Quiet (first last : Nat) (resonator : String) : Prop :=
  ∀ position, first < position → position < last → ∀ qubit, ¬MovesAt steps position qubit resonator

/-- Two moves in succession at a resonator that take a qubit's state there and back: the moves before them at this
resonator pair up. -/
structure Interval (steps : List Step) (qubit resonator : String) (first last : Nat) : Prop where
  ordered : first < last
  there : MovesAt steps first qubit resonator
  back : MovesAt steps last qubit resonator
  quiet : Quiet steps first last resonator
  even : Even (shiftsBefore steps first resonator)

/-- Steps whose moves make up intervals, such that those of a qubit on two resonators are disjoint and inside them only
free operations act on the qubit. -/
@[mk_iff] structure MadeOfIntervals (qubits resonators : Names) (free : List String) (steps : List Step) : Prop where
  located : ∀ step ∈ steps, step.name = "move" →
    ∃ q ∈ qubits, ∃ res ∈ resonators, step.locus = [q, res]
  paired : ∀ pos q res, MovesAt steps pos q res →
    ∃ other, Interval steps q res pos other ∨ Interval steps q res other pos
  apart : ∀ q res other first last start stop, Interval steps q res first last →
    Interval steps q other start stop → res ≠ other → last < start ∨ stop < first
  undisturbed : ∀ q res first last, Interval steps q res first last →
    ∀ pos step, first < pos → pos < last → steps[pos]? = some step → step.name ≠ "move" →
      step.name ∉ free → q ∉ step.locus

/-- Before a position, the state of a qubit was taken to a resonator and nothing moved there since. -/
def Away : Prop :=
  ∃ first < position, MovesAt steps first qubit resonator ∧ Even (shiftsBefore steps first resonator) ∧
    Quiet steps first position resonator

variable {ss : List Step} {s : Step} {pos first last : Nat} {q res other : String}
  {qubits resonators : Names} {free : List String} {held next : Circuit.Occupation}

theorem movesAt_iff (there : ss[pos]? = some s) :
    MovesAt ss pos q res ↔ s.name = "move" ∧ s.locus = [q, res] := by
  rw [MovesAt, there, bind_some, Step.shift?_eq_some_iff]

/-- A step moves between one qubit and one resonator. -/
theorem MovesAt.unique {mover : String} (moves : MovesAt ss pos q res)
    (others : MovesAt ss pos mover other) : q = mover ∧ res = other := by
  simpa using moves.symm.trans others

theorem MovesAt.exists_step (moves : MovesAt ss pos q res) :
    ∃ s, ss[pos]? = some s ∧ s.name = "move" ∧ s.locus = [q, res] := by
  obtain ⟨s, there, shifted⟩ := bind_eq_some_iff.mp moves
  exact ⟨s, there, Step.shift?_eq_some_iff.mp shifted⟩

theorem shiftsBefore_succ_of_moves (moves : MovesAt ss pos q res) :
    shiftsBefore ss (pos + 1) res = shiftsBefore ss pos res + 1 := by
  obtain ⟨s, there, shifted⟩ := bind_eq_some_iff.mp moves
  simp [shiftsBefore, take_add_one, there, shifted]

theorem shiftsBefore_succ_of_quiet (quiet : ∀ mover, ¬MovesAt ss pos mover res) :
    shiftsBefore ss (pos + 1) res = shiftsBefore ss pos res := by
  cases there : ss[pos]? with
  | none => simp [shiftsBefore, take_add_one, there]
  | some s =>
    cases shifted : s.shift? with
    | none => simp [shiftsBefore, take_add_one, there, shifted]
    | some shift =>
      have ne : shift.2 ≠ res := by
        rintro rfl
        exact quiet shift.1 (by simp [MovesAt, there, shifted])
      simp [shiftsBefore, take_add_one, there, shifted, ne]

/-- A move at a resonator leaves there what it took there, or nothing. -/
theorem away_succ_iff_of_moves (moves : MovesAt ss pos other res) :
    Away ss (pos + 1) q res ↔ q = other ∧ Even (shiftsBefore ss pos res) := by
  constructor
  · rintro ⟨first, before, there, even, quiet⟩
    rcases Nat.lt_succ_iff_lt_or_eq.mp before with earlier | rfl
    · exact (quiet pos earlier (Nat.lt_succ_self _) other moves).elim
    · exact ⟨(there.unique moves).1, even⟩
  · rintro ⟨rfl, even⟩
    exact ⟨pos, Nat.lt_succ_self _, moves, even, fun _ later earlier => by omega⟩

/-- What is in a resonator stays there as long as nothing moves. -/
theorem away_succ_iff_of_quiet (still : ∀ mover, ¬MovesAt ss pos mover res) :
    Away ss (pos + 1) q res ↔ Away ss pos q res := by
  constructor
  · rintro ⟨first, before, there, even, quiet⟩
    rcases Nat.lt_succ_iff_lt_or_eq.mp before with earlier | rfl
    · exact ⟨first, earlier, there, even, fun place later before => quiet place later (by omega)⟩
    · exact (still q there).elim
  · rintro ⟨first, before, there, even, quiet⟩
    refine ⟨first, by omega, there, even, fun place later before => ?_⟩
    rcases Nat.lt_succ_iff_lt_or_eq.mp before with earlier | rfl
    · exact quiet place later earlier
    · exact still

/-- A resonator is empty exactly if the moves there pair up so far. -/
theorem exists_away_iff : (∃ q, Away ss pos q res) ↔
    ¬Even (shiftsBefore ss pos res) := by
  induction pos with
  | zero => simp [Away, shiftsBefore]
  | succ pos ih =>
    by_cases moved : ∃ mover, MovesAt ss pos mover res
    · obtain ⟨mover, moves⟩ := moved
      simp [away_succ_iff_of_moves moves, shiftsBefore_succ_of_moves moves, Nat.even_add_one]
    · have still : ∀ mover, ¬MovesAt ss pos mover res := not_exists.mp moved
      simp only [away_succ_iff_of_quiet still, shiftsBefore_succ_of_quiet still, ih]

theorem Away.odd (away : Away ss pos q res) : ¬Even (shiftsBefore ss pos res) :=
  exists_away_iff.mp ⟨q, away⟩

/-- A resonator holds the state of one qubit. -/
theorem Away.unique {mover : String} (away : Away ss pos q res)
    (others : Away ss pos mover res) : q = mover := by
  obtain ⟨first, before, there, -, quiet⟩ := away
  obtain ⟨start, early, taken, -, calm⟩ := others
  rcases lt_trichotomy first start with earlier | rfl | later
  · exact (quiet start earlier early mover taken).elim
  · exact (there.unique taken).1
  · exact (calm first later before q there).elim

/-- Inside an interval, the state of its qubit is away. -/
theorem Interval.away (interval : Interval ss q res first last) (later : first < pos)
    (earlier : pos ≤ last) : Away ss pos q res :=
  ⟨first, later, interval.there, interval.even, fun place after before => interval.quiet place after (by omega)⟩

/-- What the checks ask of the step at a position. A move takes a state that is in no resonator into an empty one, or
takes a state out; any other step is free or acts on no state that is away. -/
structure AllowedAt (qubits resonators : Names) (free : List String) (steps : List Step) (position : Nat)
    (step : Step) : Prop where
  move : step.name = "move" → ∃ qubit ∈ qubits, ∃ resonator ∈ resonators, step.locus = [qubit, resonator] ∧
    (Even (shiftsBefore steps position resonator) ∧ (∀ place, ¬Away steps position qubit place) ∨
      Away steps position qubit resonator)
  other : step.name ≠ "move" → step.name ∉ free → ∀ qubit ∈ step.locus, ∀ place, ¬Away steps position qubit place

theorem AllowedAt.of_movesAt (allowed : AllowedAt qubits resonators free ss pos s)
    (there : ss[pos]? = some s) (moves : MovesAt ss pos q res) :
    Even (shiftsBefore ss pos res) ∧ (∀ place, ¬Away ss pos q place) ∨
      Away ss pos q res := by
  obtain ⟨named, located⟩ := (movesAt_iff there).mp moves
  obtain ⟨mover, -, place, -, same, possible⟩ := allowed.move named
  obtain ⟨rfl, rfl⟩ : q = mover ∧ res = place := by simpa using located.symm.trans same
  exact possible

namespace MadeOfIntervals

variable (made : MadeOfIntervals qubits resonators free ss)
include made

/-- A state that is away comes back, not before the position where it is away. -/
theorem exists_interval (away : Away ss pos q res) :
    ∃ first < pos, ∃ last ≥ pos, Interval ss q res first last := by
  obtain ⟨first, before, there, even, quiet⟩ := away
  obtain ⟨last, interval | interval⟩ := made.paired first q res there
  · refine ⟨first, before, last, ?_, interval⟩
    by_contra early
    exact quiet last interval.ordered (by omega) q interval.back
  · exact ((interval.away interval.ordered le_rfl).odd even).elim

theorem allowedAt (there : ss[pos]? = some s) : AllowedAt qubits resonators free ss pos s where
  move named := by
    obtain ⟨q, mover, res, resonant, located⟩ := made.located s (mem_of_getElem? there) named
    refine ⟨q, mover, res, resonant, located, ?_⟩
    have moves : MovesAt ss pos q res := (movesAt_iff there).mpr ⟨named, located⟩
    obtain ⟨other, interval | interval⟩ := made.paired pos q res moves
    · refine .inl ⟨interval.even, fun place away => ?_⟩
      have ne : res ≠ place := by
        rintro rfl
        exact away.odd interval.even
      obtain ⟨first, before, last, reaches, elsewhere⟩ := made.exists_interval away
      have later : pos ≠ last := by
        rintro rfl
        exact ne (moves.unique elsewhere.back).2
      have ordered := interval.ordered
      rcases made.apart _ _ _ _ _ _ _ interval elsewhere ne with disjoint | disjoint <;> omega
    · exact .inr (interval.away interval.ordered le_rfl)
  other named costly q mem place away := by
    obtain ⟨first, before, last, reaches, interval⟩ := made.exists_interval away
    have later : pos ≠ last := by
      rintro rfl
      exact named ((movesAt_iff there).mp interval.back).1
    exact made.undisturbed _ _ _ _ interval pos s before (by omega) there named costly mem

theorem not_away_length : ¬Away ss ss.length q res := by
  intro away
  obtain ⟨first, -, last, reaches, interval⟩ := made.exists_interval away
  obtain ⟨s, there, -⟩ := interval.back.exists_step
  have within : last < ss.length := (List.getElem?_eq_some_iff.mp there).1
  omega

end MadeOfIntervals

section Local

variable (allowed : ∀ pos s, ss[pos]? = some s →
    AllowedAt qubits resonators free ss pos s)
  (empty : ∀ q res, ¬Away ss ss.length q res)
include allowed

theorem possible_of_movesAt (moves : MovesAt ss pos q res) :
    Even (shiftsBefore ss pos res) ∧ (∀ place, ¬Away ss pos q place) ∨
      Away ss pos q res := by
  obtain ⟨s, there, -⟩ := moves.exists_step
  exact (allowed pos s there).of_movesAt there moves

include empty

/-- A move into an empty resonator is followed by one of the same qubit. -/
theorem exists_back (moves : MovesAt ss pos q res)
    (even : Even (shiftsBefore ss pos res)) :
    ∃ last, Interval ss q res pos last := by
  have followed : ∃ last, pos < last ∧ ∃ mover, MovesAt ss last mover res := by
    by_contra never
    obtain ⟨s, there, -⟩ := moves.exists_step
    exact empty q res ⟨pos, (List.getElem?_eq_some_iff.mp there).1, moves, even,
      fun place later _ mover moved => never ⟨place, later, mover, moved⟩⟩
  -- The least such position is the other end, since nothing moves there before it.
  classical
  obtain ⟨later, mover, moved⟩ := Nat.find_spec followed
  have quiet : Quiet ss pos (Nat.find followed) res :=
    fun place after before mover moved => Nat.find_min followed before ⟨after, mover, moved⟩
  have away : Away ss (Nat.find followed) q res := ⟨pos, later, moves, even, quiet⟩
  rcases possible_of_movesAt allowed moved with ⟨vacant, -⟩ | owned
  · exact (away.odd vacant).elim
  · obtain rfl := away.unique owned
    exact ⟨_, later, moves, moved, quiet, even⟩

theorem madeOfIntervals_of_allowedAt : MadeOfIntervals qubits resonators free ss where
  located s mem named := by
    obtain ⟨pos, there⟩ := mem_iff_getElem?.mp mem
    obtain ⟨q, mover, res, resonant, located, -⟩ := (allowed pos s there).move named
    exact ⟨q, mover, res, resonant, located⟩
  paired pos q res moves := by
    rcases possible_of_movesAt allowed moves with ⟨even, -⟩ | ⟨first, before, there, even, quiet⟩
    · obtain ⟨last, interval⟩ := exists_back allowed empty moves even
      exact ⟨last, .inl interval⟩
    · exact ⟨first, .inr ⟨before, there, moves, quiet, even⟩⟩
  apart q res other first last start stop interval elsewhere ne := by
    -- Whichever starts second would take away a state that is away already.
    have exclusive : ∀ {res other : String} {first last start stop : Nat},
        Interval ss q res first last → Interval ss q other start stop → res ≠ other →
          first < start → last < start := by
      intro res other first last start stop interval elsewhere ne earlier
      by_contra overlapping
      rcases possible_of_movesAt allowed elsewhere.there with ⟨-, home⟩ | away
      · exact home res (interval.away earlier (by omega))
      · exact away.odd elsewhere.even
    rcases lt_trichotomy first start with earlier | rfl | later
    · exact .inl (exclusive interval elsewhere ne earlier)
    · exact (ne (interval.there.unique elsewhere.there).2).elim
    · exact .inr (exclusive elsewhere interval ne.symm later)
  undisturbed q res first last interval pos s after before there named costly mem :=
    (allowed pos s there).other named costly q mem res (interval.away after before.le)

end Local

/-- An occupation that says which states are away before a position. -/
structure Records (steps : List Step) (position : Nat) (held : Circuit.Occupation) : Prop where
  distinct : held.keys.Nodup
  get?_iff : ∀ resonator qubit, held.get? resonator = some qubit ↔ Away steps position qubit resonator

namespace Records

theorem start : Records ss 0 ∅ := ⟨by simp, by simp [Away]⟩

variable (records : Records ss pos held)

include records

theorem get?_eq_none_iff : held.get? res = none ↔ Even (shiftsBefore ss pos res) := by
  rw [eq_none_iff_forall_ne_some, ← not_iff_not, ← exists_away_iff]
  simp [records.get?_iff]

theorem mem_values_iff : q ∈ held.values ↔ ∃ place, Away ss pos q place := by
  simp only [Table.mem_values_iff records.distinct, records.get?_iff]

theorem isEmpty_iff : held.isEmpty = true ↔ ∀ q res, ¬Away ss pos q res := by
  simp only [isEmpty_iff_get?, eq_none_iff_forall_ne_some, ne_eq, records.get?_iff]
  exact forall_comm

/-- A step passes exactly if it is allowed. -/
theorem exists_moveStep_iff : (∃ next, moveStep qubits resonators free held s = .ok next) ↔
      AllowedAt qubits resonators free ss pos s := by
  by_cases named : s.name = "move"
  · constructor
    · rintro ⟨next, passed⟩
      obtain ⟨q, res, located⟩ := locus_of_moveStep named passed
      obtain ⟨⟨mover, resonant⟩, possible⟩ := (moveStep_move_iff named located).mp passed
      refine ⟨fun _ => ⟨q, mover, res, resonant, located, ?_⟩, fun other => (other named).elim⟩
      rcases possible with ⟨vacant, home, -⟩ | ⟨owned, -⟩
      · exact .inl ⟨records.get?_eq_none_iff.mp vacant,
          not_exists.mp fun away => home (records.mem_values_iff.mpr away)⟩
      · exact .inr ((records.get?_iff res q).mp owned)
    · intro allowed
      obtain ⟨q, mover, res, resonant, located, possible⟩ := allowed.move named
      rcases possible with ⟨even, home⟩ | away
      · exact ⟨_, (moveStep_move_iff named located).mpr ⟨⟨mover, resonant⟩, .inl ⟨records.get?_eq_none_iff.mpr even,
          fun stored => not_exists.mpr home (records.mem_values_iff.mp stored), rfl⟩⟩⟩
      · exact ⟨_, (moveStep_move_iff named located).mpr
          ⟨⟨mover, resonant⟩, .inr ⟨(records.get?_iff res q).mpr away, rfl⟩⟩⟩
  · simp only [moveStep_other_iff named, records.mem_values_iff, not_exists]
    constructor
    · rintro ⟨next, home, -⟩
      exact ⟨fun same => (named same).elim, fun _ => home⟩
    · exact fun allowed => ⟨held, allowed.other named, rfl⟩

/-- After a step that passed, the occupation is right again. -/
theorem after (there : ss[pos]? = some s)
    (passed : moveStep qubits resonators free held s = .ok next) :
    Records ss (pos + 1) next := by
  by_cases named : s.name = "move"
  · obtain ⟨q, res, located⟩ := locus_of_moveStep named passed
    have moves : MovesAt ss pos q res := (movesAt_iff there).mpr ⟨named, located⟩
    have elsewhere : ∀ place, place ≠ res → ∀ mover, ¬MovesAt ss pos mover place :=
      fun place ne mover moved => ne (moved.unique moves).2
    rcases ((moveStep_move_iff named located).mp passed).2 with ⟨vacant, -, rfl⟩ | ⟨owned, rfl⟩
    · refine ⟨nodup_keys_insert records.distinct, fun place mover => ?_⟩
      rw [get?_insert]
      split
      · next same =>
        have even := records.get?_eq_none_iff.mp vacant
        rw [same, away_succ_iff_of_moves moves, some_inj, eq_comm, and_iff_left even]
      · next ne => rw [away_succ_iff_of_quiet (elsewhere place ne), records.get?_iff]
    · refine ⟨nodup_keys_erase records.distinct, fun place mover => ?_⟩
      rw [get?_erase]
      split
      · next same =>
        have odd := ((records.get?_iff res q).mp owned).odd
        simp [same, away_succ_iff_of_moves moves, odd]
      · next ne => rw [away_succ_iff_of_quiet (elsewhere place ne), records.get?_iff]
  · obtain ⟨-, rfl⟩ := (moveStep_other_iff named).mp passed
    refine ⟨records.distinct, fun place mover => ?_⟩
    rw [away_succ_iff_of_quiet fun mover moved => named ((movesAt_iff there).mp moved).1, records.get?_iff]

end Records

theorem foldlM_take_add_one {check : Circuit.Occupation → Step → Outcome Circuit.Occupation}
    (there : ss[pos]? = some s) : (ss.take (pos + 1)).foldlM check held =
      (ss.take pos).foldlM check held >>= fun next => check next s := by
  rw [take_add_one, there, foldlM_append]
  simp

/-- The occupation that the check of moves has reached says which states are away. -/
theorem records_of_run (within : pos ≤ ss.length)
    (ran : (ss.take pos).foldlM (moveStep qubits resonators free) ∅ = .ok held) :
    Records ss pos held := by
  induction pos generalizing held with
  | zero =>
    obtain rfl := pure_eq_ok_iff.mp ran
    exact .start
  | succ pos ih =>
    have there := getElem?_eq_getElem within
    rw [foldlM_take_add_one there] at ran
    obtain ⟨reached, before, passed⟩ := bind_eq_ok_iff.mp ran
    exact (ih (Nat.le_of_succ_le within) before).after there passed

/-- The check of moves gets to a position exactly if all steps before are allowed. -/
theorem exists_run_iff (within : pos ≤ ss.length) :
    (∃ held, (ss.take pos).foldlM (moveStep qubits resonators free) ∅ = .ok held) ↔
      ∀ earlier < pos, ∀ s, ss[earlier]? = some s →
        AllowedAt qubits resonators free ss earlier s := by
  induction pos with
  | zero => simp [pure, Except.pure]
  | succ pos ih =>
    have there := getElem?_eq_getElem within
    have before := Nat.le_of_succ_le within
    simp only [foldlM_take_add_one there, bind_eq_ok_iff]
    rw [Nat.forall_lt_succ_right, ← ih before, there]
    constructor
    · rintro ⟨held, reached, ran, passed⟩
      refine ⟨⟨reached, ran⟩, ?_⟩
      rintro _ ⟨⟩
      exact (records_of_run before ran).exists_moveStep_iff.mp ⟨held, passed⟩
    · rintro ⟨⟨reached, ran⟩, allowed⟩
      obtain ⟨held, passed⟩ := (records_of_run before ran).exists_moveStep_iff.mpr (allowed _ rfl)
      exact ⟨held, reached, ran, passed⟩

/-- The moves of a circuit pass, with no state away at the end, exactly if they make up intervals. -/
theorem exists_run_isEmpty_iff :
    (∃ held, ss.foldlM (moveStep qubits resonators free) ∅ = .ok held ∧ held.isEmpty = true) ↔
      MadeOfIntervals qubits resonators free ss := by
  have records : ∀ {held}, ss.foldlM (moveStep qubits resonators free) ∅ = .ok held →
      Records ss ss.length held := fun ran => records_of_run le_rfl (by rwa [take_length])
  have runs : (∃ held, ss.foldlM (moveStep qubits resonators free) ∅ = .ok held) ↔
      ∀ pos < ss.length, ∀ s, ss[pos]? = some s →
        AllowedAt qubits resonators free ss pos s := by
    simpa only [take_length] using exists_run_iff le_rfl
  constructor
  · rintro ⟨held, ran, vacant⟩
    refine madeOfIntervals_of_allowedAt (fun pos s there => ?_) ((records ran).isEmpty_iff.mp vacant)
    exact runs.mp ⟨held, ran⟩ pos (List.getElem?_eq_some_iff.mp there).1 s there
  · intro made
    obtain ⟨held, ran⟩ := runs.mpr fun pos _ s there => made.allowedAt there
    exact ⟨held, ran, (records ran).isEmpty_iff.mpr fun _ _ => made.not_away_length⟩

section Checks

variable {architecture arch : Architecture} {chip : Chip.Topology}

/-- Circuits of intervals are the same for the same components. -/
theorem MadeOfIntervals.congr {others places : Names}
    (sameQubits : ∀ name, name ∈ qubits ↔ name ∈ others) (sameResonators : ∀ name, name ∈ resonators ↔ name ∈ places) :
    MadeOfIntervals qubits resonators free ss ↔ MadeOfIntervals others places free ss := by
  simp only [madeOfIntervals_iff, sameQubits, sameResonators]

/-- The check for an architecture passes exactly the circuits of intervals. -/
theorem checkMoves_iff {mode : Compiler.MoveValidation} (supported : arch.gates.contains "move" = true)
    (asked : mode ≠ .none) :
    arch.checkMoves none mode true ss = .ok () ↔
      MadeOfIntervals arch.qubits arch.resonators
        (if mode = .allowRotations then ["barrier", "prx"] else ["barrier"]) ss := by
  rw [← exists_run_isEmpty_iff]
  unfold checkMoves
  simp only [supported, asked, renamed, if_false, Bool.not_true, Bool.false_eq_true,
    bind_eq_ok_iff, Bool.true_and]
  refine exists_congr fun final => and_congr_right fun _ => ?_
  exact check_eq_ok_iff (by simp)

variable {checksRotations : Bool}

/-- The steps that pass for a chip are those that pass for an architecture. -/
theorem moveStep_chip_iff : Circuit.moveStep chip checksRotations held s = .ok next ↔
      moveStep chip.qubits chip.resonators (if checksRotations then ["barrier"] else ["barrier", "prx"])
        held s = .ok next := by
  unfold Circuit.moveStep moveStep
  by_cases named : s.name = "move"
  · rw [if_pos named, if_pos named]
    match s.locus with
    | [q, res] =>
      dsimp only
      rw [unless_eq_ok_iff (by simp), unless_eq_ok_iff (by simp)]
      refine and_congr_right fun _ => ?_
      cases held.get? res with
      | none =>
        dsimp only
        rw [unless_eq_ok_iff (by simp), unless_eq_ok_iff (by simp)]
      | some owner =>
        dsimp only
        rw [unless_eq_ok_iff (by simp), unless_eq_ok_iff (by simp)]
    | [] | [_] | _ :: _ :: _ :: _ => simp
  · rw [if_neg named, if_neg named]
    dsimp only
    rw [unless_eq_ok_iff (by simp), unless_eq_ok_iff (by simp)]
    cases checksRotations <;> simp

/-- The check for a chip passes exactly the circuits of intervals. -/
theorem checkMoves_chip_iff : Circuit.checkMoves chip checksRotations ss = .ok () ↔
      MadeOfIntervals chip.qubits chip.resonators (if checksRotations then ["barrier"] else ["barrier", "prx"])
        ss := by
  rw [← exists_run_isEmpty_iff]
  unfold Circuit.checkMoves
  simp only [bind_eq_ok_iff]
  refine exists_congr fun final => and_congr ?_ (check_eq_ok_iff (by simp))
  exact foldlM_eq_ok_congr fun _ _ _ => moveStep_chip_iff

/-- The check of moves for an architecture passes exactly the circuits that are made of intervals, and the check for
the chip with these components passes the same ones, whether rotations are allowed inside or not. -/
theorem checks_pass_iff_madeOfIntervals (supported : architecture.gates.contains "move" = true)
    (sameQubits : ∀ name, name ∈ chip.qubits ↔ name ∈ architecture.qubits)
    (sameResonators : ∀ name, name ∈ chip.resonators ↔ name ∈ architecture.resonators) (steps : List Step) :
    ((architecture.checkMoves none .strict true steps = .ok () ↔
        MadeOfIntervals architecture.qubits architecture.resonators ["barrier"] steps) ∧
      (Circuit.checkMoves chip true steps = .ok () ↔ architecture.checkMoves none .strict true steps = .ok ())) ∧
    ((architecture.checkMoves none .allowRotations true steps = .ok () ↔
        MadeOfIntervals architecture.qubits architecture.resonators ["barrier", "prx"] steps) ∧
      (Circuit.checkMoves chip false steps = .ok () ↔
        architecture.checkMoves none .allowRotations true steps = .ok ())) := by
  have strict : architecture.checkMoves none .strict true steps = .ok () ↔
      MadeOfIntervals architecture.qubits architecture.resonators ["barrier"] steps :=
    checkMoves_iff supported (by simp)
  have lenient : architecture.checkMoves none .allowRotations true steps = .ok () ↔
      MadeOfIntervals architecture.qubits architecture.resonators ["barrier", "prx"] steps :=
    checkMoves_iff supported (by simp)
  refine ⟨⟨strict, ?_⟩, ⟨lenient, ?_⟩⟩
  · rw [checkMoves_chip_iff, strict]
    exact MadeOfIntervals.congr sameQubits sameResonators
  · rw [checkMoves_chip_iff, lenient]
    exact MadeOfIntervals.congr sameQubits sameResonators

/-- The chip with the components of the two-qubit star. -/
def twoQubitChip : Chip.Topology where
  qubits := twoQubitStar.qubits
  resonators := twoQubitStar.resonators
  couplers := []
  probeLines := []
  couplerComponents := ∅
  componentCouplers := ∅
  probeLineComponents := ∅
  probeLineOf := ∅
  mappings := ∅

/-- A state may go to the resonator and back around a gate there; a gate on its qubit disturbs it. -/
theorem madeOfIntervals_twoQubitStar :
    (MadeOfIntervals twoQubitStar.qubits twoQubitStar.resonators ["barrier"]
        [moving "QB1" "CR1", gating "QB2" "CR1", moving "QB1" "CR1"] ∧
      Circuit.checkMoves twoQubitChip true [moving "QB1" "CR1", gating "QB2" "CR1", moving "QB1" "CR1"] = .ok ()) ∧
    ¬MadeOfIntervals twoQubitStar.qubits twoQubitStar.resonators ["barrier"]
      [moving "QB1" "CR1", gating "QB1" "QB2", moving "QB1" "CR1"] := by
  have supported : twoQubitStar.gates.contains "move" = true := rfl
  have same : ∀ name, name ∈ twoQubitChip.qubits ↔ name ∈ twoQubitStar.qubits := fun _ => Iff.rfl
  have checks := checks_pass_iff_madeOfIntervals supported same fun _ => Iff.rfl
  refine ⟨⟨(checks _).1.1.mp (by rfl), (checks _).1.2.mpr (by rfl)⟩, fun made => ?_⟩
  cases (checks _).1.1.mpr made

end Checks

end Transmon.Move
