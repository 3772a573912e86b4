import Mathlib.Logic.Equiv.Basic
import Transmon.Proofs.Move.Insertion

/-!
# Sandwiches

The state of a qubit that was moved into a resonator has to come back by the same move, and until then nothing but
free operations may touch the qubit. This is said here of the owners that the moves of a circuit lead to, and the
check of a circuit's moves is shown to decide it. Whatever the insertion of moves writes is made of such sandwiches.
-/

namespace Transmon

open Outcome List Table Function Architecture

namespace Move

open Circuit (Step)

variable {architecture arch : Architecture} {owner last : Owners} {t middle : Tracker} {s : Step}
  {ss moves inside rest closing : List Step} {name q res : String} {qubits resonators : Names}
  {free : List String} {held next : Circuit.Occupation} {way : Resolution}

namespace Owners

/-- The owners after a step. -/
def after (owner : Owners) (step : Step) : Owners :=
  if step.name = "move" then
    match step.locus with
    | [qubit, resonator] => owner.toggle qubit resonator
    | _ => owner
  else owner

theorem after_move (named : s.name = "move") (located : s.locus = [q, res]) :
    owner.after s = owner.toggle q res := by
  simp [after, named, located]

theorem after_other (named : s.name ≠ "move") : owner.after s = owner := by
  simp [after, named]

@[simp] theorem after_moving : owner.after (moving q res) = owner.toggle q res := rfl

end Owners

/-- Steps whose moves take a state that is at home into an empty resonator, or bring it back, and whose other steps
leave alone the qubits whose state is away, unless their operation is free. The last owners are those after all
steps. -/
inductive Sandwiched (architecture : Architecture) (free : List String) : Owners → List Step → Owners → Prop where
  | nil (owner : Owners) : Sandwiched architecture free owner [] owner
  | move {owner last : Owners} {step : Step} {rest : List Step} {qubit resonator : String}
      (named : step.name = "move") (located : step.locus = [qubit, resonator]) (mover : qubit ∈ architecture.qubits)
      (resonant : resonator ∈ architecture.resonators)
      (possible : owner resonator = resonator ∧ owner.Home qubit ∨ owner resonator = qubit)
      (later : Sandwiched architecture free (owner.toggle qubit resonator) rest last) :
      Sandwiched architecture free owner (step :: rest) last
  | other {owner last : Owners} {step : Step} {rest : List Step} (named : step.name ≠ "move")
      (home : step.name ∉ free → ∀ name ∈ step.locus, owner.Home name)
      (later : Sandwiched architecture free owner rest last) : Sandwiched architecture free owner (step :: rest) last

/-- A move passes exactly if it takes a state that is in no resonator into an empty one, or takes this state out. -/
theorem moveStep_move_iff (named : s.name = "move") (located : s.locus = [q, res]) :
    moveStep qubits resonators free held s = .ok next ↔
      (q ∈ qubits ∧ res ∈ resonators) ∧
        (held.get? res = none ∧ q ∉ held.values ∧ held.insert res q = next ∨
          held.get? res = some q ∧ held.erase res = next) := by
  unfold moveStep
  rw [if_pos named, located]
  dsimp only
  rw [unless_eq_ok_iff (by simp)]
  refine and_congr (by simp) ?_
  cases held.get? res with
  | none =>
    dsimp only
    rw [unless_eq_ok_iff (by simp)]
    simp
  | some owner =>
    dsimp only
    rw [unless_eq_ok_iff (by simp)]
    simp

/-- Any other step passes exactly if it is free or acts on no state that is in a resonator, and changes nothing. -/
theorem moveStep_other_iff (named : s.name ≠ "move") :
    moveStep qubits resonators free held s = .ok next ↔
      (s.name ∉ free → ∀ name ∈ s.locus, name ∉ held.values) ∧ held = next := by
  unfold moveStep
  rw [if_neg named]
  dsimp only
  rw [unless_eq_ok_iff (by simp)]
  simp only [Names.inter, Bool.and_eq_true, Bool.not_eq_true', List.contains_eq_mem, decide_eq_false_iff_not, not_and,
    Bool.not_eq_false, List.isEmpty_iff, List.filter_eq_nil_iff, Names.mem_ofList, pure_eq_ok_iff,
    decide_eq_true_eq]

/-- A move acts on a pair. -/
theorem locus_of_moveStep (named : s.name = "move")
    (passed : moveStep qubits resonators free held s = .ok next) :
    ∃ q res, s.locus = [q, res] := by
  unfold moveStep at passed
  simp only [named, if_true] at passed
  split at passed
  · next q res located => exact ⟨q, res, located⟩
  · simp at passed

/-- The occupation that the check of moves keeps, and the owners: an empty resonator has no entry. -/
structure Holds (held : Circuit.Occupation) (owner : Owners) : Prop where
  distinct : held.keys.Nodup
  get? : ∀ name, held.get? name = if owner name = name then none else some (owner name)

namespace Holds

theorem empty : Holds ∅ id := ⟨by simp, by simp⟩

/-- No state is in a resonator exactly if every component holds its own. -/
theorem isEmpty_iff : held.isEmpty = true ↔ Holds held id := by
  constructor
  · intro vacant
    obtain ⟨entries⟩ := held
    obtain rfl : entries = [] := isEmpty_iff.mp vacant
    exact empty
  · exact fun holds => isEmpty_iff_get?.mpr (by simp [holds.get?])

variable (holds : Holds held owner)

include holds

/-- The states in resonators are those that are not at home. -/
theorem mem_values_iff : q ∈ held.values ↔ ¬owner.Home q := by
  rw [Table.mem_values_iff holds.distinct]
  simp only [holds.get?, Owners.Home, not_forall]
  constructor
  · rintro ⟨place, found⟩
    split at found
    · cases found
    · next away =>
      cases found
      exact ⟨place, rfl, Ne.symm away⟩
  · rintro ⟨place, rfl, away⟩
    exact ⟨place, by rw [if_neg (Ne.symm away)]⟩

/-- An occupation belongs to one map of owners. -/
theorem unique {last : Owners} (others : Holds held last) : owner = last := by
  funext name
  have same := (holds.get? name).symm.trans (others.get? name)
  by_cases home : owner name = name
  · by_cases there : last name = name
    · rw [home, there]
    · simp [home, there] at same
  · by_cases there : last name = name
    · simp [home, there] at same
    · simpa [home, there] using same

/-- A move turns an entry for its resonator on or off. -/
theorem toggle (ne : q ≠ res) :
    Holds (if owner res = res then held.insert res q else held.erase res)
      (owner.toggle q res) := by
  unfold Owners.toggle
  by_cases vacant : owner res = res
  · rw [if_pos vacant, if_pos vacant]
    refine ⟨nodup_keys_insert holds.distinct, fun name => ?_⟩
    rw [get?_insert, update_apply, holds.get?]
    by_cases same : name = res
    · simp [same, ne]
    · simp [same]
  · rw [if_neg vacant, if_neg vacant]
    refine ⟨nodup_keys_erase holds.distinct, fun name => ?_⟩
    rw [get?_erase, update_apply, holds.get?]
    by_cases same : name = res
    · simp [same]
    · simp [same]

/-- A move passes exactly if it is possible. -/
theorem moveStep_move_iff (named : s.name = "move")
    (located : s.locus = [q, res]) (ne : q ≠ res) :
    moveStep qubits resonators free held s = .ok next ↔
      (q ∈ qubits ∧ res ∈ resonators ∧
        (owner res = res ∧ owner.Home q ∨ owner res = q)) ∧
      (if owner res = res then held.insert res q else held.erase res) = next := by
  rw [Move.moveStep_move_iff named located, holds.get?, holds.mem_values_iff]
  by_cases vacant : owner res = res
  · simp [vacant, Ne.symm ne, and_assoc]
  · simp [vacant, and_assoc]

/-- Any other step passes exactly if it is free or acts on states that are at home, and changes nothing. -/
theorem moveStep_other_iff (named : s.name ≠ "move") :
    moveStep qubits resonators free held s = .ok next ↔
      (s.name ∉ free → ∀ name ∈ s.locus, owner.Home name) ∧ held = next := by
  simp only [Move.moveStep_other_iff named, holds.mem_values_iff, not_not]

end Holds

/-- The check of the moves of steps, from an occupation on, passes exactly for sandwiches, and the occupation that it
ends with is that of the last owners. -/
theorem foldlM_moveStep_iff (holds : Holds held owner)
    (apart : ∀ s ∈ ss, s.name = "move" → s.locus.Nodup) :
    (∃ final, ss.foldlM (moveStep arch.qubits arch.resonators free) held = .ok final ∧
      Holds final last) ↔ Sandwiched arch free owner ss last := by
  induction ss generalizing held owner with
  | nil =>
    constructor
    · rintro ⟨final, same, others⟩
      obtain rfl := pure_eq_ok_iff.mp same
      exact holds.unique others ▸ .nil owner
    · rintro ⟨⟩
      exact ⟨held, rfl, holds⟩
  | cons s rest ih =>
    have laterApart := fun next mem => apart next (mem_cons_of_mem s mem)
    simp only [foldlM_cons, bind_eq_ok_iff]
    by_cases named : s.name = "move"
    · constructor
      · rintro ⟨final, ⟨next, passed, rests⟩, ending⟩
        obtain ⟨q, res, located⟩ := locus_of_moveStep named passed
        have ne : q ≠ res := by simpa [located] using apart s mem_cons_self named
        obtain ⟨⟨mover, resonant, possible⟩, rfl⟩ := (holds.moveStep_move_iff named located ne).mp passed
        exact .move named located mover resonant possible
          ((ih (holds.toggle ne) laterApart).mp ⟨final, rests, ending⟩)
      · intro sandwiched
        cases sandwiched with
        | @move _ _ _ _ q res _ located mover resonant possible later =>
          have ne : q ≠ res := by simpa [located] using apart s mem_cons_self named
          obtain ⟨final, rests, ending⟩ := (ih (holds.toggle ne) laterApart).mpr later
          exact ⟨final, ⟨_, (holds.moveStep_move_iff named located ne).mpr
            ⟨⟨mover, resonant, possible⟩, rfl⟩, rests⟩, ending⟩
        | other ne => exact (ne named).elim
    · constructor
      · rintro ⟨final, ⟨next, passed, rests⟩, ending⟩
        obtain ⟨home, rfl⟩ := (holds.moveStep_other_iff named).mp passed
        exact .other named home ((ih holds laterApart).mp ⟨final, rests, ending⟩)
      · intro sandwiched
        cases sandwiched with
        | move same => exact (named same).elim
        | other _ home later =>
          obtain ⟨final, rests, ending⟩ := (ih holds laterApart).mpr later
          exact ⟨final, ⟨_, (holds.moveStep_other_iff named).mpr ⟨home, rfl⟩, rests⟩, ending⟩

/-- A circuit passes the strict check of its moves exactly if these form sandwiches that are all closed at the end. -/
theorem checkMoves_strict_iff (supported : arch.gates.contains "move" = true)
    (apart : ∀ s ∈ ss, s.name = "move" → s.locus.Nodup) :
    arch.checkMoves none .strict true ss = .ok () ↔ Sandwiched arch ["barrier"] id ss id := by
  rw [← foldlM_moveStep_iff Holds.empty apart]
  unfold checkMoves
  simp only [supported, renamed, reduceCtorEq, if_false, Bool.not_true, Bool.false_eq_true,
    bind_eq_ok_iff, Bool.true_and]
  refine exists_congr fun final => and_congr_right fun _ => ?_
  rw [← Holds.isEmpty_iff]
  exact check_eq_ok_iff (by simp)

section Written

open Tracker

/-- Once the states of some components were sent home, they are at home. -/
theorem home_of_sent {sent : Owners} {locus : List String}
    (owners : sent = fun name => if owner name ∈ locus then name else owner name) (mem : name ∈ locus) :
    sent.Home name := by
  intro place held
  rw [owners] at held
  dsimp only at held
  split at held
  · exact held
  · next apart => exact (apart (held ▸ mem)).elim

/-- Wherever a step is performed through a resonator, the implementation that it asks for can be used there. The tracker
is the one from which the steps are realised. -/
def Suited (architecture : Architecture) : Tracker → List Step → Prop
  | _, [] => True
  | tracker, step :: rest =>
    (∀ way implementation, architecture.checkStep none step ≠ .ok () → tracker.best step rest = .ok (some way) →
      step.implementation = some implementation →
      architecture.Implements "cz" implementation [way.gate, way.resonator]) ∧
    Suited architecture (tracker.after architecture step rest) rest

/-- A gate through a resonator is accepted exactly if the implementation that it asks for, if any, can be used there. -/
theorem Resolution.Resolves.checkStep_iff (resolves : way.Resolves arch s) :
    arch.checkStep none (s.at [way.gate, way.resonator]) = .ok () ↔
      ∀ impl, s.implementation = some impl →
        arch.Implements "cz" impl [way.gate, way.resonator] := by
  have named : (s.at [way.gate, way.resonator]).name = "cz" := resolves.named
  cases chosen : s.implementation with
  | none =>
    have accepted := checkStep_cz named chosen resolves.gated (List.Perm.refl _)
    simp [accepted]
  | some impl =>
    rw [checkStep_cz_of_chosen named chosen]
    simp [Circuit.Step.at]

section Tracked

variable (tracks : Tracks arch t)

include tracks

/-- A move that the chip accepts is between different components. -/
theorem nodup_of_accepted_move (named : s.name = "move")
    (accepted : arch.checkStep none s = .ok ()) : s.locus.Nodup := by
  obtain ⟨q, res, located, standing, resonant⟩ :=
    tracks.move_form _ (offers_of_checkStep_move named accepted)
  have ne : q ≠ res := fun same => standing (same ▸ resonant)
  simpa [located] using ne

/-- Moves one after the other are part of sandwiches. -/
theorem sandwiched_of_shifts (shifts : Shifts t moves middle)
    (known : Known arch moves) (later : Sandwiched arch free middle.owner rest last) :
    Sandwiched arch free t.owner (moves ++ rest) last := by
  induction shifts with
  | nil => exact later
  | @cons t _ _ q res moves first _ ih =>
    obtain ⟨standing, resonant⟩ := tracks.form_of_known first.known
    have component := known (moving q res) mem_cons_self q (by simp [moving])
    have mover := (mem_components_iff.mp component).resolve_right standing
    refine .move rfl rfl mover resonant ?_ ?_
    · cases first with
      | take _ vacant home => exact .inl ⟨vacant, home⟩
      | back _ held => exact .inr held
    · rw [← first.owner_eq tracks.sound]
      exact ih (tracks.shifts (.single first)) (fun s mem => known s (.tail _ mem)) later

variable (realisations : Realisations arch t ss inside middle)

include realisations

/-- The realisations of steps are part of sandwiches: every gate acts on states that are at home, and on resonators. -/
theorem sandwiched_of_realisations (known : Known arch inside)
    (later : Sandwiched arch free middle.owner rest last) :
    Sandwiched arch free t.owner (inside ++ rest) last := by
  induction realisations with
  | nil => exact later
  | cons _ first _ ih =>
    obtain ⟨knownFirst, knownOthers⟩ := known_append.mp known
    have next := ih (first.tracks tracks) knownOthers later
    rw [append_assoc]
    cases first with
    | moved _ _ _ shifts => exact sandwiched_of_shifts tracks shifts knownFirst next
    | kept _ named shifts owners =>
      rw [append_assoc]
      exact sandwiched_of_shifts tracks shifts (known_append.mp knownFirst).1
        (.other named (fun _ name mem => home_of_sent owners mem) next)
    | @resolved _ _ way _ _ chosen shifts home _ =>
      have resolves := best_resolves tracks chosen
      have sound := shifts.sound tracks.sound
      have present := sound.mem_resonators (((tracks.shifts shifts).moves_iff _ _).mpr resolves.movable)
      rw [append_assoc]
      refine sandwiched_of_shifts tracks shifts (known_append.mp knownFirst).1 (.other ?_ (fun _ => ?_) next)
      · simp [Circuit.Step.at, resolves.named]
      · simp only [Circuit.Step.at, forall_mem_cons]
        exact ⟨home, sound.home_of_mem present, by simp⟩

/-- Only a `cz` can be written that the chip does not accept. -/
theorem accepted_or_cz : ∀ s ∈ inside, arch.checkStep none s = .ok () ∨ s.name = "cz" :=
  realisations.forall_mem tracks (fun _ _ offered => .inl (checkStep_move rfl rfl offered))
    (fun _ _ accepted => .inl accepted) fun _ _ resolves => .inr resolves.named

/-- All steps that are written are accepted exactly if the steps are suited to where they are performed. -/
theorem accepted_iff_suited :
    (∀ s ∈ inside, arch.checkStep none s = .ok ()) ↔ Suited arch t ss := by
  induction realisations with
  | nil => simp [Suited]
  | cons returned first _ ih =>
    rw [Suited, after_eq returned, forall_mem_append, ih (first.tracks tracks)]
    refine and_congr_left fun _ => ?_
    cases first with
    | moved accepted _ _ shifts =>
      exact ⟨fun _ _ _ refused => (refused accepted).elim, fun _ => tracks.checkStep_of_shifts shifts⟩
    | kept accepted _ shifts =>
      refine ⟨fun _ _ _ refused => (refused accepted).elim, fun _ => forall_mem_append.mpr ⟨?_, ?_⟩⟩
      · exact tracks.checkStep_of_shifts shifts
      · exact forall_mem_singleton.mpr accepted
    | @resolved _ _ way refused _ chosen shifts =>
      have resolves := best_resolves tracks chosen
      rw [forall_mem_append, forall_mem_singleton, resolves.checkStep_iff]
      constructor
      · rintro ⟨-, usable⟩ other impl - same asked
        obtain rfl : way = other := by simpa using chosen.symm.trans same
        exact usable impl asked
      · intro usable
        exact ⟨tracks.checkStep_of_shifts shifts,
          fun impl asked => usable way impl refused chosen asked⟩

end Tracked

/-- All that an insertion writes is made of sandwiches, and all of them are closed. -/
theorem Course.sandwiched {finish : Tracker}
    (course : Course arch ss t middle finish inside closing) (free : List String) :
    Sandwiched arch free id (inside ++ closing) id := by
  obtain ⟨knownInside, knownClosing⟩ := known_append.mp course.known
  have closed : Sandwiched arch free middle.owner (closing ++ []) finish.owner :=
    sandwiched_of_shifts (course.realisations.tracks course.tracks) course.closes knownClosing (.nil finish.owner)
  rw [append_nil, course.home] at closed
  have whole := sandwiched_of_realisations course.tracks course.realisations knownInside closed
  rwa [course.fresh] at whole

theorem Course.nodup_of_move {finish : Tracker}
    (course : Course arch ss t middle finish inside closing) :
    ∀ s ∈ inside ++ closing, s.name = "move" → s.locus.Nodup := by
  intro s mem named
  apply nodup_of_accepted_move course.tracks named
  rcases mem_append.mp mem with within | after
  · refine (accepted_or_cz course.tracks course.realisations s within).resolve_right fun other => ?_
    simp [named] at other
  · exact (course.realisations.tracks course.tracks).checkStep_of_shifts course.closes s after

/-- What the insertion of moves writes always passes the strict check of moves, with all sandwiches closed. Its single
steps all fit the chip exactly if every gate that is performed through a resonator finds the implementation that it
asks for there; in particular if no step asks for one. -/
theorem inserted_executable_iff (supported : architecture.gates.contains "move" = true) {existing : Existing}
    {circuit made : Circuit} {mapping : Option Mapping}
    (returned : insert architecture existing none true circuit = .ok (made, mapping)) :
    architecture.checkMoves none .strict true made.steps = .ok () ∧
      ∃ tracker given, ofArchitecture architecture = .ok tracker ∧ prepared existing circuit = .ok given ∧
        ((∀ step ∈ made.steps, architecture.checkStep none step = .ok ()) ↔
          Suited architecture tracker given.steps) := by
  obtain ⟨tracker, given, middle, last, inside, closing, tracked, prepares, -, course, rfl⟩ :=
    course_of_insert supported returned
  have closed := course.realisations.tracks course.tracks
  refine ⟨?_, tracker, given, tracked, prepares, ?_⟩
  · rw [checkMoves_strict_iff supported course.nodup_of_move]
    exact course.sandwiched ["barrier"]
  · rw [← accepted_iff_suited course.tracks course.realisations, List.forall_mem_append]
    exact and_iff_left (closed.checkStep_of_shifts course.closes)

/-- A gate that asks for the implementation of the other qubit is performed all the same, and what is written for it is
refused by the chip. -/
theorem inserted_unsuited_twoQubitStar :
    ∃ made mapping, insert twoQubitStar .keep none true (pairCircuit (some "y")) = .ok (made, mapping) ∧
      twoQubitStar.checkMoves none .strict true made.steps = .ok () ∧
      ¬∀ step ∈ made.steps, twoQubitStar.checkStep none step = .ok () := by
  obtain ⟨made, mapping, returned⟩ := insert_pairCircuit .keep (some "y")
  obtain ⟨closed, tracker, given, tracked, prepares, accepted⟩ := inserted_executable_iff rfl returned
  refine ⟨made, mapping, returned, closed, fun all => ?_⟩
  cases prepares
  cases ofArchitecture_twoQubitStar.symm.trans tracked
  obtain ⟨gate, loci, found, listed, known, member, reordered⟩ :=
    (accepted.mp all).1 ⟨"QB1", "QB2", "CR1"⟩ "y" (realisable_twoQubitStar rfl rfl).1 rfl rfl
  cases found
  cases listed
  cases List.mem_singleton.mp member
  exact absurd reordered (by decide)

end Written

/-!
# What a circuit with moves means

Steps mean what they do to the states of qubits: what is done to a resonator is done to the qubit whose state it holds,
and moves do nothing themselves. Taking moves out of a circuit of sandwiches gives exactly its meaning.
-/

/-- The meaning of steps, from given owners on: each step acts on the qubits whose states its components hold. -/
def meaning : Owners → List Step → List Step
  | _, [] => []
  | owner, step :: rest =>
    if step.name = "move" then meaning (owner.after step) rest
    else step.at (step.locus.map owner) :: meaning owner rest

namespace Tracker

variable {first second : String} {loci : Table String Partners}

/-- The loci so far, with the one that a step uses. -/
def entered (loci : Table String Partners) (step : Step) : Table String Partners :=
  match step.locus with
  | [first, second] =>
    if gateNames.contains step.name then loci.update step.name ∅ fun partners => partners.add first second else loci
  | _ => loci

/-- A tracker of a circuit can be made if all its operations on resonators act on pairs. -/
theorem ofSteps_eq (pairs : ∀ s ∈ ss, s.name ∈ gateNames → ∃ first second, s.locus = [first, second]) :
    ofSteps ss = .ok (ofLoci (ss.foldl entered ∅)) := by
  unfold ofSteps
  rw [bind_eq_ok_iff]
  refine ⟨_, ?_, rfl⟩
  generalize (∅ : Table String Partners) = loci
  induction ss generalizing loci with
  | nil => rfl
  | cons s rest ih =>
    rw [foldlM_cons, foldl_cons, ← ih (fun next mem => pairs next (.tail _ mem))]
    by_cases gate : s.name ∈ gateNames
    · obtain ⟨first, second, located⟩ := pairs s mem_cons_self gate
      simp [entered, gate, located]
    · have unused : entered loci s = loci := by
        unfold entered
        split
        · simp [gate]
        · rfl
      simp [gate, unused]

/-- A step adds the locus that it uses. -/
theorem mem_getD_entered :
    second ∈ Partners.of ((entered loci s).getD name ∅) first ↔ second ∈ Partners.of (loci.getD name ∅) first ∨
      s.name ∈ gateNames ∧ s.name = name ∧ s.locus = [first, second] := by
  unfold entered
  split
  · next a b located =>
    by_cases gate : s.name ∈ gateNames
    · by_cases same : name = s.name
      · subst same
        simp [gate, located, Table.update, Table.getD, eq_comm]
      · simp [gate, Table.update, Table.getD, Table.get?_insert, same, Ne.symm same]
    · simp [gate]
  · next noPair =>
    have ne : s.locus ≠ [first, second] := noPair first second
    simp [ne]

/-- The loci of a circuit's tracker are those that its steps use. -/
theorem mem_getD_foldl_entered :
    second ∈ Partners.of ((ss.foldl entered loci).getD name ∅) first ↔ second ∈ Partners.of (loci.getD name ∅) first ∨
      ∃ s ∈ ss, s.name ∈ gateNames ∧ s.name = name ∧ s.locus = [first, second] := by
  induction ss generalizing loci with
  | nil => simp
  | cons s rest ih =>
    rw [foldl_cons, ih, mem_getD_entered, or_assoc]
    simp only [exists_mem_cons_iff]

theorem nodup_keys_foldl_entered (nodup : (loci.getD name ∅).keys.Nodup) :
    ((ss.foldl entered loci).getD name ∅).keys.Nodup := by
  induction ss generalizing loci with
  | nil => exact nodup
  | cons s rest ih =>
    apply ih
    unfold entered
    split
    · by_cases gate : s.name ∈ gateNames
      · by_cases same : name = s.name
        · subst same
          simpa [gate, Table.update, Table.getD, Table.get?_insert] using Partners.nodup_keys_add nodup
        · simpa [gate, Table.update, Table.getD, Table.get?_insert, same] using nodup
      · simpa [gate] using nodup
    · exact nodup

/-- The tracker of a circuit knows all moves that the circuit makes, and its resonators are empty. -/
theorem ofSteps_ok (pairs : ∀ s ∈ ss, s.name ∈ gateNames → ∃ first second, s.locus = [first, second]) :
    ∃ t, ofSteps ss = .ok t ∧ t.owner = id ∧
      ∀ s ∈ ss, s.name = "move" → ∀ q res, s.locus = [q, res] →
        res ∈ t.resonators ∧ q ∈ t.movers.of res := by
  refine ⟨_, ofSteps_eq pairs, funext (ofLoci_owner _), ?_⟩
  intro s mem named q res located
  have nodup : (ofLoci (ss.foldl entered ∅)).moves.keys.Nodup := nodup_keys_foldl_entered (by simp [Table.getD])
  have known : res ∈ (ofLoci (ss.foldl entered ∅)).moves.of q :=
    mem_getD_foldl_entered.mpr (.inr ⟨s, mem, by simp [named, gateNames], named, located⟩)
  constructor
  · rw [ofLoci_resonators, Partners.mem_keys_inverse nodup]
    exact ⟨q, known⟩
  · exact (Partners.mem_of_inverse nodup).mpr known

end Tracker

theorem meaning_move (named : s.name = "move") :
    meaning owner (s :: rest) = meaning (owner.after s) rest := by
  simp [meaning, named]

theorem meaning_other (named : s.name ≠ "move") :
    meaning owner (s :: rest) = s.at (s.locus.map owner) :: meaning owner rest := by
  simp [meaning, named]

/-- Every move finds its resonator empty, or with the state of its own qubit. -/
def Movable : Owners → List Step → Prop
  | _, [] => True
  | owner, step :: rest =>
    (step.name = "move" → ∃ qubit resonator, step.locus = [qubit, resonator] ∧
      (owner resonator = resonator ∨ owner resonator = qubit)) ∧ Movable (owner.after step) rest

/-- A tracker lets a move pass exactly if it knows the move and the resonator is empty or holds the qubit's state. -/
theorem Tracker.move_eq_ok_iff {t last : Tracker} {q res : String}
    (present : res ∈ t.resonators) (mover : q ∈ t.movers.of res) :
    t.move q res = .ok last ↔
      (t.owner res = res ∨ t.owner res = q) ∧
      t.withOwner res (if t.owner res = res then q else res) = last := by
  by_cases free : t.owner res = res ∨ t.owner res = q
  · rw [Tracker.move_eq_ok present mover free]
    simp [free]
  · obtain ⟨occupied, foreign⟩ := not_or.mp free
    have refused : t.moved? q res = none := by
      simp [moved?, get?_owners present, occupied, foreign]
    simp [Tracker.move, refused, free]

/-- Moves can be taken out exactly if each of them is possible, and what is left is the meaning of the steps. -/
theorem withoutMoves_eq_ok_iff {made : List Step}
    (known : ∀ s ∈ ss, s.name = "move" → ∀ q res, s.locus = [q, res] →
      res ∈ t.resonators ∧ q ∈ t.movers.of res) :
    withoutMoves t ss = .ok made ↔ Movable t.owner ss ∧ meaning t.owner ss = made := by
  induction ss generalizing t made with
  | nil => simp [withoutMoves, Movable, meaning]
  | cons s rest ih =>
    have laterKnown := fun next mem => known next (mem_cons_of_mem s mem)
    by_cases named : s.name = "move"
    · unfold withoutMoves Movable
      simp only [named, if_true, meaning_move, true_imp_iff]
      split
      · next q res located =>
        obtain ⟨present, mover⟩ := known s mem_cons_self named q res located
        have owners : ∀ next, (t.withOwner res next).owner = update t.owner res next :=
          fun _ => Tracker.withOwner_owner
        have laterKnown' : ∀ next, ∀ s ∈ rest, s.name = "move" → ∀ other place, s.locus = [other, place] →
            place ∈ (t.withOwner res next).resonators ∧
              other ∈ (t.withOwner res next).movers.of place := by
          intro next
          rw [Tracker.withOwner_resonators present]
          exact laterKnown
        simp only [bind_eq_ok_iff, Tracker.move_eq_ok_iff present mover, and_assoc, exists_and_left,
          exists_eq_left', ih (laterKnown' _), owners, Owners.after_move named located, Owners.toggle, located]
        simp
      · next other =>
        simp only [fail_eq_ok_iff, false_iff]
        rintro ⟨⟨⟨q, res, located, -⟩, -⟩, -⟩
        exact other q res located
    · simp only [withoutMoves, Movable, named, if_false, false_imp_iff, true_and, meaning_other named,
        Owners.after_other named, bind_eq_ok_iff, pure_eq_ok_iff, ih laterKnown,
        Tracker.resolve_eq_map, and_assoc, exists_and_left, exists_eq_left']

/-- A tracker of a circuit is only made if all operations on resonators act on pairs. -/
theorem Tracker.pairs_of_ofSteps {t : Tracker} (tracked : Tracker.ofSteps ss = .ok t) :
    ∀ s ∈ ss, s.name ∈ Tracker.gateNames → ∃ first second, s.locus = [first, second] := by
  obtain ⟨loci, folded, -⟩ := bind_eq_ok_iff.mp tracked
  clear tracked
  revert folded
  generalize (∅ : Table String Partners) = start
  intro folded
  induction ss generalizing start with
  | nil => simp
  | cons s rest ih =>
    obtain ⟨next, first, later⟩ := bind_eq_ok_iff.mp folded
    refine forall_mem_cons.mpr ⟨fun gate => ?_, ih next later⟩
    simp only [contains_iff_mem, gate, if_true] at first
    split at first
    · next a b located => exact ⟨a, b, located⟩
    · simp at first

/-- Moves can be taken out of a circuit exactly if its operations on resonators act on pairs and each move is
possible from empty resonators on. -/
theorem remove_eq_ok_iff {c given : Circuit} :
    remove c = .ok given ↔
      (∀ s ∈ c.steps, s.name ∈ Tracker.gateNames → ∃ first second, s.locus = [first, second]) ∧
      Movable id c.steps ∧ { c with steps := meaning id c.steps } = given := by
  constructor
  · intro removed
    obtain ⟨t, tracked, removed⟩ := bind_eq_ok_iff.mp removed
    have pairs := Tracker.pairs_of_ofSteps tracked
    obtain ⟨same, found, owners, known⟩ := Tracker.ofSteps_ok pairs
    obtain rfl : same = t := by simpa using found.symm.trans tracked
    obtain ⟨left, taken, made⟩ := bind_eq_ok_iff.mp removed
    obtain ⟨movable, rfl⟩ := (withoutMoves_eq_ok_iff known).mp taken
    rw [owners] at movable made
    exact ⟨pairs, movable, pure_eq_ok_iff.mp made⟩
  · rintro ⟨pairs, movable, rfl⟩
    obtain ⟨t, tracked, owners, known⟩ := Tracker.ofSteps_ok pairs
    rw [← owners] at movable ⊢
    rw [remove, tracked, ok_bind, (withoutMoves_eq_ok_iff known).mpr ⟨movable, rfl⟩]
    rfl

theorem Sandwiched.movable (sandwiched : Sandwiched arch free owner ss last) : Movable owner ss := by
  induction sandwiched with
  | nil => trivial
  | move named located _ _ possible _ ih =>
    refine ⟨fun _ => ⟨_, _, located, possible.imp_left And.left⟩, ?_⟩
    rwa [Owners.after_move named located]
  | other named _ _ ih =>
    refine ⟨fun same => (named same).elim, ?_⟩
    rwa [Owners.after_other named]

theorem Sandwiched.pair_of_move
    (sandwiched : Sandwiched arch free owner ss last) (mem : s ∈ ss) (named : s.name = "move") :
    ∃ q res, s.locus = [q, res] := by
  induction sandwiched with
  | nil => simp at mem
  | move _ located _ _ _ _ ih =>
    rcases mem_cons.mp mem with rfl | later
    · exact ⟨_, _, located⟩
    · exact ih later
  | other ne _ _ ih =>
    rcases mem_cons.mp mem with rfl | later
    · exact (ne named).elim
    · exact ih later

theorem Sandwiched.other_of_ne
    (sandwiched : Sandwiched arch free owner (s :: rest) last) (named : s.name ≠ "move") :
    (s.name ∉ free → ∀ name ∈ s.locus, owner.Home name) ∧ Sandwiched arch free owner rest last := by
  cases sandwiched with
  | move same => exact (named same).elim
  | other _ home later => exact ⟨home, later⟩

/-- Taking the moves out of a circuit of sandwiches is never refused and gives its meaning. -/
theorem remove_eq (c : Circuit) (sandwiched : Sandwiched arch free id c.steps last)
    (paired : ∀ s ∈ c.steps, Paired s) :
    remove c = .ok { c with steps := meaning id c.steps } := by
  have pairs : ∀ s ∈ c.steps, s.name ∈ Tracker.gateNames →
      ∃ first second, s.locus = [first, second] := by
    intro s mem gate
    rcases mem_cons.mp gate with named | later
    · exact paired s mem named
    · exact sandwiched.pair_of_move mem (mem_singleton.mp later)
  exact remove_eq_ok_iff.mpr ⟨pairs, sandwiched.movable, rfl⟩

/-- The same step, except that a `cz` may have its two components exchanged. -/
structure Alike (step other : Step) : Prop where
  name : step.name = other.name
  arguments : step.arguments = other.arguments
  implementation : step.implementation = other.implementation
  locus : step.locus = other.locus ∨
    step.name = "cz" ∧ ∃ first second, step.locus = [first, second] ∧ other.locus = [second, first]

section Undisturbed

open Tracker

/-- Whatever moves a circuit makes itself, the insertion of moves has the same states in the components of every other
step when it writes that step. The owners are those that the circuit means. -/
def Undisturbed (architecture : Architecture) : Owners → Tracker → List Step → Prop
  | _, _, [] => True
  | owner, tracker, step :: rest =>
    (step.name ≠ "move" → ∀ name ∈ step.locus, owner name = (tracker.after architecture step rest).owner name) ∧
      Undisturbed architecture (owner.after step) (tracker.after architecture step rest) rest

/-- A step on components that hold their own states means itself. -/
theorem at_map_of_own (own : ∀ name ∈ s.locus, owner name = name) : s.at (s.locus.map owner) = s := by
  rw [map_congr_left own, map_id']
  rfl

/-- Moves do nothing themselves. -/
theorem meaning_shifts (sound : t.Sound) (shifts : Shifts t moves middle) (rest : List Step) :
    meaning t.owner (moves ++ rest) = meaning middle.owner rest := by
  induction shifts with
  | nil => rfl
  | cons first _ ih =>
    rw [cons_append, meaning_move rfl, Owners.after_moving, ← first.owner_eq sound]
    exact ih (first.sound sound)

theorem paired_moving (q res : String) : Paired (moving q res) := by
  simp [Paired, moving]

/-- A gate through a resonator means the gate between the two qubits. -/
theorem Resolution.Resolves.alike (resolves : way.Resolves arch s)
    (separate : Separate s) (own : ∀ name ∈ s.locus, owner name = name)
    (there : way.gate ≠ way.moved → owner way.resonator = way.moved) :
    Alike s ((s.at [way.gate, way.resonator]).at ([way.gate, way.resonator].map owner)) := by
  refine ⟨rfl, rfl, rfl, ?_⟩
  simp only [Circuit.Step.at, map_cons, map_nil, own _ resolves.gate_mem,
    there (resolves.gate_ne_moved separate)]
  rcases resolves.qubits with located | located
  · exact .inl located
  · exact .inr ⟨resolves.named, _, _, located, rfl⟩

section Tracked

variable (tracks : Tracks arch t)

include tracks

/-- A `cz` that the chip accepts acts on a pair with a component that is no resonator. -/
theorem pair_of_checkStep_cz (named : s.name = "cz") (accepted : arch.checkStep none s = .ok ()) :
    ∃ first second, s.locus = [first, second] ∧
      (first ∉ arch.resonators ∨ second ∉ arch.resonators) := by
  obtain ⟨locus, offered, reordered⟩ := offers_of_checkStep_cz named accepted
  obtain ⟨first, second, rfl, standing⟩ := tracks.cz_form _ offered
  rcases eq_or_eq_of_pair_perm reordered with same | same
  · exact ⟨first, second, same, .inl standing⟩
  · exact ⟨second, first, same, .inr standing⟩

theorem paired_of_accepted
    (accepted : arch.checkStep none s = .ok ()) : Paired s := by
  intro named
  obtain ⟨first, second, located, -⟩ := pair_of_checkStep_cz tracks named accepted
  exact ⟨first, second, located⟩

/-- An accepted gate means the same for two maps of owners exactly if they agree on its components. An exchange of the
two states of a `cz` is impossible, since one component is a qubit whose state is at home. -/
theorem alike_map_iff (strict : "cz" ∉ free) (accepted : arch.checkStep none s = .ok ())
    (within : ∀ name, owner name ≠ name → name ∈ t.resonators)
    (home : s.name ∉ free → ∀ name ∈ s.locus, owner.Home name) :
    Alike (s.at (s.locus.map owner)) (s.at (s.locus.map t.owner)) ↔
      ∀ name ∈ s.locus, owner name = t.owner name := by
  have standing : ∀ name, name ∉ arch.resonators → owner name = name ∧ t.owner name = name := by
    intro name absent
    have apart : name ∉ t.resonators := fun present => absent (tracks.mem_resonators present)
    exact ⟨by_contra fun away => apart (within name away), owner_of_not_mem apart⟩
  constructor
  · rintro ⟨-, -, -, same | ⟨named, x, y, first, second⟩⟩
    · exact map_inj_left.mp same
    · have gate : s.name = "cz" := named
      have homes := home (gate ▸ strict)
      obtain ⟨a, b, located, q⟩ := pair_of_checkStep_cz tracks gate accepted
      rw [located] at homes ⊢
      simp only [Circuit.Step.at, located, map_cons, map_nil, cons.injEq, and_true] at first second
      simp only [forall_mem_cons, not_mem_nil, false_imp_iff, implies_true, and_true]
      obtain ⟨homeA, homeB, -⟩ : owner.Home a ∧ owner.Home b ∧ True := by simpa using homes
      rcases q with absent | absent
      · obtain ⟨own, tracked⟩ := standing a absent
        have same : b = a := homeA b (by rw [first.2, ← second.1, tracked])
        subst same
        exact ⟨own.trans tracked.symm, own.trans tracked.symm⟩
      · obtain ⟨own, tracked⟩ := standing b absent
        have same : a = b := homeB a (by rw [first.1, ← second.2, tracked])
        subst same
        exact ⟨own.trans tracked.symm, own.trans tracked.symm⟩
  · intro agree
    exact ⟨rfl, rfl, rfl, .inl (map_inj_left.mpr agree)⟩

variable (realisations : Realisations arch t ss inside middle)

include realisations

/-- Every `cz` that is written acts on a pair. -/
theorem paired_of_realisations : ∀ s ∈ inside, Paired s :=
  realisations.forall_mem tracks (fun q res _ => paired_moving q res)
    (fun _ _ accepted => paired_of_accepted tracks accepted) fun _ _ _ _ => ⟨_, _, rfl⟩

/-- What is written for steps means nothing exactly if the steps are moves. -/
theorem meaning_realised_eq_nil_iff {closing : List Step} (silent : meaning middle.owner closing = []) :
    meaning t.owner (inside ++ closing) = [] ↔ ∀ s ∈ ss, s.name = "move" := by
  induction realisations with
  | nil => simp [silent]
  | @cons t between _ s rest written others returned first _ ih =>
    rw [append_assoc, forall_mem_cons]
    cases first with
    | moved accepted named located shifts _ =>
      rw [meaning_shifts tracks.sound shifts, ih (tracks.shifts shifts) silent]
      simp [named]
    | kept accepted named shifts _ =>
      rw [append_assoc, meaning_shifts tracks.sound shifts, singleton_append, meaning_other named]
      simp [named]
    | resolved refused apart chosen shifts _ there =>
      have named : s.name ≠ "move" := by simp [(best_resolves tracks chosen).named]
      rw [append_assoc, meaning_shifts tracks.sound shifts, singleton_append, meaning_other (by exact named)]
      simp [named]

/-- What is written for steps means the same as the steps exactly if the insertion leaves every other step undisturbed.

The circuit's own owners and those of the tracker run side by side over the steps. A move changes the first as the
circuit says and the second as the tracker likes; at every other step the two meanings are compared. -/
theorem meaning_alike_iff (strict : "cz" ∉ free)
    (separate : ∀ s ∈ ss, arch.checkStep none s ≠ .ok () → Separate s)
    (sandwiched : Sandwiched arch free owner ss last)
    (within : ∀ name, owner name ≠ name → name ∈ t.resonators) {closing : List Step}
    (silent : meaning middle.owner closing = []) :
    List.Forall₂ Alike (meaning owner ss) (meaning t.owner (inside ++ closing)) ↔
      Undisturbed arch owner t ss := by
  induction realisations generalizing owner with
  | nil => simp [meaning, Undisturbed, silent]
  | @cons t between _ s rest written others returned first _ ih =>
    have laterSeparate := fun next mem => separate next (mem_cons_of_mem s mem)
    have later {following : Owners} (sandwiched : Sandwiched arch free following rest last)
        (within : ∀ name, following name ≠ name → name ∈ between.resonators) :=
      ih (first.tracks tracks) laterSeparate sandwiched within silent
    have stays {moves : List Step} (shifts : Shifts t moves between) (name : String) (away : owner name ≠ name) :
        name ∈ between.resonators := shifts.resonators_eq tracks.sound ▸ within name away
    rw [Undisturbed, after_eq returned, append_assoc]
    cases first with
    | @moved _ _ q res accepted named located shifts _ =>
      have known := (tracks.moves_iff q res).mpr (located ▸ offers_of_checkStep_move named accepted)
      have toggled : ∀ name, owner.after s name ≠ name → name ∈ between.resonators := by
        intro name away
        rw [shifts.resonators_eq tracks.sound]
        by_cases same : name = res
        · exact same ▸ tracks.sound.mem_resonators known
        · apply within
          simpa [Owners.after_move named located, Owners.toggle, update_of_ne same] using away
      have following : Sandwiched arch free (owner.after s) rest last := by
        cases sandwiched with
        | move _ sameLocus _ _ _ later => exact Owners.after_move named sameLocus ▸ later
        | other ne => exact (ne named).elim
      rw [meaning_move named, meaning_shifts tracks.sound shifts, later following toggled]
      simp [named]
    | kept accepted named shifts _ =>
      obtain ⟨home, following⟩ := sandwiched.other_of_ne named
      rw [append_assoc, meaning_shifts tracks.sound shifts, singleton_append, meaning_other named,
        meaning_other named, forall₂_cons, alike_map_iff (tracks.shifts shifts) strict accepted (stays shifts) home,
        later following (stays shifts), Owners.after_other named]
      simp [named]
    | @resolved _ _ way refused apart chosen shifts _ there =>
      have resolves := best_resolves tracks chosen
      have named : s.name ≠ "move" := by simp [resolves.named]
      obtain ⟨-, following⟩ := sandwiched.other_of_ne named
      have own : ∀ name ∈ s.locus, owner name = name :=
        fun name mem => by_contra fun away => apart name mem (within name away)
      have tracked : ∀ name ∈ s.locus, between.owner name = name := fun name mem =>
        owner_of_not_mem (shifts.resonators_eq tracks.sound ▸ apart name mem)
      have alike := resolves.alike (separate s mem_cons_self refused) tracked there
      have performed : (s.at [way.gate, way.resonator]).name ≠ "move" := named
      rw [append_assoc, meaning_shifts tracks.sound shifts, singleton_append, meaning_other named,
        meaning_other performed, forall₂_cons, at_map_of_own own, later following (stays shifts),
          Owners.after_other named]
      exact and_congr_left fun _ =>
        ⟨fun _ _ name mem => (own name mem).trans (tracked name mem).symm, fun _ => alike⟩

/-- Every `cz` of a circuit that is realised acts on a pair. -/
theorem paired_of_realised : ∀ s ∈ ss, Paired s := by
  intro s mem
  rcases realisations.accepted_or_resolves tracks s mem with accepted | ⟨way, resolves⟩
  · exact paired_of_accepted tracks accepted
  · exact resolves.paired

/-- The moves of a circuit that is realised are between different components. -/
theorem nodup_of_realised_move : ∀ s ∈ ss, s.name = "move" → s.locus.Nodup := by
  intro s mem named
  rcases realisations.accepted_or_resolves tracks s mem with accepted | ⟨way, resolves⟩
  · exact nodup_of_accepted_move tracks named accepted
  · simpa [named] using resolves.named

end Tracked

namespace Course

variable {finish : Tracker} (course : Course arch ss t middle finish inside closing)

include course

theorem silent : meaning middle.owner closing = [] := by
  have sound := (course.realisations.tracks course.tracks).sound
  simpa [meaning] using meaning_shifts sound course.closes []

/-- Taking the moves out of what an insertion wrote is never refused. -/
theorem remove_eq (given : Circuit) :
    remove { given with steps := inside ++ closing } = .ok { given with steps := meaning id (inside ++ closing) } := by
  have tracks := course.realisations.tracks course.tracks
  have paired : ∀ s ∈ inside ++ closing, Paired s :=
    forall_mem_append.mpr ⟨paired_of_realisations course.tracks course.realisations,
      tracks.forall_mem_shifts course.closes fun q res _ => paired_moving q res⟩
  exact Move.remove_eq { given with steps := inside ++ closing } (course.sandwiched []) paired

/-- What an insertion writes means nothing exactly if the circuit has moves only. -/
theorem meaning_eq_nil_iff : meaning id (inside ++ closing) = [] ↔ ∀ s ∈ ss, s.name = "move" :=
  course.fresh ▸ meaning_realised_eq_nil_iff course.tracks course.realisations course.silent

/-- An insertion keeps the meaning of a circuit of sandwiches exactly if it leaves the circuit undisturbed. -/
theorem alike_iff (strict : "cz" ∉ free)
    (separate : ∀ s ∈ ss, arch.checkStep none s ≠ .ok () → Separate s)
    (sandwiched : Sandwiched arch free id ss last) :
    List.Forall₂ Alike (meaning id ss) (meaning id (inside ++ closing)) ↔
      Undisturbed arch id t ss := by
  have compared := meaning_alike_iff course.tracks course.realisations strict separate sandwiched (by simp) course.silent
  rwa [course.fresh] at compared

end Course

theorem meaning_eq_nil_iff {owner : Owners} : meaning owner ss = [] ↔ ∀ s ∈ ss, s.name = "move" := by
  induction ss generalizing owner with
  | nil => simp [meaning]
  | cons s rest ih => by_cases named : s.name = "move" <;> simp [meaning, named, ih]

/-- A circuit whose moves can be taken out is refused only if nothing is left of it. -/
theorem removed_eq {c made : Circuit} (removes : remove c = .ok made) :
    removed c = if made.steps = [] then refuse "Each circuit should have at least one instruction." else .ok made := by
  rw [removed, removes]
  obtain ⟨name, steps, notes⟩ := made
  cases steps <;> rfl

/-- Moves that are put into a circuit whose own moves stay keep its meaning exactly if they leave it undisturbed. A
circuit of moves only has no meaning: with or without the moves that are put in, nothing is left without moves, and that
is refused. Every other circuit can be rid of its moves before and after, and the results are compared step by step. -/
theorem kept_moves_alike_iff (supported : architecture.gates.contains "move" = true) {circuit made : Circuit}
    {mapping : Option Mapping}
    (separate : ∀ step ∈ circuit.steps, architecture.checkStep none step ≠ .ok () → Separate step)
    (returned : insert architecture .keep none true circuit = .ok (made, mapping)) :
    ((∀ step ∈ circuit.steps, step.name = "move") → ∀ given ∈ [circuit, made],
      removed given = refuse "Each circuit should have at least one instruction.") ∧
    ((∃ step ∈ circuit.steps, step.name ≠ "move") → ∃ tracker before after,
      ofArchitecture architecture = .ok tracker ∧ removed circuit = .ok before ∧ removed made = .ok after ∧
      (List.Forall₂ Alike before.steps after.steps ↔ Undisturbed architecture id tracker circuit.steps)) := by
  obtain ⟨tracker, given, middle, last, inside, closing, tracked, prepares, checked, course, rfl⟩ :=
    course_of_insert supported returned
  obtain rfl : circuit = given := Except.ok.inj prepares
  have sandwiched : Sandwiched architecture ["barrier"] id circuit.steps id :=
    (checkMoves_strict_iff supported (nodup_of_realised_move course.tracks course.realisations)).mp (checked rfl)
  have before := removed_eq (remove_eq circuit sandwiched (paired_of_realised course.tracks course.realisations))
  have after := removed_eq (course.remove_eq circuit)
  simp only [meaning_eq_nil_iff] at before
  simp only [course.meaning_eq_nil_iff] at after
  constructor
  · intro bare
    rw [if_pos bare] at before after
    simp [before, after]
  · rintro ⟨step, member, named⟩
    have filled : ¬∀ s ∈ circuit.steps, s.name = "move" := fun bare => named (bare step member)
    rw [if_neg filled] at before after
    exact ⟨tracker, _, _, tracked, before, after, course.alike_iff (by decide) separate sandwiched⟩

/-- A `cz` between two qubits, followed by another one that the circuit performs through the resonator itself. -/
def sandwichCircuit : Circuit where
  name := "sandwich"
  steps := [gating "QB1" "QB2", moving "QB2" "CR1", gating "QB1" "CR1", moving "QB2" "CR1"]

theorem accepted_sandwichCircuit : twoQubitStar.checkStep none (moving "QB2" "CR1") = .ok () ∧
    twoQubitStar.checkStep none (gating "QB1" "CR1") = .ok () := by
  constructor
  · exact checkStep_move rfl rfl (offers_twoQubitStar_iff.mpr ⟨.inr rfl, .inr rfl⟩)
  · exact checkStep_cz rfl rfl (offers_twoQubitStar_iff.mpr ⟨.inl rfl, .inl rfl⟩) (List.Perm.refl _)

theorem insert_sandwichCircuit :
    ∃ made m, insert twoQubitStar .keep none true sandwichCircuit = .ok (made, m) := by
  have pair := (realisable_twoQubitStar (rfl : (gating "QB1" "QB2").name = "cz") rfl).2
  obtain ⟨move, gate⟩ := accepted_sandwichCircuit
  refine insert_returns isStar_twoQubitStar true rfl ?_ (fun _ => rfl) ?_ ?_
  · simp [Known, sandwichCircuit, gating, moving, twoQubitStar]
  · simp only [sandwichCircuit, forall_mem_cons]
    exact ⟨pair, .inl move, .inl gate, .inl move, by simp⟩
  · simp [Paired, sandwichCircuit, gating, moving]

/-- The first gate leaves the state of the second qubit in the resonator, so that the circuit's own move takes it out
again, and the second gate acts on an empty resonator. -/
theorem disturbed_sandwichCircuit : ¬Undisturbed twoQubitStar id twoQubitTracker sandwichCircuit.steps := by
  rintro ⟨-, -, second, -⟩
  have chosen : twoQubitTracker.best (gating "QB1" "QB2") [moving "QB2" "CR1", gating "QB1" "CR1", moving "QB2" "CR1"] =
      .ok (some ⟨"QB1", "QB2", "CR1"⟩) := rfl
  obtain ⟨move, gate⟩ := accepted_sandwichCircuit
  obtain ⟨tracks, taken⟩ := tracks_after_refused (tracks_of_ofArchitecture ofArchitecture_twoQubitStar).1
    (realisable_twoQubitStar rfl rfl).1 (by decide) (by simp [Separate, gating]) chosen
  obtain ⟨nextTracks, owners, -⟩ := tracks_after_accepted tracks move [gating "QB1" "CR1", moving "QB2" "CR1"]
  obtain ⟨-, -, sent⟩ := tracks_after_accepted nextTracks gate [moving "QB2" "CR1"]
  have emptied : (twoQubitTracker.after twoQubitStar _ _).owner.brought "QB2" "CR1" "CR1" = "CR1" := if_pos taken
  have held : "QB2" = _ := second (by decide) "CR1" (by decide)
  rw [sent (by decide), owners _ _ rfl rfl] at held
  dsimp only at held
  rw [emptied] at held
  exact absurd held (by decide)

/-- The moves that are put into this circuit change its meaning. -/
theorem kept_moves_not_alike_sandwichCircuit :
    ∃ made mapping before after, insert twoQubitStar .keep none true sandwichCircuit = .ok (made, mapping) ∧
      removed sandwichCircuit = .ok before ∧ removed made = .ok after ∧ ¬List.Forall₂ Alike before.steps after.steps := by
  obtain ⟨made, mapping, returned⟩ := insert_sandwichCircuit
  have separate : ∀ step ∈ sandwichCircuit.steps, twoQubitStar.checkStep none step ≠ .ok () → Separate step := by
    simp [sandwichCircuit, Separate, gating, moving]
  obtain ⟨tracker, before, after, tracked, removed, restored, alike⟩ :=
    (kept_moves_alike_iff rfl separate returned).2 ⟨_, mem_cons_self, by decide⟩
  cases ofArchitecture_twoQubitStar.symm.trans tracked
  exact ⟨made, mapping, before, after, returned, removed, restored,
    fun same => disturbed_sandwichCircuit (alike.mp same)⟩

end Undisturbed

/-!
# Which states a circuit with moves acts on

Here a move is what the hardware does: it exchanges the contents of its two components, whatever these are. Every other
step of what the insertion writes is looked at together with the contents of all components at that point.
-/

/-- Which state each component holds, by the name of the component that it belongs to. -/
abbrev Placement := String → String

/-- The contents of all components after a step: a move exchanges those of its two components. -/
def Placement.after (placement : Placement) (step : Step) : Placement :=
  if step.name = "move" then
    match step.locus with
    | [first, second] => placement ∘ Equiv.swap first second
    | _ => placement
  else placement

/-- All steps other than moves, each with the contents of the components when it is run. -/
def situated : Placement → List Step → List (Placement × Step)
  | _, [] => []
  | placement, step :: rest =>
    if step.name = "move" then situated (placement.after step) rest else (placement, step) :: situated placement rest

/-- A step as it is run: where it stands, on components that hold their own states; or, if it is a `cz`, on one of its
qubits, which holds its own state, and on a resonator, which holds the state of the other. -/
structure Performed (architecture : Architecture) (step : Step) (run : Placement × Step) : Prop where
  name : run.2.name = step.name
  arguments : run.2.arguments = step.arguments
  implementation : run.2.implementation = step.implementation
  states : (run.2.locus = step.locus ∧ ∀ name ∈ step.locus, run.1 name = name) ∨
    step.name = "cz" ∧ ∃ gate moved resonator, (step.locus = [gate, moved] ∨ step.locus = [moved, gate]) ∧
      run.2.locus = [gate, resonator] ∧ resonator ∈ architecture.resonators ∧
      run.1 gate = gate ∧ run.1 resonator = moved

namespace Tracker

variable {last : Tracker}

/-- The contents that a tracker stands for: a moved qubit holds what the resonator held before. -/
def placement (tracker : Tracker) : Placement := fun name =>
  if name ∈ tracker.resonators then tracker.owner name else tracker.holder name

theorem placement_of_mem (present : name ∈ t.resonators) : t.placement name = t.owner name :=
  if_pos present

theorem placement_of_not_mem (absent : name ∉ t.resonators) : t.placement name = t.holder name :=
  if_neg absent

theorem placement_of_home (sound : t.Sound) (absent : name ∉ t.resonators) (home : t.Home name) :
    t.placement name = name := by
  rw [placement_of_not_mem absent]
  exact (holder_eq_self_iff sound absent).mpr home

/-- In a tracker of empty resonators every component holds its own state. -/
theorem placement_eq_id (sound : t.Sound) (fresh : t.owner = id) : t.placement = id := by
  funext name
  by_cases present : name ∈ t.resonators
  · rw [placement_of_mem present, fresh]
  · exact placement_of_home sound present fun place held => by simpa [fresh] using held

/-- A change at one resonator does not concern the states of other qubits. -/
theorem holder_withOwner_of_ne {next : String} (sound : t.Sound)
    (lastSound : (t.withOwner res next).Sound) (present : res ∈ t.resonators)
    (absent : name ∉ t.resonators) (before : t.owner res ≠ name) (after : next ≠ name) :
    (t.withOwner res next).holder name = t.holder name := by
  have kept : (t.withOwner res next).resonators = t.resonators := withOwner_resonators present
  rcases holder_cases sound absent with ⟨holder, home⟩ | ⟨holderPresent, held⟩
  · rw [holder, holder_eq_self_iff lastSound (kept ▸ absent)]
    intro place owned
    rw [withOwner_owner, update_apply] at owned
    split at owned
    · exact (after owned).elim
    · exact home place owned
  · rw [holder_eq_iff lastSound (kept ▸ absent) (kept ▸ holderPresent), withOwner_owner, update_of_ne]
    · exact held
    · intro same
      exact before (same ▸ held)

namespace Shift

variable (sound : t.Sound) (shift : t.Shift q res last)

include sound shift

/-- After a move the qubit holds what the resonator held before. -/
theorem holder_eq : last.holder q = t.owner res := by
  have absent : q ∉ last.resonators := shift.resonators_eq sound ▸ sound.apart _ _ shift.known
  have present : res ∈ last.resonators := shift.resonators_eq sound ▸ sound.mem_resonators shift.known
  have lastSound := shift.sound sound
  cases shift with
  | take _ vacant _ =>
    rw [vacant, holder_eq_iff lastSound absent present]
    simp
  | back known held =>
    rw [held, holder_eq_self_iff lastSound absent]
    exact sound.home_withOwner known held

/-- After a move the resonator holds what the qubit held before. -/
theorem owner_resonator : last.owner res = t.holder q := by
  have absent := sound.apart _ _ shift.known
  have present := sound.mem_resonators shift.known
  cases shift with
  | take _ _ home => rw [withOwner_owner, update_self, (holder_eq_self_iff sound absent).mpr home]
  | back _ held => rw [withOwner_owner, update_self, (holder_eq_iff sound absent present).mpr held]

theorem holder_of_ne (absent : name ∉ t.resonators) (ne : name ≠ q) :
    last.holder name = t.holder name := by
  have present := sound.mem_resonators shift.known
  have apart : res ≠ name := fun same => absent (same ▸ present)
  have lastSound := shift.sound sound
  cases shift with
  | take _ vacant _ =>
    exact holder_withOwner_of_ne sound lastSound present absent (by rwa [vacant]) (Ne.symm ne)
  | back _ held =>
    exact holder_withOwner_of_ne sound lastSound present absent (by rw [held]; exact Ne.symm ne) apart

/-- The single moves that a tracker allows exchange the contents of the qubit and the resonator. -/
theorem placement_eq : last.placement = t.placement ∘ Equiv.swap q res := by
  have kept := shift.resonators_eq sound
  have absent := sound.apart _ _ shift.known
  have present := sound.mem_resonators shift.known
  funext name
  rw [comp_apply]
  by_cases atQubit : name = q
  · rw [atQubit, Equiv.swap_apply_left, placement_of_mem present, placement_of_not_mem (kept ▸ absent)]
    exact shift.holder_eq sound
  · by_cases atResonator : name = res
    · rw [atResonator, Equiv.swap_apply_right, placement_of_not_mem absent, placement_of_mem (kept ▸ present)]
      exact shift.owner_resonator sound
    · rw [Equiv.swap_apply_of_ne_of_ne atQubit atResonator]
      by_cases resonant : name ∈ t.resonators
      · rw [placement_of_mem resonant, placement_of_mem (kept ▸ resonant), shift.owner_eq sound, Owners.toggle,
          update_of_ne atResonator]
      · rw [placement_of_not_mem resonant, placement_of_not_mem (kept ▸ resonant)]
        exact shift.holder_of_ne sound resonant atQubit

end Shift

end Tracker

section Situated

open Tracker

variable {placement : Placement}

theorem situated_other (named : s.name ≠ "move") :
    situated placement (s :: rest) = (placement, s) :: situated placement rest := by
  simp [situated, named]

theorem situated_shifts (sound : t.Sound) (shifts : Shifts t moves middle) (rest : List Step) :
    situated t.placement (moves ++ rest) = situated middle.placement rest := by
  induction shifts with
  | nil => rfl
  | cons first _ ih =>
    rw [← ih (first.sound sound), first.placement_eq sound]
    rfl

theorem sandwiched_of_moveFree (moveFree : ∀ s ∈ ss, s.name ≠ "move") (free : List String) :
    Sandwiched arch free id ss id := by
  induction ss with
  | nil => exact .nil id
  | cons s rest ih =>
    exact .other (moveFree s mem_cons_self) (fun _ _ _ _ same => same)
      (ih fun next mem => moveFree next (.tail _ mem))

theorem meaning_of_moveFree (moveFree : ∀ s ∈ ss, s.name ≠ "move") : meaning id ss = ss := by
  induction ss with
  | nil => rfl
  | cons s rest ih =>
    rw [meaning_other (moveFree s mem_cons_self), map_id,
      ih fun next mem => moveFree next (.tail _ mem)]
    rfl

section OnQubits

variable (tracks : Tracks arch t) (realisations : Realisations arch t ss inside middle)
  (moveFree : ∀ s ∈ ss, s.name ≠ "move")
  (onQubits : ∀ s ∈ ss, ∀ name ∈ s.locus, name ∉ arch.resonators)

include tracks realisations moveFree onQubits

/-- Every step between qubits is performed: on its own qubits with their own states in them, or through a resonator. -/
theorem performed_of_realisations
    (separate : ∀ s ∈ ss, arch.checkStep none s ≠ .ok () → Separate s)
    (silent : situated middle.placement closing = []) :
    List.Forall₂ (Performed arch) ss (situated t.placement (inside ++ closing)) := by
  induction realisations with
  | nil =>
    rw [nil_append, silent]
    exact .nil
  | @cons t between _ s rest written others _ first _ ih =>
    have named := moveFree s mem_cons_self
    have standing : ∀ name ∈ s.locus, name ∉ between.resonators := fun name mem present =>
      onQubits s mem_cons_self name mem ((first.tracks tracks).mem_resonators present)
    have later := ih (first.tracks tracks) (fun next mem => moveFree next (.tail _ mem))
      (fun next mem => onQubits next (.tail _ mem)) (fun next mem => separate next (.tail _ mem)) silent
    have sound := (first.tracks tracks).sound
    rw [append_assoc]
    cases first with
    | moved _ same => exact (named same).elim
    | kept _ _ shifts owners =>
      rw [append_assoc, situated_shifts tracks.sound shifts, singleton_append, situated_other named]
      refine .cons ⟨rfl, rfl, rfl, .inl ⟨rfl, fun name mem => ?_⟩⟩ later
      exact placement_of_home sound (standing name mem) (home_of_sent owners mem)
    | @resolved _ _ way refused _ chosen shifts home there =>
      have resolves := best_resolves tracks chosen
      have present := sound.mem_resonators (((tracks.shifts shifts).moves_iff _ _).mpr resolves.movable)
      have performed : (s.at [way.gate, way.resonator]).name ≠ "move" := named
      rw [append_assoc, situated_shifts tracks.sound shifts, singleton_append, situated_other performed]
      refine .cons ⟨rfl, rfl, rfl, .inr ⟨resolves.named, way.gate, way.moved, way.resonator, resolves.qubits, rfl,
        (tracks.shifts shifts).mem_resonators present, ?_, ?_⟩⟩ later
      · exact placement_of_home sound (standing _ resolves.gate_mem) home
      · exact (placement_of_mem present).trans
          (there (resolves.gate_ne_moved (separate s mem_cons_self refused)))

/-- Steps between qubits are never disturbed: qubits are taken to hold their own states on both sides. -/
theorem undisturbed_of_onQubits : Undisturbed arch id t ss := by
  induction realisations with
  | nil => trivial
  | @cons _ _ _ s _ _ _ returned first _ ih =>
    have nextTracks := first.tracks tracks
    rw [Undisturbed, after_eq returned, Owners.after_other (moveFree s mem_cons_self)]
    refine ⟨fun _ name mem => ?_, ih nextTracks (fun next later => moveFree next (.tail _ later))
      (fun next later => onQubits next (.tail _ later))⟩
    exact (owner_of_not_mem fun present =>
      onQubits s mem_cons_self name mem (nextTracks.mem_resonators present)).symm

end OnQubits

/-- The insertion of moves performs a circuit between qubits. Taking the moves out again gives the circuit back, in the
same order and up to exchanges of the qubits of a `cz`; and whenever one of its steps is run, the qubits that it acts on
hold their own states, and a resonator that it acts on holds the state of the other qubit. -/
theorem inserted_performs (supported : architecture.gates.contains "move" = true) {existing : Existing}
    {circuit made : Circuit} {mapping : Option Mapping} (moveFree : ∀ step ∈ circuit.steps, step.name ≠ "move")
    (onQubits : ∀ step ∈ circuit.steps, ∀ name ∈ step.locus, name ∉ architecture.resonators)
    (separate : ∀ step ∈ circuit.steps, Separate step)
    (returned : insert architecture existing none true circuit = .ok (made, mapping)) :
    (∃ restored, remove made = .ok restored ∧ restored.name = circuit.name ∧ restored.notes = circuit.notes ∧
      List.Forall₂ Alike circuit.steps restored.steps) ∧
    List.Forall₂ (Performed architecture) circuit.steps (situated id made.steps) := by
  obtain ⟨tracker, given, middle, last, inside, closing, -, prepares, -, course, rfl⟩ :=
    course_of_insert supported returned
  obtain rfl : circuit = given := Except.ok.inj ((prepared_of_moveFree moveFree existing).symm.trans prepares)
  have refusedSeparate := fun step member (_ : architecture.checkStep none step ≠ .ok ()) => separate step member
  constructor
  · refine ⟨_, course.remove_eq circuit, rfl, rfl, ?_⟩
    have alike := (course.alike_iff (by decide : "cz" ∉ ["barrier"]) refusedSeparate
      (sandwiched_of_moveFree moveFree _)).mpr
      (undisturbed_of_onQubits course.tracks course.realisations moveFree onQubits)
    rwa [meaning_of_moveFree moveFree] at alike
  · have silent : situated middle.placement closing = [] := by
      have sound := (course.realisations.tracks course.tracks).sound
      simpa [situated] using situated_shifts sound course.closes []
    have performed :=
      performed_of_realisations course.tracks course.realisations moveFree onQubits refusedSeparate silent
    rwa [placement_eq_id course.tracks.sound course.fresh] at performed

/-- The circuit of one `cz` between two qubits that are only connected through a resonator. -/
theorem inserted_performs_pairCircuit :
    ∃ made mapping, insert twoQubitStar .keep none true (pairCircuit none) = .ok (made, mapping) ∧
      (∃ restored, remove made = .ok restored ∧ restored.name = "pair" ∧ restored.notes = .none ∧
        List.Forall₂ Alike (pairCircuit none).steps restored.steps) ∧
      List.Forall₂ (Performed twoQubitStar) (pairCircuit none).steps (situated id made.steps) := by
  obtain ⟨made, mapping, returned⟩ := insert_pairCircuit .keep none
  refine ⟨made, mapping, returned, inserted_performs rfl ?_ ?_ ?_ returned⟩
  · simp [pairCircuit, gating]
  · simp [pairCircuit, gating, twoQubitStar]
  · refine List.forall_mem_singleton.mpr fun first second located => ?_
    obtain ⟨rfl, rfl⟩ : "QB1" = first ∧ "QB2" = second := by simpa [gating] using located
    decide

end Situated

end Move

end Transmon
