import Mathlib.Logic.Function.Basic
import Transmon.Move.Resolution
import Transmon.Proofs.Basic

/-!
# Where states are while moves are put in

A tracker says whose state each resonator holds. Everything that is done to it is a sequence of single moves: each
takes the state of a qubit that holds its own state into an empty resonator, or brings a state back. A sound tracker
knows at most one place for every state, and every such move keeps it sound.

Bringing a state to a resonator, sending states home and performing a gate through a resonator are never refused on
a sound tracker. For each of them the whole map of owners afterwards is stated, so that nothing about the moves
themselves has to be known later.
-/

namespace Transmon.Move

open Outcome Work List Table Function
open Circuit (Step)

namespace Partners

variable {ps : Partners} {first second name other : String}

@[simp] theorem of_empty : Partners.of ∅ name = [] := rfl

/-- A locus that was added is there, and so is every other as before. -/
@[simp] theorem mem_of_add :
    other ∈ (ps.add first second).of name ↔ other ∈ ps.of name ∨ name = first ∧ other = second := by
  unfold add of Table.update Table.getD
  rw [Table.get?_insert]
  by_cases same : name = first
  · simp [same]
  · simp [same]

theorem nodup_keys_add (nodup : ps.keys.Nodup) : (ps.add first second).keys.Nodup :=
  nodup_keys_insert nodup

@[simp] theorem mem_keys_add : name ∈ (ps.add first second).keys ↔ name ∈ ps.keys ∨ name = first :=
  mem_keys_insert

theorem mem_keys_of_mem_of (mem : other ∈ ps.of name) : name ∈ ps.keys := by
  by_contra absent
  simp [of, Table.getD, Table.get?_eq_none_iff.mpr absent] at mem

/-- Adding one component to the partners of several. -/
def addEach (partners : Partners) (second : String) (firsts : List String) : Partners :=
  firsts.foldl (fun table first => Partners.add table first second) partners

variable {firsts : List String}

theorem mem_of_addEach : other ∈ (ps.addEach second firsts).of name ↔
      other ∈ ps.of name ∨ name ∈ firsts ∧ other = second := by
  unfold addEach
  induction firsts generalizing ps with
  | nil => simp
  | cons first rest ih =>
    rw [foldl_cons, ih, mem_of_add, mem_cons]
    tauto

theorem mem_keys_addEach : name ∈ (ps.addEach second firsts).keys ↔ name ∈ ps.keys ∨ name ∈ firsts := by
  unfold addEach
  induction firsts generalizing ps with
  | nil => simp
  | cons first rest ih =>
    rw [foldl_cons, ih, mem_keys_add, mem_cons, or_assoc]

theorem nodup_keys_addEach (nodup : ps.keys.Nodup) (firsts : List String) :
    (ps.addEach second firsts).keys.Nodup := by
  unfold addEach
  induction firsts generalizing ps with
  | nil => exact nodup
  | cons first rest ih => exact ih (nodup_keys_add nodup)

/-- Adding the partners of several components from the other side. -/
def addInverse (partners : Partners) (entries : List (String × Names)) : Partners :=
  entries.foldl (fun table entry => table.addEach entry.1 entry.2) partners

variable {entries : List (String × Names)}

theorem mem_of_addInverse : other ∈ (ps.addInverse entries).of name ↔
      other ∈ ps.of name ∨ ∃ e ∈ entries, e.1 = other ∧ name ∈ e.2 := by
  unfold addInverse
  induction entries generalizing ps with
  | nil => simp
  | cons e rest ih =>
    rw [foldl_cons, ih, mem_of_addEach, exists_mem_cons_iff, or_assoc,
      and_comm (a := name ∈ e.2), eq_comm (a := other)]

theorem mem_keys_addInverse :
    name ∈ (ps.addInverse entries).keys ↔ name ∈ ps.keys ∨ ∃ e ∈ entries, name ∈ e.2 := by
  unfold addInverse
  induction entries generalizing ps with
  | nil => simp
  | cons e rest ih =>
    rw [foldl_cons, ih, mem_keys_addEach, exists_mem_cons_iff, or_assoc]

theorem nodup_keys_addInverse (nodup : ps.keys.Nodup) (entries : List (String × Names)) :
    (ps.addInverse entries).keys.Nodup := by
  unfold addInverse
  induction entries generalizing ps with
  | nil => exact nodup
  | cons e rest ih => exact ih (nodup_keys_addEach nodup e.2)

theorem inverse_eq_addInverse (ps : Partners) : ps.inverse = Partners.addInverse ∅ ps.entries := rfl

theorem nodup_keys_inverse (ps : Partners) : ps.inverse.keys.Nodup := by
  rw [inverse_eq_addInverse]
  exact nodup_keys_addInverse (by simp) ps.entries

/-- The entries of distinct components give exactly their partners. -/
theorem exists_entry_iff (nodup : ps.keys.Nodup) :
    (∃ e ∈ ps.entries, e.1 = first ∧ second ∈ e.2) ↔ second ∈ ps.of first := by
  constructor
  · rintro ⟨⟨key, seconds⟩, e, rfl, mem⟩
    simpa [of, Table.getD, Table.get?_of_mem_entries nodup e] using mem
  · intro mem
    obtain ⟨seconds, found⟩ := Option.isSome_iff_exists.mp (Table.isSome_get?_iff.mpr (mem_keys_of_mem_of mem))
    have listed : second ∈ seconds := by simpa [of, Table.getD, found] using mem
    exact ⟨(first, seconds), Table.mem_entries_of_get? found, rfl, listed⟩

/-- The inverse has exactly the same loci, read from the other side. -/
theorem mem_of_inverse (nodup : ps.keys.Nodup) :
    first ∈ ps.inverse.of second ↔ second ∈ ps.of first := by
  rw [inverse_eq_addInverse, mem_of_addInverse, ← exists_entry_iff nodup]
  simp

theorem mem_keys_inverse (nodup : ps.keys.Nodup) :
    second ∈ ps.inverse.keys ↔ ∃ first, second ∈ ps.of first := by
  rw [inverse_eq_addInverse, mem_keys_addInverse]
  simp only [← exists_entry_iff nodup, keys_empty, not_mem_nil, false_or]
  constructor
  · rintro ⟨e, stored, mem⟩
    exact ⟨e.1, e, stored, rfl, mem⟩
  · rintro ⟨first, e, stored, rfl, mem⟩
    exact ⟨e, stored, mem⟩

end Partners

/-- Whose state each component holds. A component that is no resonator is taken to hold its own. -/
abbrev Owners := String → String

namespace Owners

variable (owner : Owners)

/-- No other component holds the state of a component. -/
def Home (name : String) : Prop := ∀ place, owner place = name → place = name

variable (qubit resonator : String)

/-- The owners after a move: an empty resonator holds the state of the qubit, and any other resonator is empty. -/
def toggle : Owners :=
  Function.update owner resonator (if owner resonator = resonator then qubit else resonator)

/-- The owners after a state was brought to a resonator: it is there, or at home if it was there before; no other
resonator holds it, and what the resonator held before is at home. -/
def brought : Owners := fun name =>
  if name = resonator then (if owner resonator = qubit then resonator else qubit)
  else if owner name = qubit then name else owner name

end Owners

/-- The step that moves the state of a qubit into a resonator, or out of it. -/
def moving (qubit resonator : String) : Step := { name := "move", locus := [qubit, resonator] }

namespace Tracker

variable (tracker : Tracker)

/-- Whose state a component holds. -/
def owner : Owners := fun name => tracker.owners.getD name name

/-- The tracker with another owner of a resonator's state. -/
def withOwner (resonator next : String) : Tracker :=
  { tracker with owners := tracker.owners.insert resonator next }

/-- No resonator holds the state of a component. -/
def Home (name : String) : Prop := tracker.owner.Home name

/-- Every resonator is empty or holds the state of a qubit that can be moved into it, and no state is in two places.
Qubits that can be moved are no resonators. -/
structure Sound (tracker : Tracker) : Prop where
  movesDistinct : tracker.moves.keys.Nodup
  distinct : tracker.resonators.Nodup
  tracked : ∀ resonator, resonator ∈ tracker.resonators ↔ ∃ qubit, resonator ∈ tracker.moves.of qubit
  apart : ∀ qubit resonator, resonator ∈ tracker.moves.of qubit → qubit ∉ tracker.resonators
  owned : ∀ name, tracker.owner name = name ∨ name ∈ tracker.moves.of (tracker.owner name)
  single : ∀ name other, tracker.owner name ≠ name → tracker.owner other ≠ other →
    tracker.owner name = tracker.owner other → name = other

variable {t : Tracker} {name next q res : String}

theorem resolve_eq_map (locus : List String) : t.resolve locus = locus.map t.owner := rfl

@[simp] theorem withOwner_moves : (t.withOwner res next).moves = t.moves := rfl

@[simp] theorem withOwner_owner :
    (t.withOwner res next).owner = update t.owner res next := by
  funext name
  simp only [owner, withOwner, Table.getD, Table.get?_insert, update_apply]
  split
  · rfl
  · rfl

theorem withOwner_resonators (present : res ∈ t.resonators) :
    (t.withOwner res next).resonators = t.resonators :=
  keys_insert_of_mem present

/-- A component that is no resonator holds its own state. -/
theorem owner_of_not_mem (absent : name ∉ t.resonators) : t.owner name = name := by
  simp [owner, Table.getD, Table.get?_eq_none_iff.mpr absent]

theorem get?_owners (present : name ∈ t.resonators) : t.owners.get? name = some (t.owner name) := by
  obtain ⟨held, found⟩ := Option.isSome_iff_exists.mp (Table.isSome_get?_iff.mpr present)
  rw [found, owner, Table.getD, found, Option.getD_some]

theorem owner_of_get? (found : t.owners.get? name = some next) : t.owner name = next := by
  rw [owner, Table.getD, found, Option.getD_some]

namespace Sound

variable (sound : t.Sound)

include sound

theorem mem_resonators (known : res ∈ t.moves.of q) : res ∈ t.resonators :=
  (sound.tracked res).mpr ⟨q, known⟩

theorem mem_movers_iff : q ∈ t.movers.of res ↔ res ∈ t.moves.of q :=
  Partners.mem_of_inverse sound.movesDistinct

/-- A qubit that can be moved differs from every resonator. -/
theorem ne_of_known (known : res ∈ t.moves.of q) (present : name ∈ t.resonators) : q ≠ name :=
  fun same => sound.apart q res known (same ▸ present)

/-- A resonator that holds the state of a qubit is not empty. -/
theorem owner_ne_self (known : res ∈ t.moves.of q)
    (held : t.owner res = q) : t.owner res ≠ res :=
  held ▸ sound.ne_of_known known (sound.mem_resonators known)

/-- A state that is away from home is in a resonator into which it can be moved. -/
theorem known_of_owner (away : t.owner name ≠ name) : name ∈ t.moves.of (t.owner name) :=
  (sound.owned name).resolve_left away

/-- The owner of a moved state is no resonator. -/
theorem owner_not_mem (away : t.owner name ≠ name) : t.owner name ∉ t.resonators :=
  sound.apart _ _ (sound.known_of_owner away)

/-- A resonator has no state of its own that could be elsewhere. -/
theorem home_of_mem (present : name ∈ t.resonators) : t.Home name := by
  intro place held
  by_contra away
  exact sound.owner_not_mem (held ▸ Ne.symm away) (held ▸ present)

/-- A state that is away from home is in one place. -/
theorem place_eq {place other : String} (held : t.owner place = q) (there : t.owner other = q)
    (away : place ≠ q) (otherAway : other ≠ q) : place = other :=
  sound.single place other (held ▸ Ne.symm away) (there ▸ Ne.symm otherAway) (held.trans there.symm)

/-- A state that was brought back is at home. -/
theorem home_withOwner (known : res ∈ t.moves.of q) (held : t.owner res = q) :
    (t.withOwner res res).Home q := by
  intro place owned
  rw [withOwner_owner, update_apply] at owned
  split at owned
  · next same => exact same.trans owned
  · next elsewhere =>
    by_contra away
    exact elsewhere (sound.place_eq owned held away (Ne.symm (sound.ne_of_known known (sound.mem_resonators known))))

/-- Entries list the resonators with their owners. -/
theorem mem_entries_iff : (res, q) ∈ t.owners.entries ↔ res ∈ t.resonators ∧ t.owner res = q :=
  ⟨fun stored => ⟨mem_keys_of_mem stored, owner_of_get? (get?_of_mem_entries sound.distinct stored)⟩,
    fun ⟨present, held⟩ => mem_entries_of_get? (held ▸ get?_owners present)⟩

/-- Every change of one owner that a move makes keeps a tracker sound: the resonator becomes empty, or it takes a
state that is at home. -/
theorem withOwner (present : res ∈ t.resonators)
    (change : next = res ∨ res ∈ t.moves.of next ∧ t.Home next) :
    (t.withOwner res next).Sound := by
  have kept : (t.withOwner res next).resonators = t.resonators := withOwner_resonators present
  refine ⟨sound.movesDistinct, kept ▸ sound.distinct, ?_, ?_, ?_, ?_⟩
  · rw [kept]
    exact sound.tracked
  · rw [kept]
    exact sound.apart
  · intro name
    rw [withOwner_owner, withOwner_moves]
    by_cases same : name = res
    · subst same
      rw [update_self]
      exact change.imp_right And.left
    · rw [update_of_ne same]
      exact sound.owned name
  · intro name other
    rw [withOwner_owner]
    -- Only a state that arrives can be in two places, and it was at home before.
    have arrival : ∀ place, next ≠ res → t.owner place ≠ place → next ≠ t.owner place := by
      intro place taken away same
      exact away (same ▸ ((change.resolve_left taken).2 place same.symm).symm)
    by_cases first : name = res <;> by_cases second : other = res
    · exact fun _ _ _ => first.trans second.symm
    · subst first
      rw [update_self, update_of_ne second]
      exact fun taken away same => (arrival other taken away same).elim
    · subst second
      rw [update_self, update_of_ne first]
      exact fun away taken same => (arrival name taken away same.symm).elim
    · rw [update_of_ne first, update_of_ne second]
      exact sound.single name other

end Sound

/-- One move: a state that is at home goes into an empty resonator, or a state goes home. -/
inductive Shift (tracker : Tracker) (qubit resonator : String) : Tracker → Prop where
  | take (known : resonator ∈ tracker.moves.of qubit) (vacant : tracker.owner resonator = resonator)
      (home : tracker.Home qubit) : Shift tracker qubit resonator (tracker.withOwner resonator qubit)
  | back (known : resonator ∈ tracker.moves.of qubit) (held : tracker.owner resonator = qubit) :
      Shift tracker qubit resonator (tracker.withOwner resonator resonator)

/-- Moves one after the other, with the steps that stand for them. -/
inductive Shifts : Tracker → List Step → Tracker → Prop where
  | nil (tracker : Tracker) : Shifts tracker [] tracker
  | cons {tracker middle last : Tracker} {qubit resonator : String} {steps : List Step}
      (first : Shift tracker qubit resonator middle) (rest : Shifts middle steps last) :
      Shifts tracker (moving qubit resonator :: steps) last

variable {middle last : Tracker} {ss others : List Step}

namespace Shift

variable (shift : t.Shift q res last)

include shift

theorem known : res ∈ t.moves.of q := by
  cases shift with
  | take known => exact known
  | back known => exact known

theorem moves_eq : last.moves = t.moves := by
  cases shift with
  | take => rfl
  | back => rfl

theorem gates_eq : last.gates = t.gates := by
  cases shift with
  | take => rfl
  | back => rfl

theorem resonators_eq (sound : t.Sound) : last.resonators = t.resonators := by
  cases shift with
  | take known => exact withOwner_resonators (sound.mem_resonators known)
  | back known => exact withOwner_resonators (sound.mem_resonators known)

theorem sound (sound : t.Sound) : last.Sound := by
  cases shift with
  | take known vacant home => exact sound.withOwner (sound.mem_resonators known) (.inr ⟨known, home⟩)
  | back known held => exact sound.withOwner (sound.mem_resonators known) (.inl rfl)

/-- A move exchanges whether the resonator is empty or holds the state of the qubit. -/
theorem owner_eq (sound : t.Sound) : last.owner = t.owner.toggle q res := by
  unfold Owners.toggle
  cases shift with
  | take known vacant home => rw [withOwner_owner, if_pos vacant]
  | back known held => rw [withOwner_owner, if_neg (sound.owner_ne_self known held)]

end Shift

namespace Shifts

theorem single (shift : t.Shift q res last) : Shifts t [moving q res] last :=
  .cons shift (.nil last)

theorem append (first : Shifts t ss middle) (second : Shifts middle others last) :
    Shifts t (ss ++ others) last := by
  induction first with
  | nil => exact second
  | cons shift _ ih => exact .cons shift (ih second)

variable (shifts : Shifts t ss last)

include shifts

theorem moves_eq : last.moves = t.moves := by
  induction shifts with
  | nil => rfl
  | cons shift _ ih => exact ih.trans shift.moves_eq

theorem gates_eq : last.gates = t.gates := by
  induction shifts with
  | nil => rfl
  | cons shift _ ih => exact ih.trans shift.gates_eq

theorem sound (sound : t.Sound) : last.Sound := by
  induction shifts with
  | nil => exact sound
  | cons shift _ ih => exact ih (shift.sound sound)

theorem resonators_eq (sound : t.Sound) : last.resonators = t.resonators := by
  induction shifts with
  | nil => rfl
  | cons shift _ ih =>
    exact (ih (shift.sound sound)).trans (shift.resonators_eq sound)

/-- Only moves that the chip has are made. -/
theorem known_of_mem {s : Step} (mem : s ∈ ss) :
    ∃ q res, s = moving q res ∧ res ∈ t.moves.of q := by
  induction shifts with
  | nil => simp at mem
  | cons shift _ ih =>
    rcases mem_cons.mp mem with rfl | later
    · exact ⟨_, _, rfl, shift.known⟩
    · rw [← shift.moves_eq]
      exact ih later

end Shifts

/-- A move between a qubit and a resonator that is empty or holds the qubit's state is not refused. -/
theorem move_eq_ok (present : res ∈ t.resonators) (mover : q ∈ t.movers.of res)
    (free : t.owner res = res ∨ t.owner res = q) :
    t.move q res =
      .ok (t.withOwner res (if t.owner res = res then q else res)) := by
  have listed : (t.movers.of res).contains q = true := contains_iff_mem.mpr mover
  have allowed : t.moved? q res =
      some (if t.owner res = res then q else res) := by
    simp only [moved?, get?_owners present, listed, Bool.not_true, Bool.false_eq_true, if_false]
    split
    · rfl
    · next occupied => rw [if_pos (free.resolve_left occupied)]
  simp only [move, allowed]
  rfl

variable (sound : t.Sound)

include sound

theorem Sound.move_eq_ok (known : res ∈ t.moves.of q)
    (free : t.owner res = res ∨ t.owner res = q) : t.move q res =
      .ok (t.withOwner res (if t.owner res = res then q else res)) :=
  Tracker.move_eq_ok (sound.mem_resonators known) (sound.mem_movers_iff.mpr known) free

/-- The resonators that hold the state of one of the given components. -/
theorem mem_holding_iff {names : List String} :
    name ∈ t.holding names ↔ t.owner name ≠ name ∧ t.owner name ∈ names := by
  unfold holding
  simp only [mem_map, mem_filter, Bool.and_eq_true, decide_eq_true_eq, contains_iff_mem]
  constructor
  · rintro ⟨⟨place, held⟩, ⟨stored, away, listed⟩, rfl⟩
    obtain ⟨-, rfl⟩ := sound.mem_entries_iff.mp stored
    exact ⟨away, listed⟩
  · rintro ⟨away, listed⟩
    have present := sound.mem_resonators (sound.known_of_owner away)
    exact ⟨_, ⟨sound.mem_entries_iff.mpr ⟨present, rfl⟩, away, listed⟩, rfl⟩

/-- A qubit's state is at home, or in the one resonator that is its holder. -/
theorem holder_cases (mover : q ∉ t.resonators) : t.holder q = q ∧ t.Home q ∨
      t.holder q ∈ t.resonators ∧ t.owner (t.holder q) = q := by
  cases found : t.holders.get? q with
  | some place =>
    right
    have same : t.holder q = place := by simp [holder, Table.getD, found]
    obtain ⟨e, listed, read⟩ := mem_map.mp (Table.get?_ofList_mem found)
    obtain ⟨rfl, rfl⟩ := Prod.mk.inj read
    rw [same]
    exact sound.mem_entries_iff.mp (mem_of_mem_filter listed)
  | none =>
    refine .inl ⟨by simp [holder, Table.getD, found], ?_⟩
    intro place held
    by_contra away
    have present := sound.mem_resonators (sound.known_of_owner (held ▸ Ne.symm away))
    refine get?_eq_none_iff.mp found (mem_keys_ofList.mpr ?_)
    simp only [map_map, mem_map, mem_filter]
    exact ⟨(place, q), ⟨sound.mem_entries_iff.mpr ⟨present, held⟩, by simpa using mover⟩, rfl⟩

theorem holder_eq_iff (mover : q ∉ t.resonators)
    (present : res ∈ t.resonators) : t.holder q = res ↔ t.owner res = q := by
  have ne : q ≠ res := fun same => mover (same ▸ present)
  rcases holder_cases sound mover with ⟨holder, home⟩ | ⟨holderPresent, held⟩
  · rw [holder]
    exact ⟨fun same => (ne same).elim, fun owned => (ne (home res owned).symm).elim⟩
  · constructor
    · intro same
      rw [← same, held]
    · exact fun owned => sound.place_eq held owned (fun same => mover (same ▸ holderPresent)) (Ne.symm ne)

theorem holder_eq_self_iff (mover : q ∉ t.resonators) :
    t.holder q = q ↔ t.Home q := by
  rcases holder_cases sound mover with ⟨holder, home⟩ | ⟨holderPresent, held⟩
  · exact ⟨fun _ => home, fun _ => holder⟩
  · exact ⟨fun same => (mover (same ▸ holderPresent)).elim, fun home => home _ held⟩

theorem owner_of_elsewhere {e : String × String} (found : t.elsewhere q res = some e) :
    e.1 ∈ t.resonators ∧ t.owner e.1 = q ∧ e.1 ≠ res := by
  obtain ⟨first, ne⟩ := Option.filter_eq_some_iff.mp found
  have stored : e.2 = q := by simpa using find?_some first
  obtain ⟨present, held⟩ := sound.mem_entries_iff.mp (mem_of_find?_eq_some first)
  exact ⟨present, held.trans stored, by simpa using ne⟩

/-- If the state of a qubit is found nowhere else, it is at home or in the resonator itself. -/
theorem place_of_elsewhere_none (mover : q ∉ t.resonators)
    (nowhere : t.elsewhere q res = none) {place : String} (held : t.owner place = q) :
    place = res ∨ place = q := by
  by_cases home : place = q
  · exact .inr home
  · left
    have present := sound.mem_resonators (sound.known_of_owner (held ▸ Ne.symm home))
    have stored := sound.mem_entries_iff.mpr ⟨present, held⟩
    cases first : t.owners.entries.find? (fun e => e.2 = q) with
    | none => simpa using find?_eq_none.mp first _ stored
    | some e =>
      have same : e.2 = q := by simpa using find?_some first
      obtain ⟨listed, there⟩ := sound.mem_entries_iff.mp (mem_of_find?_eq_some first)
      have settled : e.1 = res := by simpa [elsewhere, first] using nowhere
      exact (sound.place_eq held (there.trans same) home fun equal => mover (equal ▸ listed)).trans settled

end Tracker

namespace Tracking

open Tracker

variable {t last : Tracker} {q res : String}

/-- What a move does to a tracker that allows it. -/
theorem move_returns (allowed : t.move q res = .ok last) :
    Returns (move q res) t (moving q res) last := by
  unfold move
  simp [returns_bind_iff, returns_map_iff, allowed, moving]

variable (sound : t.Sound)

include sound

theorem move_returns_take (known : res ∈ t.moves.of q) (vacant : t.owner res = res) :
    Returns (move q res) t (moving q res) (t.withOwner res q) := by
  apply move_returns
  rw [sound.move_eq_ok known (.inl vacant), if_pos vacant]

theorem move_returns_back (known : res ∈ t.moves.of q) (held : t.owner res = q) :
    Returns (move q res) t (moving q res) (t.withOwner res res) := by
  apply move_returns
  rw [sound.move_eq_ok known (.inr held), if_neg (sound.owner_ne_self known held)]

/-- Sending home the states in some resonators is never refused, empties exactly those and changes no other. -/
theorem restore_returns (names : List String) (present : ∀ name ∈ names, name ∈ t.resonators) :
    ∃ ss last, Returns (restore names) t ss last ∧ Shifts t ss last ∧
      last.owner = fun name => if name ∈ names then name else t.owner name := by
  induction names generalizing t with
  | nil => exact ⟨[], t, by simp [restore], .nil t, by simp⟩
  | cons res rest ih =>
    have held := get?_owners (present res mem_cons_self)
    have later : ∀ name ∈ rest, name ∈ t.resonators := fun name mem => present name (.tail _ mem)
    by_cases vacant : t.owner res = res
    · obtain ⟨ss, last, returned, shifts, owners⟩ := ih sound later
      refine ⟨ss, last, ?_, shifts, ?_⟩
      · simpa [restore, returns_bind_iff, held, vacant] using returned
      · rw [owners]
        funext name
        by_cases same : name = res
        · simp [same, vacant]
        · simp [same]
    · have known := sound.known_of_owner vacant
      have shift : t.Shift _ res _ := .back known rfl
      have kept := shift.resonators_eq sound
      obtain ⟨ss, last, returned, shifts, owners⟩ :=
        ih (shift.sound sound) (fun name mem => kept ▸ later name mem)
      refine ⟨moving (t.owner res) res :: ss, last, ?_, .cons shift shifts, ?_⟩
      · have moved := move_returns_back sound known rfl
        simpa [restore, returns_bind_iff, returns_map_iff, held, vacant] using ⟨_, moved, returned⟩
      · rw [owners]
        funext name
        rw [withOwner_owner]
        by_cases same : name = res
        · simp [same]
        · simp [same]

theorem fetch_returns (known : res ∈ t.moves.of q)
    (free : t.owner res = res ∨ t.owner res = q) :
    ∃ ss last, Returns (fetch q res) t ss last ∧ Shifts t ss last ∧
      last.owner = t.owner.brought q res := by
  have present := sound.mem_resonators known
  have mover : q ∉ t.resonators := sound.apart q res known
  have ne : q ≠ res := sound.ne_of_known known present
  cases found : t.elsewhere q res with
  | some e =>
    obtain ⟨other, held⟩ := e
    obtain ⟨otherPresent, there, apart⟩ := owner_of_elsewhere sound found
    have away : t.owner other ≠ other := there ▸ sound.ne_of_known known otherPresent
    -- The state is in the other resonator and in no third one, so this one is empty.
    have unique : ∀ place, t.owner place = q → place = other ∨ place = q := by
      intro place holds
      by_cases home : place = q
      · exact .inr home
      · exact .inl (sound.place_eq holds there home (Ne.symm (sound.ne_of_known known otherPresent)))
    have vacant : t.owner res = res := by
      refine free.resolve_right fun occupied => ?_
      rcases unique res occupied with same | same
      · exact apart same.symm
      · exact ne same.symm
    have otherKnown : other ∈ t.moves.of q := there ▸ sound.known_of_owner away
    have first : t.Shift q other (t.withOwner other other) := .back otherKnown there
    have stillVacant : (t.withOwner other other).owner res = res := by
      rw [withOwner_owner, update_of_ne (Ne.symm apart), vacant]
    have home := sound.home_withOwner otherKnown there
    refine ⟨_, _, ?_, .cons first (.single (.take known stillVacant home)), ?_⟩
    · have back := move_returns_back sound otherKnown there
      have taken := move_returns_take (first.sound sound) known stillVacant
      simpa [fetch, returns_bind_iff, returns_map_iff, found] using ⟨_, back, taken⟩
    · funext name
      simp only [withOwner_owner, update_apply, Owners.brought, vacant, Ne.symm ne, if_false]
      split
      · rfl
      · split
        · next same => rw [same, there, if_pos rfl]
        · next notOther =>
          split
          · next holds => exact holds.trans ((unique name holds).resolve_left notOther).symm
          · rfl
  | none =>
    have unique : ∀ place, t.owner place = q → place = res ∨ place = q :=
      fun place => place_of_elsewhere_none sound mover found
    have shift : t.Shift q res
        (t.withOwner res (if t.owner res = res then q else res)) := by
      split
      · next vacant =>
        refine .take known vacant fun place holds => (unique place holds).resolve_left ?_
        rintro rfl
        exact ne (holds.symm.trans vacant)
      · next occupied => exact .back known (free.resolve_left occupied)
    refine ⟨_, _, ?_, .single shift, ?_⟩
    · have moved := move_returns (sound.move_eq_ok known free)
      simpa [fetch, returns_bind_iff, returns_map_iff, found] using moved
    · funext name
      simp only [withOwner_owner, update_apply, Owners.brought]
      split
      · rcases free with vacant | occupied
        · simp [vacant, Ne.symm ne]
        · simp [occupied, ne]
      · next elsewhere =>
        split
        · next holds => exact holds.trans ((unique name holds).resolve_left elsewhere).symm
        · rfl

/-- Bringing a state to a resonator into which it can be moved is never refused. -/
theorem bring_returns (known : res ∈ t.moves.of q) :
    ∃ ss last, Returns (bring q res) t ss last ∧ Shifts t ss last ∧
      last.owner = t.owner.brought q res := by
  have held := get?_owners (sound.mem_resonators known)
  have ne : q ≠ res := sound.ne_of_known known (sound.mem_resonators known)
  simp only [bring, returns_bind_iff, returns_get_iff, returns_lift_iff, need_eq_ok_iff]
  by_cases free : t.owner res = q ∨ t.owner res = res
  · obtain ⟨ss, last, returned, shifts, owners⟩ := fetch_returns sound known free.symm
    refine ⟨ss, last, ⟨_, _, ⟨rfl, rfl⟩, _, _, ⟨held, rfl⟩, ?_⟩, shifts, owners⟩
    simpa [free] using returned
  · obtain ⟨occupied, away⟩ := not_or.mp free
    have ownerKnown := sound.known_of_owner away
    have cleared : t.Shift (t.owner res) res (t.withOwner res res) :=
      .back ownerKnown rfl
    have vacant : (t.withOwner res res).owner res = res := by simp
    obtain ⟨ss, last, returned, shifts, owners⟩ := fetch_returns (cleared.sound sound) known (.inl vacant)
    refine ⟨_ :: ss, last, ⟨_, _, ⟨rfl, rfl⟩, _, _, ⟨held, rfl⟩, ?_⟩, .cons cleared shifts, ?_⟩
    · have moved := move_returns_back sound ownerKnown rfl
      simpa [occupied, away, returns_bind_iff, returns_map_iff] using ⟨_, moved, returned⟩
    · rw [owners]
      funext name
      simp only [Owners.brought, withOwner_owner, update_apply, if_true, Ne.symm ne, occupied, if_false]
      split
      · rfl
      · rfl

/-- A gate through a resonator is never refused. When it is performed, the qubit that takes part itself is at home
and, if the two qubits differ, the resonator holds the state of the other one. -/
theorem perform_returns {way : Resolution} (s : Step)
    (known : way.resonator ∈ t.moves.of way.moved) (standing : way.gate ∉ t.resonators) :
    ∃ moves last, Returns (perform way s) t (moves ++ [s.at [way.gate, way.resonator]]) last ∧
      Shifts t moves last ∧ last.Home way.gate ∧
      (way.gate ≠ way.moved → last.owner way.resonator = way.moved) := by
  have present := sound.mem_resonators known
  have mover : way.moved ∉ t.resonators := sound.apart _ _ known
  -- First the moved state is brought to the resonator, unless it is there.
  obtain ⟨first, middle, brings, firstShifts, there⟩ : ∃ first middle,
      Returns (if t.holder way.moved ≠ way.resonator then bring way.moved way.resonator else pure [])
        t first middle ∧ Shifts t first middle ∧ middle.owner way.resonator = way.moved := by
    by_cases absent : t.holder way.moved ≠ way.resonator
    · obtain ⟨ss, last, returned, shifts, owners⟩ := bring_returns sound known
      have vacated : t.owner way.resonator ≠ way.moved :=
        fun owned => absent ((holder_eq_iff sound mover present).mpr owned)
      exact ⟨ss, last, by rwa [if_pos absent], shifts, by simp [owners, Owners.brought, vacated]⟩
    · have owned := (holder_eq_iff sound mover present).mp (not_not.mp absent)
      exact ⟨[], t, by simp [if_neg absent], .nil t, owned⟩
  have soundMiddle := firstShifts.sound sound
  have same := firstShifts.resonators_eq sound
  have standingMiddle : way.gate ∉ middle.resonators := same ▸ standing
  -- Then the other qubit's state is sent home, if it is away.
  obtain ⟨second, last, restores, secondShifts, home, stays⟩ : ∃ second last,
      Returns (if middle.holder way.gate ≠ way.gate then restore [middle.holder way.gate] else pure [])
        middle second last ∧ Shifts middle second last ∧ last.Home way.gate ∧
        (way.gate ≠ way.moved → last.owner way.resonator = way.moved) := by
    rcases holder_cases soundMiddle standingMiddle with ⟨holder, home⟩ | ⟨holderPresent, held⟩
    · exact ⟨[], middle, by simp [holder], .nil middle, home, fun _ => there⟩
    · have away : middle.holder way.gate ≠ way.gate := fun equal => standingMiddle (equal ▸ holderPresent)
      obtain ⟨ss, last, returned, shifts, owners⟩ :=
        restore_returns soundMiddle [middle.holder way.gate] (by simpa using holderPresent)
      refine ⟨ss, last, by rwa [if_pos away], shifts, ?_, ?_⟩
      · intro place holds
        by_contra elsewhere
        simp only [owners, mem_singleton] at holds
        split at holds
        · exact elsewhere holds
        · next other => exact other (soundMiddle.place_eq holds held elsewhere away)
      · intro ne
        have apart : way.resonator ≠ middle.holder way.gate := by
          intro equal
          exact ne (held.symm.trans (equal ▸ there))
        simp [owners, apart, there]
  refine ⟨first ++ second, last, ?_, firstShifts.append secondShifts, home, stays⟩
  simp only [perform, returns_bind_iff, returns_get_iff, returns_pure_iff]
  exact ⟨_, _, ⟨rfl, rfl⟩, _, _, brings, _, _, ⟨rfl, rfl⟩, _, _, restores, rfl, rfl⟩

end Tracking

end Transmon.Move
