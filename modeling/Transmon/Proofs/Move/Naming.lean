import Mathlib.Data.Set.Function
import Transmon.Proofs.Move.Meaning

/-!
# Taking moves out under other names

When moves can be taken out of a circuit, and what is left then, depends only on which names are equal. So circuits
can be given other names before or after, as long as different names stay different.
-/

namespace Transmon

open Outcome List Table

variable (change : String → String)

/-- A step on components of other names. -/
def Circuit.Step.renamed (step : Circuit.Step) : Circuit.Step :=
  step.at (step.locus.map change)

/-- A circuit on components of other names. -/
def Circuit.renamed (circuit : Circuit) : Circuit :=
  { circuit with steps := circuit.steps.map (Circuit.Step.renamed change) }

/-- All steps act on some of the given names. -/
def Circuit.Uses (names : Set String) (steps : List Circuit.Step) : Prop :=
  ∀ step ∈ steps, ∀ name ∈ step.locus, name ∈ names

namespace Circuit

variable {change other : String → String} {s : Step} {ss : List Step} {names : Set String}

@[simp] theorem Step.renamed_name : (s.renamed change).name = s.name := rfl

@[simp] theorem Step.renamed_locus : (s.renamed change).locus = s.locus.map change := rfl

theorem Step.renamed_congr (agrees : ∀ name ∈ s.locus, change name = other name) :
    s.renamed change = s.renamed other := by
  unfold Step.renamed
  rw [map_congr_left agrees]

theorem map_renamed_congr (uses : Uses names ss) (agrees : ∀ name ∈ names, change name = other name) :
    ss.map (Step.renamed change) = ss.map (Step.renamed other) :=
  map_congr_left fun s mem =>
    Step.renamed_congr fun name within => agrees name (uses s mem name within)

/-- Names that are taken back are the first ones. -/
theorem map_renamed_back (uses : Uses names ss) (back : ∀ name ∈ names, other (change name) = name) :
    (ss.map (Step.renamed change)).map (Step.renamed other) = ss := by
  rw [map_map]
  refine (map_congr_left fun s mem => ?_).trans (map_id ss)
  have same : (s.locus.map change).map other = s.locus := by
    rw [map_map]
    exact (map_congr_left fun name within => back name (uses s mem name within)).trans (map_id' _)
  exact congrArg s.at same

end Circuit

namespace Move

open Circuit (Step Uses)

variable {ss made : List Step} {c given : Circuit}

section Renamed

variable {names : Set String} {change : String → String} {owner other : Owners}

/-- Owners under other names: whose state a component holds is renamed along with it. -/
structure Carried (names : Set String) (change : String → String) (owner other : Owners) : Prop where
  within : ∀ name ∈ names, owner name ∈ names
  carries : ∀ name ∈ names, other (change name) = change (owner name)

/-- Owners stay carried over when a step is taken on both sides. -/
theorem Carried.after (carried : Carried names change owner other) (injective : Set.InjOn change names) {s : Step}
    (uses : ∀ name ∈ s.locus, name ∈ names) :
    Carried names change (owner.after s) (other.after (s.renamed change)) := by
  by_cases named : s.name = "move"
  · match located : s.locus with
    | [q, res] =>
      have mover : q ∈ names := uses q (by simp [located])
      have place : res ∈ names := uses res (by simp [located])
      have vacant : other (change res) = change res ↔ owner res = res := by
        rw [carried.carries res place]
        exact injective.eq_iff (carried.within res place) place
      have moves : (s.renamed change).name = "move" := named
      have lies : (s.renamed change).locus = [change q, change res] := by simp [located]
      rw [Owners.after_move named located, Owners.after_move moves lies]
      constructor
      · intro name mem
        unfold Owners.toggle
        rw [Function.update_apply]
        split
        · split
          · exact mover
          · exact place
        · exact carried.within name mem
      · intro name mem
        unfold Owners.toggle
        rw [Function.update_apply, Function.update_apply]
        by_cases same : name = res
        · simp only [same, if_true, vacant]
          split
          · rfl
          · rfl
        · have apart : change name ≠ change res := fun equal => same (injective mem place equal)
          rw [if_neg same, if_neg apart, carried.carries name mem]
    | [] | [_] | _ :: _ :: _ :: _ => simpa [Owners.after, located] using carried
  · have otherwise : (s.renamed change).name ≠ "move" := named
    rw [Owners.after_other named, Owners.after_other otherwise]
    exact carried

/-- Under other names the same moves are possible, and the meaning is the same under those names. -/
theorem movable_and_meaning_renamed (injective : Set.InjOn change names) (uses : Uses names ss)
    (carried : Carried names change owner other) :
    (Movable other (ss.map (Step.renamed change)) ↔ Movable owner ss) ∧
      meaning other (ss.map (Step.renamed change)) = (meaning owner ss).map (Step.renamed change) ∧
      Uses names (meaning owner ss) := by
  induction ss generalizing owner other with
  | nil => simp [Movable, meaning, Uses]
  | cons s rest ih =>
    obtain ⟨first, later⟩ := forall_mem_cons.mp uses
    obtain ⟨movable, means, within⟩ := ih later (carried.after injective first)
    by_cases named : s.name = "move"
    · have moves : (s.renamed change).name = "move" := named
      refine ⟨?_, ?_, ?_⟩
      · simp only [map_cons, Movable, movable, Step.renamed_name, named, true_imp_iff, Step.renamed_locus]
        refine and_congr_left fun _ => ?_
        constructor
        · rintro ⟨q, res, located, possible⟩
          obtain ⟨x, y, pair⟩ := length_eq_two.mp (by simpa using congrArg length located)
          obtain ⟨mover, place⟩ : x ∈ names ∧ y ∈ names := ⟨first x (by simp [pair]), first y (by simp [pair])⟩
          obtain ⟨rfl, rfl⟩ : change x = q ∧ change y = res := by simpa [pair] using located
          rw [carried.carries y place, injective.eq_iff (carried.within y place) place,
            injective.eq_iff (carried.within y place) mover] at possible
          exact ⟨x, y, pair, possible⟩
        · rintro ⟨q, res, located, possible⟩
          have place : res ∈ names := first res (by simp [located])
          refine ⟨change q, change res, by simp [located], ?_⟩
          rw [carried.carries res place]
          exact possible.imp (congrArg change) (congrArg change)
      · rw [map_cons, meaning_move moves, meaning_move named, means]
      · rwa [meaning_move named]
    · have otherwise : (s.renamed change).name ≠ "move" := named
      rw [Owners.after_other named] at movable means within
      rw [Owners.after_other otherwise] at movable means
      refine ⟨?_, ?_, ?_⟩
      · simp [Movable, named, Owners.after_other otherwise, Owners.after_other named, movable]
      · rw [map_cons, meaning_other otherwise, meaning_other named, means, map_cons]
        congr 1
        change s.at ((s.locus.map change).map other) = s.at ((s.locus.map owner).map change)
        rw [map_map, map_map]
        exact congrArg s.at (map_congr_left fun name mem => carried.carries name (first name mem))
      · rw [meaning_other named]
        refine forall_mem_cons.mpr ⟨fun name mem => ?_, within⟩
        obtain ⟨place, inside, rfl⟩ := mem_map.mp mem
        exact carried.within place (first place inside)

/-- Taking moves out first and renaming then, or the other way round, gives the same, and uses no new names. -/
theorem prepared_renamed_iff (injective : Set.InjOn change names) (uses : Uses names c.steps)
    (existing : Existing) :
    prepared existing (c.renamed change) = .ok given ↔
      ∃ inner, prepared existing c = .ok inner ∧ Uses names inner.steps ∧ inner.renamed change = given := by
  have moves : hasMoves (c.renamed change) = hasMoves c := any_map
  unfold prepared
  rw [moves]
  split
  · obtain ⟨movable, means, within⟩ :=
      movable_and_meaning_renamed injective uses (⟨fun _ mem => mem, fun _ _ => rfl⟩ : Carried names change id id)
    have pairs : (∀ s ∈ (c.renamed change).steps, s.name ∈ Tracker.gateNames →
        ∃ first second, s.locus = [first, second]) ↔ ∀ s ∈ c.steps, s.name ∈ Tracker.gateNames →
        ∃ first second, s.locus = [first, second] := by
      simp only [Circuit.renamed, forall_mem_map, Step.renamed_name, Step.renamed_locus,
        ← length_eq_two, length_map]
    simp only [remove_eq_ok_iff, pairs]
    constructor
    · rintro ⟨paired, possible, rfl⟩
      refine ⟨_, ⟨paired, movable.mp possible, rfl⟩, within, ?_⟩
      simp [Circuit.renamed, means]
    · rintro ⟨_, ⟨paired, possible, rfl⟩, -, rfl⟩
      refine ⟨paired, movable.mpr possible, ?_⟩
      simp [Circuit.renamed, means]
  · simp only [pure_eq_ok_iff]
    constructor
    · rintro rfl
      exact ⟨c, rfl, uses, rfl⟩
    · rintro ⟨_, rfl, -, rfl⟩
      rfl

end Renamed

end Move

/-!
# Inserting moves under an author's names

The components of a chip that an author's mapping leaves out are added to it, and so is what they are called. The result
is what comes of inserting moves between components and naming these afterwards, but under the mapping that was
completed in this way: a name that the author uses for one component, and that another component without a name has
itself, stands for the latter from then on. Under mappings without such a name the author's names are kept throughout.
-/

namespace Mapping

open Circuit (Step Uses)

variable {m : Mapping} {name target : String}

/-- The component that a name stands for. -/
def component (mapping : Mapping) (name : String) : String := mapping.getD name name

/-- What an author calls a component; a component that the mapping leaves out keeps its name. -/
def author (mapping : Mapping) (component : String) : String := mapping.inverse.component component

/-- The names that stand for something. -/
def given (mapping : Mapping) : Set String := { name | name ∈ mapping.keys }

/-- The components that have names. -/
def named (mapping : Mapping) : Set String := { component | ∃ name, mapping.get? name = some component }

/-- Every name is entered once, and no two names stand for the same component. -/
structure Faithful (mapping : Mapping) : Prop where
  distinct : mapping.keys.Nodup
  injective : ∀ {name other component}, mapping.get? name = some component → mapping.get? other = some component →
    name = other

theorem component_of_get? (found : m.get? name = some target) : m.component name = target := by
  simp [Mapping.component, Table.getD, found]

theorem get?_of_given (present : name ∈ m.given) : m.get? name = some (m.component name) := by
  obtain ⟨component, found⟩ := Option.isSome_iff_exists.mp (isSome_get?_iff.mpr present)
  rw [found, component_of_get? found]

/-- Steps act on named components once they are renamed. -/
theorem uses_renamed {ss : List Step} (covers : Uses m.given ss) :
    Uses m.named (ss.map (Step.renamed m.component)) := by
  intro s mem name inside
  obtain ⟨first, listed, rfl⟩ := mem_map.mp mem
  obtain ⟨own, used, rfl⟩ := mem_map.mp inside
  exact ⟨own, get?_of_given (covers first listed own used)⟩

/-- Steps can be renamed exactly if all their names are given. -/
theorem steps_eq_ok_iff_renamed {ss made : List Step} :
    m.steps ss = .ok made ↔ Uses m.given ss ∧ ss.map (Step.renamed m.component) = made := by
  have each (name component : String) :
      m.resolve name = .ok component ↔ name ∈ m.given ∧ m.component name = component := by
    rw [resolve, need_eq_ok_iff]
    constructor
    · exact fun found => ⟨mem_keys_of_get? found, component_of_get? found⟩
    · rintro ⟨present, rfl⟩
      exact get?_of_given present
  have s (s made : Step) : (do return s.at (← s.locus.mapM m.resolve) : Outcome Step) = .ok made ↔
      (∀ name ∈ s.locus, name ∈ m.given) ∧ s.renamed m.component = made := by
    simp only [bind_eq_ok_iff, mapM_eq_ok_iff_map _ each, pure_eq_ok_iff, and_assoc,
      exists_and_left, exists_eq_left']
    rfl
  exact mapM_eq_ok_iff_map _ s

namespace Faithful

variable (faithful : m.Faithful)

include faithful

theorem injOn : Set.InjOn m.component m.given := by
  intro name present other otherPresent same
  exact faithful.injective (get?_of_given present) (same ▸ get?_of_given otherPresent)

theorem mem_values_iff : target ∈ m.values ↔ target ∈ m.named :=
  Table.mem_values_iff faithful.distinct

/-- The inverse of a faithful mapping reads it from the other side. -/
theorem get?_inverse : m.inverse.get? target = some name ↔ m.get? name = some target := by
  have entries : m.inverse = (∅ : Mapping).insertMany (m.entries.map Prod.swap) := by
    rw [inverse, insertMany, foldl_map]
    rfl
  have found (name : String) (read : m.inverse.get? target = some name) :
      m.get? name = some target := by
    rw [entries] at read
    rcases get?_insertMany_mem read with impossible | mem
    · simp at impossible
    · obtain ⟨⟨key, value⟩, stored, same⟩ := mem_map.mp mem
      obtain ⟨rfl, rfl⟩ := Prod.mk.inj same
      exact get?_of_mem_entries faithful.distinct stored
  refine ⟨found name, fun stands => ?_⟩
  have present : target ∈ m.inverse.keys := by
    rw [entries, mem_keys_insertMany, map_map]
    exact .inr (mem_map_of_mem (mem_entries_of_get? stands))
  obtain ⟨other, read⟩ := Option.isSome_iff_exists.mp (isSome_get?_iff.mpr present)
  rw [read, faithful.injective (found other read) stands]

theorem given_inverse : m.inverse.given = m.named := by
  ext component
  change component ∈ m.inverse.keys ↔ ∃ name, m.get? name = some component
  rw [← isSome_get?_iff, Option.isSome_iff_exists]
  exact exists_congr fun name => faithful.get?_inverse

theorem author_of_get? (stands : m.get? name = some target) : m.author target = name :=
  component_of_get? (faithful.get?_inverse.mpr stands)

theorem author_component (present : name ∈ m.given) : m.author (m.component name) = name :=
  faithful.author_of_get? (get?_of_given present)

theorem author_of_not_named (nameless : target ∉ m.named) : m.author target = target := by
  rw [← faithful.given_inverse] at nameless
  simp [author, Mapping.component, Table.getD, Table.get?_eq_none_iff.mpr nameless]

end Faithful

end Mapping

namespace Move

open Circuit (Step Uses)
open Mapping (Faithful)

variable {architecture arch : Architecture} {mapping m : Mapping} {existing : Existing} {restores : Bool}
  {circuit c : Circuit}
  {c made : Circuit} {after : Option Mapping}

/-- In a completed mapping a component that had no name stands for itself, and every other name for what it stood
for. -/
theorem get?_complete (name : String) :
    (complete arch m).get? name =
      if name ∈ arch.components ∧ name ∉ m.values then some name else m.get? name := by
  rw [complete, get?_foldl_insert]
  simp only [Names.mem_diff]

theorem get?_complete_self {place : String} (component : place ∈ arch.components) (nameless : place ∉ m.values) :
    (complete arch m).get? place = some place := by
  rw [get?_complete, if_pos ⟨component, nameless⟩]

theorem faithful_complete (arch : Architecture) (faithful : m.Faithful) :
    Faithful (complete arch m) where
  distinct := nodup_keys_foldl_insert _ _ faithful.distinct
  injective := by
    intro name other target stands others
    rw [get?_complete] at stands others
    split at stands
    · next nameless =>
      cases stands
      split at others
      · cases others
        rfl
      · exact (nameless.2 (faithful.mem_values_iff.mpr ⟨other, others⟩)).elim
    · split at others
      · next nameless =>
        cases others
        exact (nameless.2 (faithful.mem_values_iff.mpr ⟨name, stands⟩)).elim
      · exact faithful.injective stands others

/-- No name is lost, and only components have names, if that was so before. -/
theorem given_subset_complete : m.given ⊆ (complete arch m).given :=
  fun _ present => Mapping.mem_keys_foldl.mpr (.inl present)

theorem named_complete_subset (within : m.named ⊆ { place | place ∈ arch.components }) :
    (complete arch m).named ⊆ { place | place ∈ arch.components } := by
  rintro place ⟨name, stands⟩
  rw [get?_complete] at stands
  split at stands
  · next nameless =>
    cases stands
    exact nameless.1
  · exact within ⟨name, stands⟩

/-- Where moves cannot be used, circuits without them stay as they are, and so does the mapping. -/
theorem insert_of_unsupported (unsupported : arch.gates.contains "move" = false) {names : Option Mapping} :
    insert arch existing names restores c = .ok (made, after) ↔
      (∀ s ∈ c.steps, s.name ≠ "move") ∧ c = made ∧ names = after := by
  unfold insert hasMoves
  by_cases moves : (c.steps.any fun s => s.name = "move") = true
  · have present : ¬∀ s ∈ c.steps, s.name ≠ "move" := by simpa using moves
    simp [unsupported, moves, present, map_eq_ok_iff]
  · have absent : ∀ s ∈ c.steps, s.name ≠ "move" := by simpa using moves
    simp only [unsupported, moves, Bool.not_false, if_true, Bool.false_eq_true, if_false, pure_eq_ok_iff,
      Prod.mk.injEq]
    exact (and_iff_right absent).symm

/-- Where moves can be used, they are inserted between components that are named by the completed mapping. -/
theorem insert_eq_ok_iff_complete (supported : arch.gates.contains "move" = true)
    (faithful : m.Faithful) (within : m.named ⊆ { place | place ∈ arch.components })
    {names : Mapping} (completed : complete arch m = names) (covers : Uses names.given c.steps) :
    insert arch existing (some m) restores c = .ok (made, after) ↔
      after = some names ∧ ∃ inner,
        insert arch existing none restores (c.renamed names.component) = .ok (inner, none) ∧
        Uses names.named inner.steps ∧ inner.renamed names.author = made := by
  have kept : names.Faithful := completed ▸ faithful_complete arch faithful
  have placed : names.named ⊆ { place | place ∈ arch.components } := completed ▸ named_complete_subset within
  have known (given : Circuit) (uses : Uses names.given given.steps) :
      Known arch (given.renamed names.component).steps :=
    fun s mem name inside => placed (Mapping.uses_renamed uses s mem name inside)
  simp only [insert_eq_ok_iff supported, prepared_renamed_iff kept.injOn covers, insert_eq supported existing (some _),
    Option.getD_some, Option.map_some, completed, bind_eq_ok_iff, Mapping.steps_eq_ok_iff_renamed,
    kept.given_inverse, Work.runFrom_fst_eq_ok_iff, pure_eq_ok_iff, Prod.mk.injEq]
  constructor
  · rintro ⟨t, tracked, given, prepares, _, ⟨uses, rfl⟩, _, checked, ss, ⟨last, returned⟩, _, ⟨used, rfl⟩,
      rfl, rfl⟩
    exact ⟨rfl, { given with steps := ss }, ⟨t, given.renamed names.component, ss, last, tracked,
      ⟨given, prepares, uses, rfl⟩, known given uses, checkExisting_eq_ok_iff.mp checked, returned,
      fun s mem name inside => placed (used s mem name inside), rfl, trivial⟩, used, rfl⟩
  · rintro ⟨rfl, _, ⟨t, _, ss, last, tracked, ⟨given, prepares, uses, rfl⟩, -, checked, returned, -, rfl, -⟩,
      used, rfl⟩
    exact ⟨t, tracked, given, prepares, _, ⟨uses, rfl⟩, ⟨⟩, checkExisting_eq_ok_iff.mpr checked, ss,
      ⟨last, returned⟩, _, ⟨used, rfl⟩, rfl, rfl⟩

/-- The mapping under which moves are inserted. The caller's mapping is this one afterwards. -/
def effective (architecture : Architecture) (mapping : Mapping) : Mapping :=
  if architecture.gates.contains "move" then complete architecture mapping else mapping

/-- No name is that of a component that has no name, where moves can be used. -/
def Unambiguous (architecture : Architecture) (mapping : Mapping) : Prop :=
  architecture.gates.contains "move" = true →
    ∀ name ∈ mapping.keys, name ∈ architecture.components → name ∈ mapping.values

/-- Under an unambiguous mapping names stand for what they stood for, and components that had no name keep theirs. -/
theorem effective_of_unambiguous (faithful : m.Faithful) (clear : Unambiguous arch m) :
    (∀ name ∈ m.given, (effective arch m).component name = m.component name) ∧
      ∀ place ∈ arch.components, (effective arch m).author place = m.author place ∧
        (arch.gates.contains "move" = true → place ∈ (effective arch m).named) := by
  unfold effective
  by_cases supported : arch.gates.contains "move" = true
  · rw [if_pos supported]
    have kept := faithful_complete arch faithful
    have same : ∀ name ∈ m.given, (complete arch m).get? name = m.get? name := by
      intro name present
      rw [get?_complete, if_neg]
      exact fun nameless => nameless.2 (clear supported name present nameless.1)
    refine ⟨fun name present => ?_, fun place component => ?_⟩
    · rw [Mapping.component, Mapping.component, Table.getD, Table.getD, same name present]
    · by_cases has : place ∈ m.values
      · obtain ⟨name, stands⟩ := faithful.mem_values_iff.mp has
        have still := (same name (mem_keys_of_get? stands)).trans stands
        exact ⟨(kept.author_of_get? still).trans (faithful.author_of_get? stands).symm, fun _ => ⟨name, still⟩⟩
      · have own := get?_complete_self component has
        have nameless : place ∉ m.named := fun named => has (faithful.mem_values_iff.mpr named)
        exact ⟨(kept.author_of_get? own).trans (faithful.author_of_not_named nameless).symm, fun _ => ⟨place, own⟩⟩
  · rw [if_neg supported]
    exact ⟨fun _ _ => rfl, fun _ _ => ⟨rfl, fun contrary => (supported contrary).elim⟩⟩

/-- The caller's mapping stays as it is exactly if it names all components, or if moves cannot be used. -/
theorem effective_eq_self_iff (faithful : m.Faithful) :
    effective arch m = m ↔
      (arch.gates.contains "move" = true → ∀ place ∈ arch.components, place ∈ m.values) := by
  unfold effective
  by_cases supported : arch.gates.contains "move" = true
  · simp only [supported, if_true, true_imp_iff]
    constructor
    · intro same place component
      by_contra nameless
      have own := get?_complete_self component nameless
      rw [same] at own
      exact nameless (faithful.mem_values_iff.mpr ⟨place, own⟩)
    · intro all
      have none : Names.diff arch.components m.values = [] :=
        eq_nil_iff_forall_not_mem.mpr fun place => by simpa using all place
      rw [complete, none]
      rfl
  · simp [supported]

section Covered

variable (faithful : m.Faithful) (covers : Uses m.given c.steps)

include faithful covers

/-- Renamed steps act on named components, and have their names back when they are named again. -/
theorem renamed_and_back :
    Uses m.named (c.renamed m.component).steps ∧
      (c.renamed m.component).renamed m.author = c := by
  refine ⟨Mapping.uses_renamed covers, ?_⟩
  unfold Circuit.renamed
  rw [Circuit.map_renamed_back covers fun name present => faithful.author_component present]

theorem insert_eq_ok_iff_effective (within : m.named ⊆ { place | place ∈ arch.components }) :
    insert arch existing (some m) restores c = .ok (made, after) ↔
      after = some (effective arch m) ∧ ∃ inner,
        insert arch existing none restores (c.renamed (effective arch m).component) =
          .ok (inner, none) ∧
        Uses (effective arch m).named inner.steps ∧
        inner.renamed (effective arch m).author = made := by
  unfold effective
  by_cases supported : arch.gates.contains "move" = true
  · rw [if_pos supported]
    exact insert_eq_ok_iff_complete supported faithful within rfl
      fun s mem name inside => given_subset_complete (covers s mem name inside)
  · have unsupported : arch.gates.contains "move" = false := by simpa using supported
    obtain ⟨uses, back⟩ := renamed_and_back faithful covers
    have moves : (∀ s ∈ (c.renamed m.component).steps, s.name ≠ "move") ↔
        ∀ s ∈ c.steps, s.name ≠ "move" := by
      simp [Circuit.renamed]
    rw [if_neg supported, insert_of_unsupported unsupported]
    simp only [insert_of_unsupported unsupported, moves]
    constructor
    · rintro ⟨free, rfl, rfl⟩
      exact ⟨rfl, _, ⟨free, rfl, trivial⟩, uses, back⟩
    · rintro ⟨rfl, _, ⟨free, rfl, -⟩, -, rfl⟩
      exact ⟨free, back.symm, rfl⟩

/-- Under an unambiguous mapping all components of what was inserted have names. -/
theorem uses_of_unambiguous (clear : Unambiguous arch m) {inner : Circuit}
    (within : m.named ⊆ { place | place ∈ arch.components })
    (returned : insert arch existing none restores (c.renamed m.component) = .ok (inner, none)) :
    Known arch inner.steps ∧ Uses (effective arch m).named inner.steps := by
  by_cases supported : arch.gates.contains "move" = true
  · obtain ⟨_, _, ss, _, _, _, _, _, _, known, rfl, _⟩ := (insert_eq_ok_iff supported).mp returned
    exact ⟨known, fun s mem name inside =>
      ((effective_of_unambiguous faithful clear).2 name (known s mem name inside)).2 supported⟩
  · have unsupported : arch.gates.contains "move" = false := by simpa using supported
    obtain ⟨-, rfl, -⟩ := (insert_of_unsupported unsupported).mp returned
    have uses := (renamed_and_back faithful covers).1
    rw [effective, if_neg supported]
    exact ⟨fun s mem name inside => within (uses s mem name inside), uses⟩

/-- An unambiguous mapping is honoured. -/
theorem insert_honours_of_unambiguous (clear : Unambiguous arch m)
    (within : m.named ⊆ { place | place ∈ arch.components }) :
    (∃ after, insert arch existing (some m) restores c = .ok (made, after)) ↔
      ∃ inner, insert arch existing none restores (c.renamed m.component) = .ok (inner, none) ∧
        inner.renamed m.author = made := by
  obtain ⟨components, places⟩ := effective_of_unambiguous faithful clear
  have outward : c.renamed (effective arch m).component = c.renamed m.component := by
    unfold Circuit.renamed
    rw [Circuit.map_renamed_congr covers components]
  have inward (inner : Circuit) (known : Known arch inner.steps) :
      inner.renamed (effective arch m).author = inner.renamed m.author := by
    have uses : Uses { place | place ∈ arch.components } inner.steps := known
    unfold Circuit.renamed
    rw [Circuit.map_renamed_congr uses fun place component => (places place component).1]
  simp only [insert_eq_ok_iff_effective faithful covers within, exists_and_right, exists_eq, true_and, outward]
  refine exists_congr fun inner => and_congr_right fun returned => ?_
  obtain ⟨known, uses⟩ := uses_of_unambiguous faithful covers clear within returned
  rw [inward inner known]
  exact and_iff_right uses

end Covered

/-- Moves are inserted between the components that an author's names stand for, and what comes of it is named again,
under the mapping that was completed by the components without names. The caller finds this mapping afterwards; it is
the one that was given only if that names all components. If no name is that of a component without a name, the
author's names are honoured. -/
theorem insert_under_names (faithful : mapping.Faithful)
    (within : mapping.named ⊆ { place | place ∈ architecture.components })
    (covers : Uses mapping.given circuit.steps) (existing : Existing) (restores : Bool) :
    (∀ made after, insert architecture existing (some mapping) restores circuit = .ok (made, after) ↔
      after = some (effective architecture mapping) ∧ ∃ inner,
        insert architecture existing none restores (circuit.renamed (effective architecture mapping).component) =
          .ok (inner, none) ∧
        Uses (effective architecture mapping).named inner.steps ∧
        inner.renamed (effective architecture mapping).author = made) ∧
    (effective architecture mapping = mapping ↔
      (architecture.gates.contains "move" = true → ∀ place ∈ architecture.components, place ∈ mapping.values)) ∧
    (Unambiguous architecture mapping → ∀ made,
      (∃ after, insert architecture existing (some mapping) restores circuit = .ok (made, after)) ↔
        ∃ inner, insert architecture existing none restores (circuit.renamed mapping.component) = .ok (inner, none) ∧
          inner.renamed mapping.author = made) := by
  exact ⟨fun _ _ => insert_eq_ok_iff_effective faithful covers within, effective_eq_self_iff faithful,
    fun clear _ => insert_honours_of_unambiguous faithful covers clear within⟩

/-- A name for the second qubit, which is what the first qubit is called, and a name for the resonator. -/
def crossing : Mapping := ⟨[("QB1", "QB2"), ("R", "CR1")]⟩

/-- A `cz` between the second qubit and the resonator in the implementation that this qubit has, under those names. -/
def crossedCircuit : Circuit where
  name := "crossed"
  steps := [{ gating "QB1" "R" with implementation := some "y" }]

theorem crossing_cases {name place : String} (stands : crossing.get? name = some place) :
    name = "QB1" ∧ place = "QB2" ∨ name = "R" ∧ place = "CR1" := by
  simpa [crossing] using mem_entries_of_get? stands

theorem faithful_crossing : crossing.Faithful where
  distinct := by decide
  injective := by
    intro name other target stands others
    rcases crossing_cases stands with ⟨rfl, rfl⟩ | ⟨rfl, rfl⟩
    · exact ((crossing_cases others).resolve_right (by simp)).1.symm
    · exact ((crossing_cases others).resolve_left (by simp)).1.symm

/-- Under these names the circuit is refused, though it can be run on the components that they stand for: the name of
the second qubit stands for the first one in the end. -/
theorem insert_refused_under_crossing :
    (∃ inner, insert twoQubitStar .keep none true (crossedCircuit.renamed crossing.component) = .ok (inner, none)) ∧
      (∀ made after, insert twoQubitStar .keep (some crossing) true crossedCircuit ≠ .ok (made, after)) ∧
      effective twoQubitStar crossing ≠ crossing := by
  have within : crossing.named ⊆ { place | place ∈ twoQubitStar.components } := by
    rintro place ⟨name, stands⟩
    rcases crossing_cases stands with ⟨-, rfl⟩ | ⟨-, rfl⟩
    · simp [twoQubitStar]
    · simp [twoQubitStar]
  have covers : Uses crossing.given crossedCircuit.steps := by
    simp [Uses, crossedCircuit, gating, Mapping.given, crossing, Table.keys]
  obtain ⟨exactly, unchanged, -⟩ := insert_under_names faithful_crossing within covers .keep true
  refine ⟨?_, fun made after returned => ?_, ?_⟩
  · have accepted : twoQubitStar.checkStep none { gating "QB2" "CR1" with implementation := some "y" } = .ok () :=
      (Architecture.checkStep_cz_of_chosen rfl rfl).mpr ⟨_, _, rfl, rfl, _, List.mem_singleton_self _, .refl _⟩
    have moveFree : ∀ step ∈ (crossedCircuit.renamed crossing.component).steps, step.name ≠ "move" := by
      simp [Circuit.renamed, crossedCircuit, gating]
    obtain ⟨inner, mapping, inserted⟩ := insert_returns isStar_twoQubitStar true (prepared_of_moveFree moveFree .keep)
      (fun step member name inside =>
        within ((renamed_and_back faithful_crossing covers).1 step member name inside))
      (fun _ => rfl) (List.forall_mem_singleton.mpr (.inl accepted))
      (by simp [Paired, Circuit.renamed, crossedCircuit, gating])
    obtain ⟨_, _, _, _, _, _, _, _, _, _, _, rfl⟩ := (insert_eq_ok_iff rfl).mp inserted
    exact ⟨inner, inserted⟩
  · obtain ⟨-, inner, inserted, -⟩ := (exactly made after).mp returned
    have first : (effective twoQubitStar crossing).component "QB1" = "QB1" := by
      apply Mapping.component_of_get?
      change (complete twoQubitStar crossing).get? "QB1" = some "QB1"
      rw [get?_complete, if_pos]
      simp [twoQubitStar, crossing, Table.values]
    have second : (effective twoQubitStar crossing).component "R" = "CR1" := by
      apply Mapping.component_of_get?
      change (complete twoQubitStar crossing).get? "R" = some "CR1"
      rw [get?_complete, if_neg (by simp [twoQubitStar])]
      rfl
    obtain ⟨_, _, _, _, _, _, _, prepares, _, course, _⟩ := course_of_insert rfl inserted
    cases prepares
    rcases course.realisations.accepted_or_resolves course.tracks _ List.mem_cons_self with accepted | ⟨way, resolves⟩
    · obtain ⟨_, _, found, listed, known, member, reordered⟩ :=
        (Architecture.checkStep_cz_of_chosen rfl rfl).mp accepted
      cases found
      cases listed
      cases List.mem_singleton.mp member
      simp only [Circuit.Step.renamed_locus, gating, List.map_cons, List.map_nil, first, second] at reordered
      exact absurd reordered (by decide)
    · have located := resolves.qubits
      have gated := (offers_twoQubitStar_iff.mp resolves.gated).2
      have movable := (offers_twoQubitStar_iff.mp resolves.movable).2
      simp only [Circuit.Step.renamed_locus, gating, List.map_cons, List.map_nil, first, second] at located
      grind
  · rw [ne_eq, unchanged]
    intro all
    have nameless := all rfl "QB1" (by simp [twoQubitStar])
    simp [crossing, Table.values] at nameless

end Move

end Transmon
