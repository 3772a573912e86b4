import Mathlib.Data.List.Perm.Subperm
import Mathlib.Tactic.MkIffOfInductiveProp
import Transmon.Proofs.Basic
import Transmon.Settings.Assign

/-!
# Differences of trees of settings

Two trees are followed together along the keys that both have. Main statement: if the values that stand at one place can
be compared, the lines of a difference are exactly those about the nodes that meet, there are none exactly if the trees
are equal, and read from the other side each loss is a gain.
-/

namespace Transmon.Settings.Tree

open List

section Entries

variable {α : Type} {es fs : Named α} {k m : String}

/-- The first entries have a key that the second lack. -/
def Lacks (es fs : Named α) (k : String) : Prop := k ∈ es.map Prod.fst ∧ fs.lookup k = none

theorem mem_iff_lookup {v : α} (nodup : (es.map Prod.fst).Nodup) : (k, v) ∈ es ↔ es.lookup k = some v :=
  ⟨Table.get?_of_mem_entries (t := ⟨es⟩) nodup, Table.mem_entries_of_get? (t := ⟨es⟩)⟩

theorem lookup_eq_none : es.lookup k = none ↔ k ∉ es.map Prod.fst := Table.get?_eq_none_iff (t := ⟨es⟩)

theorem mem_map_lacks {f : String → String} :
    m ∈ (es.filter fun e => (fs.lookup e.1).isNone).map (fun e => f e.1) ↔ ∃ k, Lacks es fs k ∧ m = f k := by
  simp only [mem_map, mem_filter, Option.isNone_iff_eq_none, Lacks]
  grind

/-- If each entry gives a list whose members are known, so are the members of all lists. -/
theorem mapM_flatten {change : String × α → Outcome Names} {all : Outcome (List Names)}
    (nodup : (es.map Prod.fst).Nodup) (made : es.mapM change = all) (meets : String → α → String → Prop)
    (each : ∀ k v, es.lookup k = some v → ∃ ls, change (k, v) = .ok ls ∧ ∀ l, l ∈ ls ↔ meets k v l) :
    ∃ lists, all = .ok lists ∧ ∀ l, l ∈ lists.flatten ↔ ∃ k v, es.lookup k = some v ∧ meets k v l := by
  -- over the entries themselves, whose keys need no longer be distinct
  simp only [← mem_iff_lookup nodup] at each ⊢
  clear nodup
  subst made
  induction es with
  | nil => exact ⟨[], rfl, by simp⟩
  | cons e es ih =>
    obtain ⟨ls, changed, first⟩ := each e.1 e.2 (by simp)
    obtain ⟨lists, made, others⟩ := ih fun k v mem => each k v (.tail _ mem)
    refine ⟨ls :: lists, by simp [changed, made], fun l => ?_⟩
    simp only [flatten_cons, mem_append, first, others, mem_cons]
    grind

/-- As many entries as others and each found among them: the keys are the same. -/
theorem all_found_iff {R : α → α → Bool} (nodup : (es.map Prod.fst).Nodup) (others : (fs.map Prod.fst).Nodup) :
    (es.length = fs.length ∧ ∀ e ∈ es, (fs.lookup e.1).any (R e.2)) ↔ (∀ k, ¬ Lacks es fs k) ∧ (∀ k, ¬ Lacks fs es k) ∧
      ∀ k s t, es.lookup k = some s → fs.lookup k = some t → R s t := by
  simp only [Lacks, lookup_eq_none, not_and, not_not]
  constructor
  · rintro ⟨long, found⟩
    have kept : es.map Prod.fst ⊆ fs.map Prod.fst := by grind [lookup_eq_none]
    have same := (subperm_of_subset nodup kept).perm_of_length_le (by simp [long])
    exact ⟨kept, same.symm.subset, fun k s t first second => by
      simpa [second] using found _ ((mem_iff_lookup nodup).mpr first)⟩
  · rintro ⟨kept, own, related⟩
    have same := (perm_ext_iff_of_nodup nodup others).mpr fun k => ⟨kept k, own k⟩
    refine ⟨by simpa using same.length_eq, fun e entry => ?_⟩
    have first := (mem_iff_lookup nodup).mp entry
    cases second : fs.lookup e.1 with
    | none => grind [lookup_eq_none]
    | some t => exact related e.1 e.2 t first second

end Entries

/-- Two nodes have a setting in common that differs, and this is its line. -/
def Changed (x y : Tree) (m : String) : Prop :=
  ∃ k s t, x.settings.lookup k = some s ∧ y.settings.lookup k = some t ∧ s.equal t = false ∧ settingLine k s t = .ok m

/-- A line about two nodes at one path. -/
@[mk_iff]
inductive Told (x y : Tree) : String → Prop
  | renamed (different : x.name ≠ y.name) : Told x y s!"node name: {x.name}/{y.name}"
  | setting {m : String} (changed : Changed x y m) : Told x y m
  | settingLost {k : String} (lacks : Lacks x.settings y.settings k) : Told x y s!"-setting: {k}"
  | settingGained {k : String} (lacks : Lacks y.settings x.settings k) : Told x y s!"+setting: {k}"
  | subnodeLost {k : String} (lacks : Lacks x.subtrees y.subtrees k) : Told x y s!"-subnode: {k}"
  | subnodeGained {k : String} (lacks : Lacks y.subtrees x.subtrees k) : Told x y s!"+subnode: {k}"

/-- A line about the nodes that two trees have at one path, with that path. -/
@[mk_iff]
inductive Reported (told : Tree → Tree → String → Prop) : String → Tree → Tree → String → Prop
  | here {p m : String} {a b : Tree} (line : told a b m) : Reported told p a b s!"{p}: {m}"
  | deeper {p k l : String} {a b u v : Tree} (first : a.subtrees.lookup k = some u)
      (second : b.subtrees.lookup k = some v) (later : Reported told (if p.isEmpty then k else p ++ "." ++ k) u v l) :
      Reported told p a b l

def shapeOf : Value → Option (List Nat)
  | .array _ s _ => some s
  | _ => none

/-- Of two values under one key both are arrays of one shape or neither is an array. -/
def Alike (a b : Tree) : Prop :=
  ∀ k s t, a.settings.lookup k = some s → b.settings.lookup k = some t → shapeOf s.value = shapeOf t.value

/-- The keys of a node are distinct. -/
def Distinct (t : Tree) : Prop := (t.settings.map Prod.fst).Nodup ∧ (t.subtrees.map Prod.fst).Nodup

/-- The values of two trees can be compared wherever both have one. -/
inductive Comparable : Tree → Tree → Prop
  | node {a b : Tree} (distinct : Distinct a) (others : Distinct b) (alike : Alike a b)
      (below : ∀ k u v, a.subtrees.lookup k = some u → b.subtrees.lookup k = some v → Comparable u v) : Comparable a b

variable {a b : Tree} {s t : Setting}

theorem Comparable.symm (comparable : Comparable a b) : Comparable b a := by
  induction comparable with
  | node nodup others alike _ ih =>
    exact .node others nodup (fun k s t first second => (alike k t s second first).symm)
      fun k u v first second => ih k v u second first

theorem Reported.swap {told : Tree → Tree → String → Prop} {p l : String} (reported : Reported told p a b l) :
    Reported (Function.swap told) p b a l := by
  induction reported with
  | here line => exact .here line
  | deeper first second _ ih => exact .deeper second first ih

theorem stretched_self (s : List Nat) : stretched s s = .ok s := by
  induction s with
  | nil => rfl
  | cons n s ih => simp [stretched, ih]

theorem settingLine_ok (k : String) (alike : shapeOf s.value = shapeOf t.value) : ∃ l, settingLine k s t = .ok l := by
  obtain ⟨l, compared⟩ : ∃ l, valueLine s.value t.value = .ok l := by
    revert alike
    cases s.value <;> cases t.value <;> simp_all [shapeOf, valueLine, sameStretched, stretched_self]
  by_cases same : s.param.collection = t.param.collection <;> simp [settingLine, compared, same]

theorem settingLines_mem (nodup : (a.settings.map Prod.fst).Nodup) (alike : Alike a b) :
    ∃ ls, settingLines a.settings b.settings = .ok ls ∧ ∀ m, m ∈ ls ↔ Changed a b m ∨
      (∃ k, Lacks a.settings b.settings k ∧ m = s!"-setting: {k}") ∨
      ∃ k, Lacks b.settings a.settings k ∧ m = s!"+setting: {k}" := by
  unfold settingLines
  generalize made : mapM (m := Outcome) _ a.settings = own
  obtain ⟨own, rfl, listed⟩ := mapM_flatten nodup made (fun k s m =>
    (b.settings.lookup k = none ∧ m = s!"-setting: {k}") ∨
      ∃ t, b.settings.lookup k = some t ∧ s.equal t = false ∧ settingLine k s t = .ok m) (by
    intro k s held
    cases found : b.settings.lookup k with
    | none => exact ⟨_, rfl, by simp⟩
    | some t =>
      cases same : s.equal t with
      | true => exact ⟨_, if_pos same, by simp [same]⟩
      | false =>
        obtain ⟨l, written⟩ := settingLine_ok k (alike k s t held found)
        exact ⟨[l], (if_neg (by simp [same])).trans (by rw [written]; rfl), fun m => by
          simpa [same, written] using eq_comm⟩)
  refine ⟨_, rfl, fun m => ?_⟩
  rw [mem_append, listed, mem_map_lacks (f := (s!"+setting: {·}")), ← or_assoc]
  refine or_congr ?_ .rfl
  grind [Changed, Lacks, lookup_eq_none, mem_iff_lookup]

/-- Exactly the lines that are due are reported. -/
theorem diff_mem (comparable : Comparable a b) (p : String) :
    ∃ ls, diff p a b = .ok ls ∧ ∀ l, l ∈ ls ↔ Reported Told p a b l := by
  induction comparable generalizing p with
  | @node a b nodup others alike _ ih =>
    obtain ⟨about, written, told⟩ := settingLines_mem nodup.1 alike
    rw [diff, written]
    generalize made : mapM (m := Outcome) _ a.subtrees = below
    obtain ⟨below, rfl, listed⟩ := mapM_flatten nodup.2 made (fun k u l => ∃ v, b.subtrees.lookup k = some v ∧
      Reported Told (if p.isEmpty then k else p ++ "." ++ k) u v l) (by
      intro k u held
      cases found : b.subtrees.lookup k with
      | none => exact ⟨_, rfl, by simp⟩
      | some v =>
        obtain ⟨ls, made, each⟩ := ih k u v held found _
        exact ⟨ls, made, by simpa using each⟩)
    refine ⟨_, rfl, fun l => ?_⟩
    rw [mem_append, mem_map, listed, reported_iff]
    simp only [mem_append, mem_map_lacks (f := (s!"-subnode: {·}")), mem_map_lacks (f := (s!"+subnode: {·}")),
      told, mem_ite_nil_left, mem_singleton, beq_iff_eq, or_assoc, ← ne_eq, ← told_iff]
    grind

theorem equal_iff (comparable : Comparable a b) (p : String) : a.equal b ↔ ∀ l, ¬ Reported Told p a b l := by
  induction comparable generalizing p with
  | @node a b nodup others alike _ ih =>
    rw [equal, equalSettings]
    simp only [Bool.and_eq_true, beq_iff_eq, all_eq_true, all_map, Function.comp_apply, id, and_assoc]
    rw [← and_assoc (a := a.settings.length = _), all_found_iff (R := Setting.equal) nodup.1 others.1,
      all_found_iff (R := Tree.equal) nodup.2 others.2]
    constructor
    · rintro ⟨name, ⟨kept, own, same⟩, keeps, owns, equal⟩ l reported
      cases reported with
      | here line => grind [told_iff, Changed]
      | deeper first second later => exact (ih _ _ _ first second _).mp (equal _ _ _ first second) l later
    · intro silent
      have here m := silent s!"{p}: {m}" ∘ Reported.here
      simp only [told_iff] at here
      refine ⟨by grind, ⟨by grind, by grind, fun k s t first second => ?_⟩, by grind, by grind, ?_⟩
      · obtain ⟨l, written⟩ := settingLine_ok k (alike k s t first second)
        by_contra ne
        exact here l (.inr (.inl ⟨k, s, t, first, second, by simpa using ne, written⟩))
      · intro k u v first second
        exact (ih k u v first second _).mpr fun l later => silent l (.deeper first second later)

/-- Of trees whose values can be compared a difference is empty exactly if they are equal. Its lines are those about the
nodes that both have, and seen from the other tree they are about the same nodes with the sides exchanged. -/
theorem diff_complete (comparable : Comparable a b) (p : String) : ∃ there back,
    diff p a b = .ok there ∧ diff p b a = .ok back ∧ (there = [] ↔ a.equal b) ∧
    (∀ l, l ∈ there ↔ Reported Told p a b l) ∧ ∀ l, l ∈ back ↔ Reported (Function.swap Told) p a b l := by
  obtain ⟨there, made, lines⟩ := diff_mem comparable p
  obtain ⟨back, returned, others⟩ := diff_mem comparable.symm p
  refine ⟨there, back, made, returned, ?_, lines, fun l => (others l).trans ⟨.swap, .swap⟩⟩
  simp only [equal_iff comparable p, List.eq_nil_iff_forall_not_mem, lines]

theorem diff_complete_pruned : ∃ there back,
    diff "" { name := "r", subtrees := [("k", default)] } { name := "r" } = .ok there ∧
    diff "" { name := "r" } { name := "r", subtrees := [("k", default)] } = .ok back ∧
    ": -subnode: k" ∈ there ∧ ": +subnode: k" ∈ back := by
  obtain ⟨there, back, made, returned, -, lines, others⟩ :=
    diff_complete (a := { name := "r", subtrees := [("k", default)] }) (b := { name := "r" })
      (.node ⟨.nil, by simp⟩ ⟨.nil, .nil⟩ (by simp [Alike]) (by simp)) ""
  exact ⟨there, back, made, returned, (lines _).mpr (.here (Told.subnodeLost (k := "k") ⟨by simp, rfl⟩)),
    (others _).mpr (.swap (.here (Told.subnodeGained (k := "k") ⟨by simp, rfl⟩)))⟩

end Transmon.Settings.Tree
