import Mathlib
import Transmon.Proofs.Basic
import Transmon.Routing.Star

/-!
# Circuits of routes on a star

A round goes through the steps of a route forward or backward. Both ways the same variables meet, and a move only takes
what it moves to the end of the list of qubits that hold something. So each round has the gates of all couplings, and
the measurement writes the variables into the bits in the order in which the moves have left them.
-/

namespace Transmon.Routing

open Problem Quantity Outcome List Table

namespace Assignment

variable {a b u : Assignment} {p q v : Nat}

/-- The assignment in which a variable is on another qubit, and named last. -/
def replaced (a : Assignment) (source target v : Nat) : Assignment :=
  ⟨⟨a.held.entries.filter (fun e => !(source == e.1)) ++ [(target, v)]⟩⟩

theorem logical_eq_ok_iff (nodup : a.held.keys.Nodup) : a.logical q = .ok v ↔ (q, v) ∈ a.held.entries :=
  require_eq_ok_iff.trans ⟨mem_entries_of_get?, get?_of_mem_entries nodup⟩

theorem moved_eq_ok_iff : a.moved p q = .ok b ↔
    q ∉ a.held.keys ∧ ∃ v, a.logical p = .ok v ∧ a.replaced p q v = b := by
  unfold moved
  cases held : a.held.get? q with
  | some v => simp [Table.mem_keys_of_get? held, bind_eq_ok_iff, map_eq_ok_iff]
  | none =>
    have empty := Table.get?_eq_none_iff.mp held
    simp only [empty, not_false_eq_true, true_and, bind_eq_ok_iff, pure_eq_ok_iff]
    refine exists_congr fun v => and_congr_right fun read => ?_
    have other : p ≠ q := fun same => empty (same ▸ Table.mem_keys_of_get? (require_eq_ok_iff.mp read))
    simp [Table.insert, Table.put_of_not_mem v empty, Table.erase, replaced, other]

theorem replaced_perm (nodup : a.held.keys.Nodup) (held : (p, v) ∈ a.held.entries) :
    (a.replaced p p v).held.entries.Perm a.held.entries := by
  refine (perm_ext_iff_of_nodup ?_ nodup.of_map).mpr fun e => ?_
  · simpa [replaced, nodup_append'] using nodup.of_map.filter _
  · have unique (mem : e ∈ a.held.entries) (same : p = e.1) : e = (p, v) :=
      inj_on_of_nodup_map nodup mem held same.symm
    simp only [replaced, mem_append, mem_filter, mem_singleton]
    grind

/-- A move keeps what is held. -/
theorem moved_keeps (nodup : a.held.keys.Nodup) (moved : a.moved p q = .ok b) :
    b.held.keys.Nodup ∧ b.held.values.Perm a.held.values := by
  obtain ⟨empty, v, read, rfl⟩ := moved_eq_ok_iff.mp moved
  have same := replaced_perm nodup ((logical_eq_ok_iff nodup).mp read)
  have kept : ((a.held.entries.filter fun e => !(p == e.1)).map Prod.fst).Nodup := a.held.nodup_keys_erase nodup
  constructor
  · simp only [replaced, Table.keys, map_append, nodup_append', mem_map] at *
    simp
    grind
  · simpa [replaced, values] using same.map Prod.snd

/-- A move back undoes a move, in whatever order the qubits are listed. -/
theorem moved_back (nodup : a.held.keys.Nodup) (moved : a.moved p q = .ok b)
    (same : u.held.entries.Perm b.held.entries) : ∃ c, u.moved q p = .ok c ∧ c.held.entries.Perm a.held.entries := by
  obtain ⟨keys, -⟩ := moved_keeps nodup moved
  obtain ⟨empty, v, read, rfl⟩ := moved_eq_ok_iff.mp moved
  have held := (logical_eq_ok_iff nodup).mp read
  have other : p ≠ q := fun same => empty (same ▸ mem_keys_of_mem held)
  have apart (e : Nat × Nat) (mem : e ∈ a.held.entries) : q ≠ e.1 :=
    fun same => empty (same ▸ mem_map_of_mem mem)
  have there : (q, v) ∈ u.held.entries := same.mem_iff.mpr (by simp [replaced])
  have left : p ∉ u.held.keys := fun inside => by
    have := (same.map Prod.fst).mem_iff.mp inside
    simp [replaced, other] at this
  refine ⟨_, moved_eq_ok_iff.mpr
    ⟨left, v, (logical_eq_ok_iff ((same.map Prod.fst).nodup_iff.mpr keys)).mpr there, rfl⟩, ?_⟩
  refine ((same.filter _).append_right _).trans (.trans ?_ (replaced_perm nodup held))
  have clear : a.held.entries.filter (fun e => !(q == e.1) && !(p == e.1)) =
      a.held.entries.filter fun e => !(p == e.1) :=
    filter_congr fun e mem => by simp [apart e mem]
  simp [replaced, filter_filter, clear]

end Assignment

namespace StarRoute

open Assignment

variable {K : Type} {a b : Assignment}

/-- Takes steps from an assignment: on which leaf the variable in the middle meets which other, and the assignment
then. -/
def replay : List Step → Assignment → Outcome (List (Nat × Nat × Nat) × Assignment)
  | [], now => pure ([], now)
  | .moveIn q :: rest, now => do replay rest (← now.moved q centre)
  | .moveOut q :: rest, now => do replay rest (← now.moved centre q)
  | .meet q :: rest, now => do
    let met := (q, ← now.logical centre, ← now.logical q)
    let (more, now) ← replay rest now
    return (met :: more, now)

theorem replay_append {first second : List Step} {c : Assignment} {met more : List (Nat × Nat × Nat)}
    (begun : replay first a = .ok (met, b)) (ended : replay second b = .ok (more, c)) :
    replay (first ++ second) a = .ok (met ++ more, c) := by
  induction first generalizing a met with
  | nil => simp_all [replay]
  | cons step rest ih =>
    cases step with
    | moveIn q | moveOut q =>
      obtain ⟨next, moved, begun⟩ := bind_eq_ok_iff.mp begun
      simp [replay, moved, ih begun]
    | meet q =>
      simp only [replay, bind_eq_ok_iff] at begun
      obtain ⟨u, middle, w, leaf, ⟨last, now⟩, begun, same⟩ := begun
      obtain ⟨rfl, rfl⟩ : (q, u, w) :: last = met ∧ now = b := by simpa using same
      simp [replay, middle, leaf, ih begun]

/-- Backward the same variables meet on the same leaves. -/
theorem replay_reverse {ss : List Step} {met : List (Nat × Nat × Nat)} (nodup : a.held.keys.Nodup)
    (done : replay ss a = .ok (met, b)) : (b.held.keys.Nodup ∧ b.held.values.Perm a.held.values) ∧ ∃ c,
      replay (ss.reverse.map Step.undone) b = .ok (met.reverse, c) ∧ c.held.entries.Perm a.held.entries := by
  induction ss generalizing a met with
  | nil =>
    obtain ⟨rfl, rfl⟩ : [] = met ∧ a = b := by simpa [replay] using done
    exact ⟨⟨nodup, .refl _⟩, a, rfl, .refl _⟩
  | cons step rest ih =>
    rw [reverse_cons, map_append]
    cases step with
    | moveIn q | moveOut q =>
      obtain ⟨next, moved, done⟩ := bind_eq_ok_iff.mp done
      obtain ⟨keys, values⟩ := moved_keeps nodup moved
      obtain ⟨kept, c, back, same⟩ := ih keys done
      obtain ⟨d, undone, before⟩ := moved_back nodup moved same
      refine ⟨⟨kept.1, kept.2.trans values⟩, d, ?_, before⟩
      rw [← append_nil met.reverse]
      exact replay_append back (by simp [replay, Step.undone, undone])
    | meet q =>
      simp only [replay, bind_eq_ok_iff] at done
      obtain ⟨u, middle, w, leaf, ⟨more, now⟩, done, equal⟩ := done
      obtain ⟨rfl, rfl⟩ : (q, u, w) :: more = met ∧ now = b := by simpa using equal
      obtain ⟨kept, c, back, same⟩ := ih nodup done
      have keys := (same.map Prod.fst).nodup_iff.mpr nodup
      have read {p v : Nat} (held : a.logical p = .ok v) : c.logical p = .ok v :=
        (logical_eq_ok_iff keys).mpr (same.mem_iff.mpr ((logical_eq_ok_iff nodup).mp held))
      have last : replay [.meet q] c = .ok ([(q, u, w)], c) := by simp [replay, read middle, read leaf]
      exact ⟨kept, c, by simpa [Step.undone] using replay_append back last, same⟩

section Gates

variable [Quantity K] {r : Route K} {gamma : K} {ss : List Step} {met : List (Nat × Nat × Nat)}

/-- The gates of a meeting. What is coupled by nothing needs none. -/
def block (problem : Model Nat K) (gamma : K) (m : Nat × Nat × Nat) : List (Operation K) :=
  match problem.coupling? m.2.1 m.2.2 with
  | some weight =>
    if isZero weight then [] else [.controlled centre m.1, .rz (Route.turn gamma weight) m.1, .controlled centre m.1]
  | none => []

/-- The gates of steps on which variables meet. -/
def played (gates : Nat × Nat × Nat → List (Operation K)) : List Step → List (Nat × Nat × Nat) → List (Operation K)
  | .meet _ :: steps, m :: met => gates m ++ played gates steps met
  | .moveIn q :: steps, met | .moveOut q :: steps, met => .move q centre :: played gates steps met
  | _, _ => []

theorem stepsGates_eq (wires : ∀ q ∈ centre :: met.map Prod.fst, wire r.device q = .ok q)
    (coupled : ∀ m ∈ met, (r.problem.coupling? m.2.1 m.2.2).isSome) (done : replay ss a = .ok (met, b)) :
    stepsGates r gamma ss a = .ok (played (block r.problem gamma) ss met, b) := by
  induction ss generalizing a met with
  | nil =>
    obtain ⟨rfl, rfl⟩ : [] = met ∧ a = b := by simpa [replay] using done
    rfl
  | cons step rest ih =>
    cases step with
    | moveIn q | moveOut q =>
      obtain ⟨next, moved, done⟩ := bind_eq_ok_iff.mp done
      simp [stepsGates, stepGates, moved, ih wires coupled done, played]
    | meet q =>
      simp only [replay, bind_eq_ok_iff] at done
      obtain ⟨u, middle, w, leaf, ⟨more, now⟩, done, same⟩ := done
      obtain ⟨rfl, rfl⟩ : (q, u, w) :: more = met ∧ now = b := by simpa using same
      obtain ⟨weight, found : r.problem.coupling? u w = some weight⟩ :=
        Option.isSome_iff_exists.mp (coupled _ mem_cons_self)
      have first := wires centre mem_cons_self
      have second := wires q (by simp)
      have later := @ih a more (fun q inside => wires q (by grind)) (fun m inside => coupled m (by grind)) done
      have own : stepGates r gamma a (.meet q) = .ok (block r.problem gamma (q, u, w), a) := by
        have weighed : require .invalid (some weight) = .ok weight := rfl
        by_cases none : isZero weight <;> simp [stepGates, middle, leaf, block, found, weighed, none, first, second]
      simp [stepsGates, own, later, played]

/-- What a round of a circuit has: gates of the steps, forward or backward, from and to an assignment with every
variable in its place, then the turns by the fields, then the mixing. -/
def IsRound (s : StarRoute K) (met : List (Nat × Nat × Nat)) (order : List Nat) (angles : K × K)
    (gates : List (Operation K)) : Prop :=
  ∃ steps now meetings last, (steps = s.steps ∨ steps = s.steps.reverse.map Step.undone) ∧
    now.held.entries.Perm s.route.start.held.entries ∧ replay steps now = .ok (meetings, last) ∧ meetings.Perm met ∧
    last.held.entries.Perm s.route.start.held.entries ∧
    gates = played (block s.route.problem angles.1) steps meetings
      ++ last.held.entries.map (fun e => .rz (Route.turn angles.1 (s.route.problem.field e.2)) e.1)
      ++ [.mixings (ofInt 2 * angles.2) order]

/-- A route whose steps can be taken, bring every variable back to its place and let each coupling meet once. -/
structure IsWhole (s : StarRoute K) (met : List (Nat × Nat × Nat)) : Prop where
  distinct : s.route.start.held.keys.Nodup
  unknowns : s.route.start.held.values.Perm s.route.problem.unknowns
  replayed : ∃ last, replay s.steps s.route.start = .ok (met, last) ∧ last.held.entries.Perm s.route.start.held.entries
  coupled : (met.map fun m => s(m.2.1, m.2.2)).Perm (s.route.problem.couplings.map fun c => s(c.1, c.2.1))
  wires : ∀ q ∈ centre :: met.map Prod.fst ++ s.route.start.held.keys, wire s.route.device q = .ok q

/-- The assignment that a number of rounds leaves behind. -/
def after : Nat → List Step → Assignment → Outcome Assignment
  | 0, _, now => pure now
  | n + 1, steps, now => do after n (steps.reverse.map Step.undone) (← replay steps now).2

theorem undone_undone : (ss.reverse.map Step.undone).reverse.map Step.undone = ss := by
  have twice : Step.undone ∘ Step.undone = id := funext fun step => by cases step <;> rfl
  simp [map_reverse, twice]

omit [Quantity K] in
theorem coupling_isSome {problem : Model Nat K} {u v : Nat}
    (coupled : s(u, v) ∈ problem.couplings.map fun c => s(c.1, c.2.1)) : (problem.coupling? u v).isSome := by
  obtain ⟨c, mem, same⟩ := mem_map.mp coupled
  rw [Model.coupling?, Option.isSome_map, find?_isSome]
  exact ⟨c, mem, by simpa [Model.joins] using Sym2.eq_iff.mp same⟩

theorem IsWhole.rounds_eq {s : StarRoute K} (whole : s.IsWhole met) (angles : List (K × K)) {ss : List Step}
    {now last : Assignment} {meetings : List (Nat × Nat × Nat)}
    (way : ss = s.steps ∨ ss = s.steps.reverse.map Step.undone)
    (begun : now.held.entries.Perm s.route.start.held.entries) (done : replay ss now = .ok (meetings, last))
    (same : meetings.Perm met) (ended : last.held.entries.Perm s.route.start.held.entries) :
    ∃ final, after angles.length ss now = .ok final ∧ final.held.entries.Perm s.route.start.held.entries ∧ ∀ order,
      ∃ parts, rounds s.route order angles ss now = .ok (parts.flatten, final) ∧
        List.Forall₂ (s.IsRound met order) angles parts := by
  induction angles generalizing ss now last meetings with
  | nil => exact ⟨now, rfl, begun, fun order => ⟨[], rfl, .nil⟩⟩
  | cons angle rest ih =>
    obtain ⟨gamma, beta⟩ := angle
    have keys := (begun.map Prod.fst).nodup_iff.mpr whole.distinct
    obtain ⟨-, back, replayed, returned⟩ := replay_reverse keys done
    have other : ss.reverse.map Step.undone = s.steps ∨ ss.reverse.map Step.undone = s.steps.reverse.map Step.undone := by
      rcases way with rfl | rfl
      · exact .inr rfl
      · exact .inl undone_undone
    obtain ⟨final, counted, placed, more⟩ := ih other ended replayed ((reverse_perm _).trans same)
      (returned.trans begun)
    refine ⟨final, by simpa [after, done] using counted, placed, fun order => ?_⟩
    obtain ⟨parts, made, every⟩ := more order
    have gates : stepsGates s.route gamma ss now = .ok (played (block s.route.problem gamma) ss meetings, last) := by
      refine stepsGates_eq (fun q inside => whole.wires q ?_) (fun m inside => coupling_isSome ?_) done
      · have := (same.map Prod.fst).mem_iff (a := q)
        grind
      · exact whole.coupled.mem_iff.mp (mem_map_of_mem (same.mem_iff.mp inside))
    have fields : (last.held.entries.mapM fun e => do
        let field ← require .invalid (s.route.problem.field? e.2)
        return Operation.rz (Route.turn gamma field) (← wire s.route.device e.1)) =
        .ok (last.held.entries.map fun e => .rz (Route.turn gamma (s.route.problem.field e.2)) e.1) := by
      refine mapM_eq_ok_iff.mpr (forall₂_map_right_iff.mpr (forall₂_same.mpr fun e mem => ?_))
      have placed := ended.mem_iff.mp mem
      obtain ⟨field, found⟩ := Option.isSome_iff_exists.mp
        (isSome_get?_iff.mpr (whole.unknowns.mem_iff.mp (mem_map_of_mem placed)))
      have own := whole.wires e.1 (mem_append_right _ (mem_map_of_mem placed))
      have read : require .invalid (s.route.problem.field? e.2) = .ok field := require_eq_ok_iff.mpr found
      simp [read, own, Model.field, Table.getD, found]
    refine ⟨_ :: parts, ?_, .cons ⟨ss, now, meetings, last, way, begun, done, same, ended, rfl⟩ every⟩
    simp only [rounds, gates, ok_bind, fields, made]
    simp

/-- The circuit of a route that is whole has the gates of every coupling in each round. It measures the qubits in the
order that the moves of all rounds leave behind, so a variable is written into the bit of its own number exactly if they
leave the variables in the order of their numbers. -/
theorem circuit_rounds {s : StarRoute K} (whole : s.IsWhole met) {betas gammas : List K}
    (paired : betas.length = gammas.length) :
    ∃ last parts, after gammas.length s.steps s.route.start = .ok last ∧
      last.held.entries.Perm s.route.start.held.entries ∧
      s.circuit betas gammas = .ok ⟨s.route.device.graph.order, s.route.start.held.size, .hadamards last.held.keys
        :: parts.flatten ++ [.barrier, .measure last.held.keys (List.range last.held.keys.length)]⟩ ∧
      List.Forall₂ (s.IsRound met last.held.keys) (gammas.zip betas) parts ∧
      ((∀ k q v, last.held.keys[k]? = some q → s.route.start.logical q = .ok v → v = k) ↔
        last.held.values = List.range last.held.values.length) := by
  obtain ⟨back, replayed, kept⟩ := whole.replayed
  obtain ⟨last, counted, placed, every⟩ :=
    whole.rounds_eq (gammas.zip betas) (.inl rfl) (.refl _) replayed (.refl _) kept
  obtain ⟨others, first, -⟩ := every []
  obtain ⟨parts, made, each⟩ := every last.held.keys
  refine ⟨last, parts, ?_, placed, ?_, each, ?_⟩
  · simpa [paired] using counted
  · simp [circuit, Route.paired, paired, first, made]
  · have read {k : Nat} (inside : k < last.held.entries.length) :
        s.route.start.logical (last.held.entries[k].1) = .ok (last.held.entries[k].2) :=
      (logical_eq_ok_iff whole.distinct).mpr (placed.mem_iff.mp (List.getElem_mem inside))
    rw [List.ext_getElem_iff]
    simp only [List.length_range, true_and, List.getElem_range, Table.values, Table.keys, List.length_map,
      List.getElem_map]
    constructor
    · exact fun own k inside _ => own k _ _ (by simp [inside]) (read inside)
    · intro own k q v held logical
      obtain ⟨inside, rfl⟩ : ∃ inside : k < last.held.entries.length, last.held.entries[k].1 = q := by
        simpa using List.getElem?_eq_some_iff.mp held
      have same : last.held.entries[k].2 = v := Except.ok.inj ((read inside).symm.trans logical)
      exact same ▸ own k inside inside

/-- Three variables, of which the second is coupled to both others. -/
def pathProblem : Model Nat Rat := ⟨⟨[(0, 1), (1, 0), (2, 3)]⟩, [(0, 1, 2), (1, 2, 5)], 0⟩

def pathRoute : StarRoute Rat :=
  ⟨Route.begin (.star 3) pathProblem ⟨⟨[(1, 0), (2, 1), (3, 2)]⟩⟩, [.moveIn 2, .meet 1, .meet 3, .moveOut 2]⟩

/-- The router takes this route on a star with three leaves. One round leaves the second variable behind the third, so
each of the two is measured into the bit of the other. -/
theorem circuit_pathRoute :
    (routed (.star 3) pathProblem).toOption.map (fun s => (s.steps, s.route.start.held.entries)) =
        some (pathRoute.steps, pathRoute.route.start.held.entries) ∧
      pathRoute.IsWhole [(1, 1, 0), (3, 1, 2)] ∧ ∃ parts : List (List (Operation Rat)),
      pathRoute.circuit [3] [7] = .ok ⟨4, 3, .hadamards [1, 3, 2] :: parts.flatten ++
        [.barrier, .measure [1, 3, 2] [0, 1, 2]]⟩ ∧
      List.Forall₂ (pathRoute.IsRound [(1, 1, 0), (3, 1, 2)] [1, 3, 2]) [(7, 3)] parts := by
  have whole : pathRoute.IsWhole [(1, 1, 0), (3, 1, 2)] :=
    { distinct := by decide
      unknowns := .refl _
      replayed := ⟨⟨⟨[(1, 0), (3, 2), (2, 1)]⟩⟩, rfl, by decide⟩
      coupled := by decide
      wires := by
        have wires (q : Nat) (inside : q ∈ [0, 1, 2, 3]) : wire (.star 3) q = .ok q := by
          fin_cases inside <;> cbv
        exact fun q inside => wires q (by revert q; decide) }
  obtain ⟨last, parts, left, -, made, rounds, -⟩ := @circuit_rounds Rat _ _ pathRoute whole [3] [7] rfl
  obtain rfl : (⟨⟨[(1, 0), (3, 2), (2, 1)]⟩⟩ : Assignment) = last := Except.ok.inj left
  exact ⟨by cbv, whole, parts, made, rounds⟩

end Gates

end StarRoute

end Transmon.Routing
