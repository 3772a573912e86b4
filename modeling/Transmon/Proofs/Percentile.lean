import Mathlib.Algebra.BigOperators.Group.Multiset.Basic
import Mathlib.Data.Rat.Floor
import Transmon.Problem.Quadratic
import Transmon.Proofs.Basic

/-!
# Percentiles

The shots that a share of the counts selects. Laid out shot by shot, the selected counts are the first shots of the
ranked ones, so each of them costs at most what any shot left out costs, and no exchange gains anything. Numbers are
exact here: with floats the share of the total is rounded before it is cut.
-/

namespace Transmon.Problem.Percentile

open Instance List

/-- The shots that counts stand for, one by one. -/
def shots (counts : Named Int) : List String := counts.flatMap fun e => .replicate e.2.toNat e.1

theorem length_shots {counts : Named Int} (counted : ∀ e ∈ counts, 0 ≤ e.2) :
    ((shots counts).length : Int) = (counts.map Prod.snd).sum := by
  induction counts with
  | nil => rfl
  | cons e rest ih =>
    obtain ⟨head, tail⟩ := forall_mem_cons.mp counted
    simp [shots, ← ih tail, head]

/-- The count at which the limit is reached is split, so that exactly the wanted shots are kept. -/
theorem shots_firstShots {counts : Named Int} (counted : ∀ e ∈ counts, 0 ≤ e.2) (wanted taken : Int) :
    shots (firstShots wanted taken counts) = (shots counts).take (wanted - taken).toNat ∧
      ∀ e ∈ firstShots wanted taken counts, 0 ≤ e.2 := by
  induction counts generalizing taken with
  | nil => simp [shots, firstShots]
  | cons e rest ih =>
    obtain ⟨head, tail⟩ := forall_mem_cons.mp counted
    obtain ⟨first, nonneg⟩ := ih tail (taken + e.2)
    simp only [firstShots]
    split_ifs with reached missing
    · have split : (wanted - taken).toNat ≤ e.2.toNat := by omega
      exact ⟨by simp [shots, take_append, split], by simpa using missing.le⟩
    · exact ⟨by simp [shots, take_append, show (wanted - taken).toNat = 0 by omega], by simp⟩
    · have whole : e.2.toNat ≤ (wanted - taken).toNat := by omega
      have others : (wanted - taken).toNat - e.2.toNat = (wanted - (taken + e.2)).toNat := by omega
      refine ⟨?_, forall_mem_cons.mpr ⟨head, nonneg⟩⟩
      simp only [shots, flatMap_cons, take_append, take_replicate, length_replicate,
        Nat.min_eq_right whole, others] at first ⊢
      rw [first]

/-- As many shots cost no more if each of them costs at most what each of the others costs. -/
theorem sum_le_sum_of_forall {cost : String → Rat} {some others : Multiset String}
    (same : some.card = others.card) (cheaper : ∀ a ∈ some, ∀ b ∈ others, cost a ≤ cost b) :
    (some.map cost).sum ≤ (others.map cost).sum := by
  induction some using Multiset.induction generalizing others with
  | empty => simp [Multiset.card_eq_zero.mp same.symm]
  | cons a some ih =>
    obtain ⟨b, mem⟩ := Multiset.card_pos_iff_exists_mem.mp (show 0 < others.card by rw [← same]; simp)
    obtain ⟨others, rfl⟩ := Multiset.exists_cons_of_mem mem
    have rest := ih (by simpa using same) fun c chosen d other =>
      cheaper c (Multiset.mem_cons_of_mem chosen) d (Multiset.mem_cons_of_mem other)
    simpa using add_le_add (cheaper a (Multiset.mem_cons_self _ _) b mem) rest

/-- The first shots in order of cost are the cheapest ones: what another selection has in their place was left
out. -/
theorem sum_take_le {cost : String → Rat} {all : List String} (sorted : all.Pairwise (cost · ≤ cost ·))
    {other : Multiset String} (among : other ≤ all) (n : Nat) (same : other.card = (all.take n).length) :
    ((all.take n).map cost).sum ≤ (other.map cost).sum := by
  let first : Multiset String := all.take n
  let rest : Multiset String := all.drop n
  have parts : (all : Multiset String) = first + rest := by simp [first, rest]
  have cheaper : ∀ a ∈ first, ∀ b ∈ rest, cost a ≤ cost b := by
    rw [← all.take_append_drop n, pairwise_append] at sorted
    exact fun a chosen b left => sorted.2.2 a (by simpa [first] using chosen) b (by simpa [rest] using left)
  have kept := Multiset.sub_add_inter first other
  have brought := Multiset.sub_add_inter other first
  have swapped : ((first - other).map cost).sum ≤ ((other - first).map cost).sum := by
    refine sum_le_sum_of_forall ?_ fun a chosen b left =>
      cheaper a (Multiset.mem_of_le (Multiset.sub_le_self _ _) chosen) b
        (Multiset.mem_of_le (Multiset.sub_le_iff_le_add'.mpr (parts ▸ among)) left)
    have one := congrArg Multiset.card kept
    have two := congrArg Multiset.card brought
    simp only [Multiset.card_add, Multiset.inter_comm other] at one two
    have size : first.card = (all.take n).length := Multiset.coe_card _
    omega
  calc ((all.take n).map cost).sum = (first.map cost).sum := by simp [first]
    _ = ((first - other).map cost).sum + ((first ∩ other).map cost).sum := by
      rw [← Multiset.sum_add, ← Multiset.map_add, kept]
    _ ≤ ((other - first).map cost).sum + ((first ∩ other).map cost).sum := by gcongr
    _ = (other.map cost).sum := by
      rw [Multiset.inter_comm, ← Multiset.sum_add, ← Multiset.map_add, brought]

/-- Ranked counts are the same counts, and no shot of them is worth less, or more when the worst are asked for, than
one before it. -/
theorem ranked_spec (worth : String → Rat) (bestFirst : Bool) (counts : Named Int) :
    let order := ranked bestFirst (counts.map fun e => (worth e.1, e))
    order.Perm counts ∧
      (shots order).Pairwise fun a b => if bestFirst then worth a ≤ worth b else worth b ≤ worth a := by
  let scored := counts.map fun e => (worth e.1, e)
  let precedes (a b : Rat × String × Int) : Bool := if bestFirst then decide (a.1 ≤ b.1) else decide (b.1 ≤ a.1)
  have same : ranked bestFirst scored = (scored.mergeSort precedes).map .snd := by
    simp [ranked, precedes, Quantity.below, ← decide_not]
  have perm : (scored.mergeSort precedes).Perm scored := scored.mergeSort_perm precedes
  have sorted : (scored.mergeSort precedes).Pairwise fun a b => precedes a b = true :=
    pairwise_mergeSort (by grind) (by grind) scored
  simp only [scored] at same
  rw [same]
  constructor
  · simpa [scored, Function.comp_def] using perm.map Prod.snd
  · refine pairwise_flatMap.mpr ⟨fun e _ => ?_, pairwise_map.mpr (sorted.imp_of_mem ?_)⟩
    · exact pairwise_replicate.mpr (.inr (by simp))
    · intro a b first second before x one y two
      obtain ⟨e, -, rfl⟩ := mem_map.mp (perm.mem_iff.mp first)
      obtain ⟨e', -, rfl⟩ := mem_map.mp (perm.mem_iff.mp second)
      rw [eq_of_mem_replicate one, eq_of_mem_replicate two]
      cases bestFirst <;> simpa [precedes] using before

/-- The whole part of a number that is not negative. -/
theorem toNat_whole {q : Rat} (nonneg : 0 ≤ q) : (Quantity.whole q).toNat = ⌊q⌋₊ := by
  have floor : q.num.tdiv q.den = ⌊q⌋ := by
    rw [Int.tdiv_eq_ediv_of_nonneg (Rat.num_nonneg.mpr nonneg), Rat.floor_def']
  rw [← Int.floor_toNat, ← floor]
  rfl

variable {p : Instance Rat} {counts : Counts} {worth : String → Rat}

theorem exists_returns_consult {bits : String} (start : Findings Rat) (valued : p.quality bits = .ok (worth bits))
    (judged : p.isLimited → ∃ allowed, p.allows bits = .ok allowed) :
    ∃ finish, (p.consult bits).Returns start (worth bits) finish := by
  cases limited : p.isLimited with
  | false => exact ⟨start, by simp [consult, limited, valued]⟩
  | true =>
    obtain ⟨allowed, told⟩ := judged limited
    -- A bitstring that breaks a constraint leaves a note, and nothing else changes.
    refine ⟨if allowed then start else { start with notes := start.notes + 1 }, ?_⟩
    simp only [consult, limited, told, valued, Work.lift_ok, pure_bind]
    cases allowed <;> rfl

theorem exists_returns_scored (entries : Named Int) (start : Findings Rat)
    (valued : ∀ e ∈ entries, p.quality e.1 = .ok (worth e.1))
    (judged : p.isLimited → ∀ e ∈ entries, ∃ allowed, p.allows e.1 = .ok allowed) :
    ∃ finish, Work.Returns (entries.mapM fun e => do pure (← p.consult e.1, e)) start
      (entries.map fun e => (worth e.1, e)) finish := by
  induction entries generalizing start with
  | nil => exact ⟨start, Work.returns_pure_iff.mpr ⟨rfl, rfl⟩⟩
  | cons e rest ih =>
    simp only [forall_mem_cons] at valued judged
    obtain ⟨middle, head⟩ := exists_returns_consult start valued.1 fun limited => (judged limited).1
    obtain ⟨finish, tail⟩ := ih middle valued.2 fun limited => (judged limited).2
    refine ⟨finish, ?_⟩
    simp only [mapM_cons, map_cons, Work.returns_bind_iff, Work.returns_pure_iff]
    exact ⟨_, middle, ⟨_, middle, head, rfl, rfl⟩, _, finish, tail, rfl, rfl⟩

/-- The shots that a share asks for are there. -/
theorem toNat_wanted {share : Rat} (lower : 0 ≤ share) (upper : share ≤ 1) (counted : ∀ e ∈ counts.entries, 0 ≤ e.2) :
    (Quantity.whole (Quantity.ofInt counts.total * share)).toNat = ⌊share * (shots counts.entries).length⌋₊ ∧
      ⌊share * (shots counts.entries).length⌋₊ ≤ (shots counts.entries).length := by
  have total : counts.total = (shots counts.entries).length := by
    rw [length_shots counted, Counts.total, ← sum_eq_foldl]
    rfl
  have part : Quantity.ofInt counts.total * share = share * (shots counts.entries).length := by
    rw [total, mul_comm]
    rfl
  rw [part, toNat_whole (mul_nonneg lower (Nat.cast_nonneg _))]
  exact ⟨rfl, Nat.floor_le_of_le (mul_le_of_le_one_left (Nat.cast_nonneg _) upper)⟩

/-- A share of the counts takes that part of the shots, rounded down, and no other selection of as many shots is
better, or worse when the worst are asked for. -/
theorem percentile_spec {share : Rat} (lower : 0 ≤ share) (upper : share ≤ 1)
    (counted : ∀ e ∈ counts.entries, 0 ≤ e.2)
    (valued : ∀ e ∈ counts.entries, p.quality e.1 = .ok (worth e.1))
    (judged : p.isLimited → ∀ e ∈ counts.entries, ∃ allowed, p.allows e.1 = .ok allowed)
    (bestFirst : Bool) (start : Findings Rat) :
    ∃ selected finish, (p.percentile counts share bestFirst).Returns start selected finish ∧
      (∀ e ∈ selected.entries, 0 ≤ e.2) ∧
      (shots selected.entries : Multiset String) ≤ shots counts.entries ∧
      (shots selected.entries).length = ⌊share * (shots counts.entries).length⌋₊ ∧
      ∀ other : Multiset String, other ≤ shots counts.entries → other.card = (shots selected.entries).length →
        if bestFirst then ((shots selected.entries).map worth).sum ≤ (other.map worth).sum
        else (other.map worth).sum ≤ ((shots selected.entries).map worth).sum := by
  obtain ⟨perm, sorted⟩ := ranked_spec worth bestFirst counts.entries
  obtain ⟨finish, scored⟩ := exists_returns_scored counts.entries start valued judged
  let wanted := Quantity.whole (Quantity.ofInt counts.total * share)
  let order := ranked bestFirst (counts.entries.map fun e => (worth e.1, e))
  have laid : (shots order).Perm (shots counts.entries) := perm.flatMap_right _
  obtain ⟨first, nonneg⟩ := shots_firstShots (fun e member => counted e (perm.mem_iff.mp member)) wanted 0
  obtain ⟨size, enough⟩ := toNat_wanted lower upper counted
  rw [sub_zero, size] at first
  refine ⟨⟨firstShots wanted 0 order⟩, finish, ?_, nonneg, ?_, ?_, ?_⟩
  · have within : (Quantity.below share Quantity.zero || Quantity.below (Quantity.ofInt 1) share) = false := by
      simpa [Quantity.below, Quantity.zero, Quantity.ofInt] using ⟨lower, upper⟩
    rw [percentile, within]
    exact Work.returns_bind_iff.mpr ⟨_, finish, scored, Work.returns_pure_iff.mpr ⟨rfl, rfl⟩⟩
  · rw [first, ← Multiset.coe_eq_coe.mpr laid]
    exact Multiset.coe_le.mpr ((shots order).take_sublist _).subperm
  · rw [first, List.length_take_of_le (laid.length_eq ▸ enough)]
  · intro other among same
    rw [first] at same ⊢
    rw [← Multiset.coe_eq_coe.mpr laid] at among
    cases bestFirst with
    | true => exact sum_take_le sorted among _ same
    | false =>
      have negated := @sum_take_le (-worth ·) _ (sorted.imp fun before => neg_le_neg before) _ among _ same
      rwa [← Multiset.sum_coe, ← Multiset.map_coe, Multiset.sum_map_neg, Multiset.sum_map_neg,
        neg_le_neg_iff] at negated

/-- Of two shots worth one and two worth nothing, the best three quarters split the count of the former. -/
theorem percentile_three_quarters :
    let worth (bits : String) : Rat := if bits = "0" then 0 else 1
    let p : Instance Rat := ⟨1, fun bits => .ok (worth bits), false, fun _ => .ok true, ⟨[]⟩, []⟩
    ∃ selected finish, (p.percentile ⟨[("1", 2), ("0", 2)]⟩ (3 / 4) true).Returns nothingKnown selected finish ∧
      (shots selected.entries).length = 3 ∧ ((shots selected.entries).map worth).sum ≤ 1 := by
  intro worth p
  obtain ⟨selected, finish, returned, -, -, size, least⟩ :=
    @percentile_spec p ⟨[("1", 2), ("0", 2)]⟩ worth (3 / 4) (by norm_num) (by norm_num) (by decide) (fun _ _ => rfl)
      (by simp [p]) true nothingKnown
  have three : (shots selected.entries).length = 3 := by
    rw [size, show (shots [("1", 2), ("0", 2)]).length = 4 by decide]
    norm_num [Nat.floor_eq_iff]
  refine ⟨selected, finish, returned, three, ?_⟩
  simpa [worth] using least ["0", "0", "1"] (by decide) (by simp [three])

end Transmon.Problem.Percentile
