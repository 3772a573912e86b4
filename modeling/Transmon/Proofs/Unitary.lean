import Mathlib.Algebra.BigOperators.Fin
import Mathlib.Data.Int.Star
import Mathlib.Data.Matrix.Mul
import Mathlib.Data.Nat.Bits
import Transmon.Circuit
import Transmon.Proofs.Basic

/-!
The matrices of composed circuits.

The entries of a matrix are numbered by words, with one binary digit for each qubit. A matrix for some of the qubits is
spread over all of them: it acts on their digits, and the other digits have to agree. Spreading respects products, so a
circuit that is put on qubits of another one multiplies its matrix by the spread one.
-/

namespace Transmon.Circuit.Unitary

open Numeric Outcome List Function

variable {R : Type} {l m n : Nat}

/-- Binary digits, the most significant one first. -/
abbrev Word (n : Nat) := Fin n → Bool

/-- The last digits of a number. -/
def word (n i : Nat) : Word n := fun k => i.testBit (n - 1 - k)

theorem word_inj {i j : Nat} (hi : i < 2 ^ n) (hj : j < 2 ^ n) : word n i = word n j ↔ i = j := by
  refine ⟨fun same => Nat.eq_of_testBit_eq fun k => ?_, congrArg _⟩
  by_cases inside : k < n
  · have := congrFun same ⟨n - 1 - k, by omega⟩
    simpa [word, show n - 1 - (n - 1 - k) = k by omega] using this
  · have large : 2 ^ n ≤ 2 ^ k := Nat.pow_le_pow_right (by decide) (not_lt.mp inside)
    rw [Nat.testBit_lt_two_pow (hi.trans_le large), Nat.testBit_lt_two_pow (hj.trans_le large)]

/-- Words are numbered by their values. -/
noncomputable def numbering (n : Nat) : Fin (2 ^ n) ≃ Word n :=
  .ofBijective (word n ·) <| (Fintype.bijective_iff_injective_and_card _).mpr
    ⟨fun i j same => Fin.ext ((word_inj i.isLt j.isLt).mp same), by simp⟩

theorem testBit_ofDigits (bits : List Bool) (k : Nat) : (ofDigits bits).testBit k = bits.reverse.getD k false := by
  induction bits using reverseRecOn generalizing k with
  | nil => simp [ofDigits]
  | append_singleton bits b ih =>
    have : ofDigits (bits ++ [b]) = Nat.bit b (ofDigits bits) := by simp [ofDigits, Nat.bit_val]
    cases k with
    | zero => simp [this]
    | succ k => simpa [this, Nat.testBit_bit_succ] using ih k

theorem picked_lt (order : List Nat) (i : Nat) : picked order i < 2 ^ order.length :=
  Nat.lt_pow_two_of_testBit _ fun k hk => by simp [picked, testBit_ofDigits, hk]

theorem word_picked (σ : Fin n → Fin n) (i : Nat) :
    word n (picked (ofFn fun k => (σ k : Nat)) i) = word n i ∘ σ := by
  funext k
  have inside : n - 1 - k < n := by omega
  simp [word, picked, testBit_ofDigits, inside, Nat.sub_sub_self (Nat.le_sub_one_of_lt k.isLt)]

theorem word_div (i : Nat) : word m (i / 2 ^ n) = word (m + n) i ∘ Fin.castAdd n := by
  funext k
  simp only [word, Nat.testBit_div_two_pow, comp_apply, Fin.val_castAdd]
  congr 1
  omega

theorem word_mod (i : Nat) : word n (i % 2 ^ n) = word (m + n) i ∘ Fin.natAdd m := by
  funext k
  have inside : n - 1 - k < n := by omega
  simp only [word, Nat.testBit_mod_two_pow, inside, decide_true, Bool.true_and, comp_apply, Fin.val_natAdd]
  congr 1
  omega

/-- A step at distinct qubits of a circuit whose operation has a matrix for it, as large as its locus asks for. -/
structure HasMatrix (gates : Gates R) (ops : OperationTable) (qs : Names) (s : Step) : Prop where
  known : ∃ o, ops.get? s.name = some o ∧ (o.arity = 0 ∨ ∃ gate mat, gates o = some gate ∧
    gate s.arguments = .ok mat ∧ Matrix.isSquare (2 ^ s.locus.length) mat.rows = true)
  distinct : s.locus.Nodup
  within : s.locus ⊆ qs

/-- No step waits for the outcome of a measurement. -/
def Unfed (ss : List Step) : Prop := ∀ s ∈ ss, ∀ a ∈ s.arguments, a.1 ≠ "feedback_qubit"

/-- The places of the qubits of one circuit among those of another. -/
structure Placing (qs ts : Names) where
  place : Fin qs.length → Fin ts.length
  injective : place.Injective
  image : String → String
  image_get : ∀ k, image qs[k] = ts[place k]
  distinct : ts.Nodup

def Placing.refl {qs : Names} (distinct : qs.Nodup) : Placing qs qs := ⟨id, fun _ _ h => h, id, fun _ => rfl, distinct⟩

/-- The steps of a circuit on other qubits. -/
def Placing.steps {qs ts : Names} (p : Placing qs ts) (ss : List Step) := ss.map fun s => s.at (s.locus.map p.image)

variable {gates : Gates R} {ops : OperationTable} {qs ts : Names} {a b : Draft}

theorem get?_zip (g : Fin qs.length → String) (distinct : qs.Nodup) (k : Fin qs.length) :
    (Table.ofList (qs.zip (List.ofFn g))).get? qs[k] = some (g k) := by
  have key : qs[k] ∈ (Table.ofList (qs.zip (List.ofFn g))).keys := by simp [List.map_fst_zip]
  obtain ⟨other, found⟩ := Option.isSome_iff_exists.mp (Table.isSome_get?_iff.mpr key)
  obtain ⟨j, hj, e⟩ := List.getElem_of_mem (Table.get?_ofList_mem found)
  simp only [List.getElem_zip, Prod.mk.injEq, List.getElem_ofFn] at e
  obtain rfl : j = k := distinct.getElem_inj_iff.mp e.1
  rw [found, ← e.2]

theorem relabelled_eq {g : Fin b.qubits.length → String} (distinct : b.qubits.Nodup) (injective : g.Injective)
    (unfed : Unfed b.steps) (h : ∀ s ∈ b.steps, HasMatrix gates ops b.qubits s) :
    ∃ image, (∀ k, image b.qubits[k] = g k) ∧
      b.relabelled (ofFn g) = .ok (b.steps.map fun s => s.at (s.locus.map image)) := by
  have found := get?_zip g distinct
  set table := Table.ofList (b.qubits.zip (ofFn g)) with ht
  refine ⟨fun q => (table.get? q).getD "", fun k => congrArg (Option.getD · "") (found k), ?_⟩
  have own : (if (ofFn g).isEmpty then b.qubits else ofFn g) = ofFn g := by
    split <;> simp_all
  have each (s : Step) (member : s ∈ b.steps) : (do
      return { s with arguments := ← s.arguments.mapM (Draft.argument table), locus := ← s.locus.mapM table.need }) =
        Except.ok (ε := Fault) (s.at (s.locus.map fun q => (table.get? q).getD "")) := by
    have arguments : s.arguments.mapM (Draft.argument table) = .ok (s.arguments.map id) := mapM_eq_ok_map fun a ha => by
      have := unfed s member a ha
      unfold Draft.argument
      split <;> simp_all
    have locus : s.locus.mapM table.need = .ok (s.locus.map fun q => (table.get? q).getD "") :=
        mapM_eq_ok_map fun q hq => by
      obtain ⟨k, rfl⟩ := mem_iff_get.mp ((h s member).within hq)
      have := found k
      simp_all
    simp [arguments, locus, Step.at]
  simp only [Draft.relabelled, own, ← ht]
  simpa [nodup_ofFn.mpr injective] using mapM_eq_ok_map each

/-- A composed circuit has the steps of the first one, and then those of the second one at their places. -/
theorem compose_eq (ha : a.qubits.Nodup) (hb : b.qubits.Nodup) (unfed : Unfed b.steps)
    (h : ∀ s ∈ b.steps, HasMatrix gates ops b.qubits s) (idx : Fin b.qubits.length ↪ Fin a.qubits.length) :
    ∃ p : Placing b.qubits a.qubits, p.place = idx ∧
      a.compose b (ofFn fun k => ((idx k : Nat) : Int)) = .ok { a with steps := a.steps ++ p.steps b.steps } := by
  have injective : (fun k => a.qubits[idx k]).Injective := fun j k same =>
    idx.injective (Fin.ext (ha.getElem_inj_iff.mp same))
  obtain ⟨image, image_get, moved⟩ := relabelled_eq hb injective unfed h
  refine ⟨⟨idx, idx.injective, image, image_get, ha⟩, rfl, ?_⟩
  set given := ofFn fun k => ((idx k : Nat) : Int) with hg
  have places : given.mapM (fun k => require .index (Slice.at? a.qubits k)) =
      .ok (ofFn fun k => a.qubits[idx k]) := by
    rw [mapM_eq_ok_iff, forall₂_iff_get]
    refine ⟨by simp [hg], fun k _ _ => ?_⟩
    simp [hg, Slice.at?, Slice.place?, not_lt.mpr (Int.natCast_nonneg _)]
  have enough : b.qubits.length ≤ (if given.isEmpty then (range a.qubits.length).map Int.ofNat else given).length ∧
      (if given.isEmpty then (range a.qubits.length).map Int.ofNat else given).take b.qubits.length = given := by
    split <;> simp_all
  simp only [Draft.compose, enough.2, not_lt.mpr enough.1, places, moved, ok_bind, if_false]
  rfl

/-- A matrix whose rows and columns are numbered by words. -/
abbrev Operator (R : Type) (n : Nat) := Matrix (Word n) (Word n) R

def table (n : Nat) (f : Nat → Nat → R) : List (List R) := (List.range n).map fun i => (List.range n).map (f i)

/-- The rows of an operator. -/
def ofMatrix (f : Operator R n) : List (List R) := table (2 ^ n) fun i j => f (word n i) (word n j)

theorem table_congr {f g : Nat → Nat → R} (h : ∀ i < n, ∀ j < n, f i j = g i j) : table n f = table n g :=
  map_congr_left fun i hi => map_congr_left fun j hj => h i (mem_range.mp hi) j (mem_range.mp hj)

theorem exists_ofMatrix [Zero R] {rows : List (List R)} (h : Matrix.isSquare (2 ^ n) rows = true) :
    ∃ f : Operator R n, rows = ofMatrix f := by
  simp only [Matrix.isSquare, Bool.and_eq_true, beq_iff_eq, all_eq_true] at h
  obtain ⟨size, width⟩ := h
  refine ⟨fun x y => (rows.getD ((numbering n).symm x) []).getD ((numbering n).symm y) 0, ?_⟩
  have back {i : Nat} (hi : i < 2 ^ n) : (numbering n).symm (word n i) = ⟨i, hi⟩ :=
    (numbering n).symm_apply_apply ⟨i, hi⟩
  refine ext_getElem (by simp [ofMatrix, table, size]) fun i hi _ => ?_
  have len := width _ (getElem_mem hi)
  refine ext_getElem (by simp [ofMatrix, table, len]) fun j hj _ => ?_
  simp [ofMatrix, table, back (size ▸ hi), back (len ▸ hj), hi, hj]

theorem dot_range [NonUnitalNonAssocSemiring R] (f g : Nat → R) :
    Matrix.dot ((range n).map f) ((range n).map g) = ∑ k ∈ Finset.range n, f k * g k := by
  rw [Matrix.dot, zip_map']
  induction n with
  | zero => rfl
  | succ n ih => simp [range_succ, Finset.sum_range_succ, ih]

theorem flatMap_range {α : Type} (a b : Nat) (f : Nat → Nat → α) :
    ((range a).flatMap fun i => (range b).map (f i)) = (range (a * b)).map fun k => f (k / b) (k % b) := by
  induction a with
  | zero => simp
  | succ a ih =>
    rw [range_succ, flatMap_append, ih, Nat.succ_mul, range_add]
    simp only [flatMap_singleton, map_append, map_map, append_cancel_left_eq]
    refine map_congr_left fun k hk => ?_
    have hk : k < b := mem_range.mp hk
    simp [Nat.mul_add_div (by omega : 0 < b), Nat.mod_eq_of_lt hk, Nat.div_eq_of_lt hk, mul_comm a]

theorem kronecker_ofMatrix [Mul R] (f : Operator R m) (g : Operator R n) :
    Numeric.Matrix.kronecker (ofMatrix f) (ofMatrix g) = ofMatrix fun x y : Word (m + n) =>
      f (x ∘ Fin.castAdd n) (y ∘ Fin.castAdd n) * g (x ∘ Fin.natAdd m) (y ∘ Fin.natAdd m) := by
  simp only [ofMatrix, ← word_div, ← word_mod]
  simp only [pow_add, Numeric.Matrix.kronecker, table, flatMap_map, map_map, comp_def, flatMap_range]

theorem headD_ofMatrix (f : Operator R n) : ((ofMatrix f).headD []).length = 2 ^ n := by
  simp [ofMatrix, table, headD_eq_head?_getD, head?_range]

theorem all_ofMatrix (f : Operator R n) : ((ofMatrix f).all fun r => r.length == 2 ^ n) = true := by
  simp [ofMatrix, table]

variable [CommRing R]

theorem identity_eq (n : Nat) : Matrix.identity (2 ^ n) = ofMatrix (1 : Operator R n) :=
  table_congr fun i hi j hj => by simp [Matrix.one_apply, word_inj hi hj]

theorem product_ofMatrix (f g : Operator R n) (r s : Bool) :
    product ⟨ofMatrix f, r⟩ ⟨ofMatrix g, s⟩ = ⟨ofMatrix (f * g), r && s⟩ := by
  have len : (ofMatrix g).length = 2 ^ n := by simp [ofMatrix, table]
  have columns : Matrix.columns (2 ^ n) (ofMatrix g) = table (2 ^ n) fun j i => g (word n i) (word n j) := by
    refine map_congr_left fun j hj => ?_
    simp [ofMatrix, table, mem_range.mp hj]
  have sum (h : Word n → R) : ∑ k ∈ Finset.range (2 ^ n), h (word n k) = ∑ z, h z :=
    (Finset.sum_range fun k => h (word n k)).trans ((numbering n).sum_comp h)
  simp only [product, Matrix.product, len, columns]
  simp only [ofMatrix, table, map_map, comp_def, dot_range, Matrix.mul_apply, ← sum]

theorem factors_pow (n : Nat) : factors (2 ^ n) = n := by
  have : ¬2 ^ (2 * n + 1) ≤ 2 ^ n * 2 ^ n := by
    rw [← pow_add, ← two_mul, not_le]
    exact Nat.pow_lt_pow_succ (by decide)
  simpa [factors, Nat.log2_two_pow] using this

theorem reorder_ofMatrix {σ : Fin m → Fin n} (h : σ.Bijective) (f : Operator R m) (r : Bool) :
    reorder ⟨ofMatrix f, r⟩ (ofFn fun k => ((σ k : Nat) : Int)) =
      .ok ⟨ofMatrix fun x y => f (x ∘ σ) (y ∘ σ), r⟩ := by
  obtain rfl : m = n := by simpa using Fintype.card_of_bijective h
  have size : (ofMatrix f).length = 2 ^ m := by simp [ofMatrix, table]
  have all (k : Nat) (hk : k < m) : ∃ j, ((σ j : Nat) : Int) = k :=
    (h.2 ⟨k, hk⟩).imp fun j hj => by simp [hj]
  have order : (ofFn fun k => ((σ k : Nat) : Int)).map Int.toNat = ofFn fun k => (σ k : Nat) := by
    simp [comp_def]
  have full : ((range m).all fun k : Nat => (ofFn fun k => ((σ k : Nat) : Int)).contains (k : Int)) = true := by
    simpa using all
  simp only [reorder, size, headD_ofMatrix, all_ofMatrix, factors_pow, order, full]
  have inside : ¬∃ k, m ≤ (σ k : Nat) := fun ⟨k, hk⟩ => (σ k).isLt.not_ge hk
  have entries : (table (2 ^ m) fun i j => ((ofMatrix f).getD (picked (ofFn fun k => (σ k : Nat)) i) []).getD
      (picked (ofFn fun k => (σ k : Nat)) j) 0) = ofMatrix fun x y => f (x ∘ σ) (y ∘ σ) := by
    have small := picked_lt (ofFn fun k => (σ k : Nat))
    rw [length_ofFn] at small
    refine table_congr fun i _ j _ => ?_
    simp [ofMatrix, table, small, word_picked]
  simpa [inside, table] using entries

/-- The operator that acts on chosen digits and leaves the others alone. -/
def spread (e : Fin m → Fin n) (f : Operator R m) : Operator R n :=
  fun x y => if ∀ k, (∀ j, e j ≠ k) → x k = y k then f (x ∘ e) (y ∘ e) else 0

theorem comp_rest_eq_iff {e : Fin m → Fin n} {rest : Fin l → Fin n} (all : (Fin.append e rest).Bijective)
    {x y : Word n} :
    x ∘ rest = y ∘ rest ↔ ∀ k, (∀ j, e j ≠ k) → x k = y k := by
  constructor
  · intro same k outside
    obtain ⟨i, rfl⟩ := all.2 k
    induction i using Fin.addCases with
    | left j => exact absurd (Fin.append_left e rest j).symm (outside j)
    | right j => simpa using congrFun same j
  · intro same
    funext k
    exact same (rest k) fun j => (Fin.append_injective_iff.mp all.1).2.2 j k

theorem extend_ofMatrix {e : Fin m → Fin n} (h : e.Injective) (f : Operator R m) (r : Bool) :
    extend ⟨ofMatrix f, r⟩ (ofFn fun k => ((e k : Nat) : Int)) n = .ok ⟨ofMatrix (spread e f), r⟩ := by
  set given := ofFn fun k => ((e k : Nat) : Int) with hg
  set others := (range n).filter fun k : Nat => !given.contains (k : Int) with ho
  have mem (k : Nat) : k ∈ others ↔ k < n ∧ ∀ j, (e j : Nat) ≠ k := by
    simp [others, hg, mem_ofFn]
  have member (k : Fin others.length) := (mem _).mp (getElem_mem k.isLt)
  -- the chosen digits are followed by the others
  let rest (k : Fin others.length) : Fin n := ⟨others[k], (member k).1⟩
  have apart (i : Fin m) (k : Fin others.length) : e i ≠ rest k := fun same => (member k).2 i (congrArg Fin.val same)
  have all : (Fin.append e rest).Bijective := by
    refine ⟨Fin.append_injective_iff.mpr ⟨h, fun i j same => ?_, apart⟩, fun k => ?_⟩
    · exact Fin.ext ((nodup_range.filter _).getElem_inj_iff.mp (congrArg Fin.val same))
    · by_cases chosen : ∃ j, e j = k
      · exact ⟨_, (Fin.append_left _ _ _).trans chosen.choose_spec⟩
      · obtain ⟨j, hj, eq⟩ := getElem_of_mem ((mem k).mpr ⟨k.isLt, fun j ej => chosen ⟨j, Fin.ext ej⟩⟩)
        exact ⟨_, (Fin.append_right _ _ ⟨j, hj⟩).trans (Fin.ext eq)⟩
  have count : m + others.length = n := by simpa using Fintype.card_of_bijective all
  have order : given ++ others.map Int.ofNat = ofFn fun k => (((Fin.append e rest k : Fin n) : Nat) : Int) := by
    rw [ofFn_comp' (Fin.append e rest) fun k => ((k : Nat) : Int), ofFn_fin_append, map_append, map_ofFn,
      map_ofFn, ← ofFn_getElem_eq_map]
    rfl
  have square : Matrix.isSquare (2 ^ m) (ofMatrix f) = true := by
    simp [Matrix.isSquare, ofMatrix, table]
  have fits : ¬(n : Int) < m := by omega
  have len : given.length = m := by simp [hg]
  have left : n - m = others.length := by omega
  simp only [extend, headD_ofMatrix, all_ofMatrix, len, Int.toNat_natCast, Nat.pow_eq, square, fits, ← ho, order,
    left, identity_eq, kronecker_ofMatrix, Bool.not_true, Bool.false_eq_true, if_false]
  refine (reorder_ofMatrix all _ r).trans ?_
  congr 3
  funext x y
  have first (x : Word n) : (x ∘ Fin.append e rest) ∘ Fin.castAdd others.length = x ∘ e := by
    funext k
    simp
  have second (x : Word n) : (x ∘ Fin.append e rest) ∘ Fin.natAdd m = x ∘ rest := by
    funext k
    simp
  simp only [first, second, Matrix.one_apply, comp_rest_eq_iff all, mul_ite, mul_one, mul_zero, spread]

theorem spread_one (e : Fin m → Fin n) : spread e (1 : Operator R m) = 1 := by
  funext x y
  have : (∀ k, (∀ j, e j ≠ k) → x k = y k) ∧ x ∘ e = y ∘ e ↔ x = y := by
    simp only [funext_iff, comp_apply]
    grind
  simp only [spread, Matrix.one_apply, ← ite_and, this]

theorem spread_mul {e : Fin m → Fin n} (h : e.Injective) (f g : Operator R m) :
    spread e (f * g) = spread e f * spread e g := by
  funext x y
  -- the words that differ from `x` at the chosen digits only
  have comp (w : Word m) : Function.extend e w x ∘ e = w := Function.extend_comp h w x
  calc spread e (f * g) x y
    _ = ∑ w, spread e f x (Function.extend e w x) * spread e g (Function.extend e w x) y := by
      simp only [spread, comp, Matrix.mul_apply]
      simp +contextual
    _ = (spread e f * spread e g) x y := by
      refine Fintype.sum_of_injective _ (Function.extend_injective h x) _ _ (fun z hz => ?_) fun w => rfl
      have : ¬∀ k, (∀ j, e j ≠ k) → x k = z k := fun same => hz ⟨z ∘ e, funext fun k => ?_⟩
      · simp [spread, this]
      · by_cases hk : ∃ j, e j = k
        · obtain ⟨j, rfl⟩ := hk
          exact h.extend_apply _ _ j
        · exact (Function.extend_apply' _ _ _ hk).trans (same k fun j ej => hk ⟨j, ej⟩)

theorem spread_spread {e : Fin m → Fin n} {d : Fin l → Fin m} (h : e.Injective)
    (f : Operator R l) : spread e (spread d f) = spread (e ∘ d) f := by
  funext x y
  have : (∀ k, (∀ j, e j ≠ k) → x k = y k) ∧ (∀ k, (∀ j, d j ≠ k) → x (e k) = y (e k)) ↔
      ∀ k, (∀ j, e (d j) ≠ k) → x k = y k := by
    constructor
    · rintro ⟨out, inn⟩ k hk
      by_cases hj : ∃ j, e j = k
      · obtain ⟨j, rfl⟩ := hj
        exact inn j fun t ht => hk t (congrArg e ht)
      · exact out k fun j ej => hj ⟨j, ej⟩
    · intro all
      exact ⟨fun k hk => all k fun j => hk (d j), fun k hk => all (e k) fun j ej => hk j (h ej)⟩
  simp only [spread, ← ite_and, comp_apply, comp_assoc]
  exact if_congr this rfl rfl

theorem spread_id (f : Operator R n) : spread id f = f := by
  funext x y
  simp [spread]

/-- One matrix stands for a step wherever its qubits are put. -/
theorem ofStep_spread {s : Step} (h : HasMatrix gates ops qs s) : ∃ f, ∀ {ts} (p : Placing qs ts), ∃ r,
    ofStep gates ops ts (s.at (s.locus.map p.image)) = .ok ⟨ofMatrix (spread p.place f), r⟩ := by
  obtain ⟨o, found, known⟩ := h.known
  by_cases arity : o.arity = 0
  · refine ⟨1, fun p => ⟨true, ?_⟩⟩
    simp [ofStep, Step.at, found, arity, spread_one, identity, identity_eq]
  obtain ⟨gate, ⟨rows, r⟩, hg, hm, square⟩ := known.resolve_left arity
  choose d hd using fun k : Fin s.locus.length => mem_iff_get.mp (h.within (getElem_mem k.isLt))
  have injective : d.Injective := fun j k same =>
    Fin.ext (h.distinct.getElem_inj_iff.mp ((hd j).symm.trans ((congrArg qs.get same).trans (hd k))))
  obtain ⟨f, rfl⟩ := exists_ofMatrix square
  refine ⟨spread d f, fun {ts} p => ⟨r, ?_⟩⟩
  have index (k : Fin s.locus.length) : ts.idxOf? (p.image s.locus[k]) = some (p.place (d k) : Nat) := by
    have : p.image s.locus[k] = ts[p.place (d k)] := (congrArg p.image (hd k).symm).trans (p.image_get (d k))
    rw [this, idxOf?_eq_some_iff]
    exact ⟨Fin.isLt _, rfl, fun _ before same => before.ne (p.distinct.getElem_inj_iff.mp same)⟩
  have places : (s.locus.map p.image).mapM (fun q => require .invalid (ts.idxOf? q)) =
      .ok (ofFn fun k => (p.place (d k) : Nat)) := by
    rw [mapM_eq_ok_iff, forall₂_iff_get]
    refine ⟨by simp, fun k hk _ => ?_⟩
    simpa using index ⟨k, by simpa using hk⟩
  simp only [spread_spread p.injective]
  simpa [ofStep, Step.at, found, arity, hg, hm, places, comp_def] using
    extend_ofMatrix (p.injective.comp injective) f r

/-- One matrix stands for all steps of a circuit wherever its qubits are put. -/
theorem foldlM_spread {ss : List Step} (h : ∀ s ∈ ss, HasMatrix gates ops qs s) :
    ∃ f, ∀ {ts} (p : Placing qs ts) (t : Operator R ts.length) (r : Bool), ∃ r',
      (p.steps ss).foldlM (followed gates ops ts) ⟨ofMatrix t, r⟩ = .ok ⟨ofMatrix (spread p.place f * t), r'⟩ := by
  induction ss with
  | nil => exact ⟨1, fun p t r => ⟨r, by simp [Placing.steps, spread_one]⟩⟩
  | cons s rest ih =>
    obtain ⟨first, others⟩ := forall_mem_cons.mp h
    obtain ⟨f, one⟩ := ofStep_spread first
    obtain ⟨g, more⟩ := ih others
    refine ⟨g * f, fun p t r => ?_⟩
    obtain ⟨u, one⟩ := one p
    obtain ⟨r', more⟩ := more p (spread p.place f * t) (u && r)
    refine ⟨r', ?_⟩
    rw [spread_mul p.injective, mul_assoc, ← more]
    simp [Placing.steps, followed, one, product_ofMatrix]

theorem ofSteps_eq {ss : List Step} (h : ∀ s ∈ ss, s.locus ⊆ qs) :
    ofSteps gates ops qs ss = ss.foldlM (followed gates ops qs) ⟨ofMatrix (1 : Operator R qs.length), true⟩ := by
  have own : (if qs.isEmpty then Names.ofList (ss.flatMap Step.locus) else qs) = qs := by
    split
    · next none =>
      obtain rfl := isEmpty_iff.mp none
      rw [flatMap_eq_nil_iff.mpr fun s member => subset_nil.mp (h s member)]
      rfl
    · rfl
  simp only [ofSteps, own, identity, Nat.pow_eq, identity_eq]

/-- The draft's matrix. -/
def Means (gates : Gates R) (d : Draft) (f : Operator R n) : Prop :=
  rows <$> ofSteps gates d.operations d.qubits d.steps = .ok (ofMatrix f)

/-- The matrix of composed circuits: the first one's, and then the second one's on the digits of the qubits that it is
put on. -/
theorem means_compose (gates : Gates R) (a b : Draft) (idx : Fin b.qubits.length ↪ Fin a.qubits.length)
    (ha : a.qubits.Nodup) (hb : b.qubits.Nodup) (same : b.operations = a.operations) (unfed : Unfed b.steps)
    (sa : ∀ s ∈ a.steps, HasMatrix gates a.operations a.qubits s)
    (sb : ∀ s ∈ b.steps, HasMatrix gates b.operations b.qubits s) :
    ∃ c f g, a.compose b (List.ofFn fun k => ((idx k : Nat) : Int)) = .ok c ∧
      Means gates a f ∧ Means gates b g ∧ Means gates c (spread idx g * f) := by
  obtain ⟨p, hp, composed⟩ := compose_eq ha hb unfed sb idx
  obtain ⟨f, first⟩ := foldlM_spread sa
  obtain ⟨g, second⟩ := foldlM_spread sb
  obtain ⟨r, own⟩ := first (.refl ha) 1 true
  obtain ⟨_, other⟩ := second (.refl hb) 1 true
  obtain ⟨_, both⟩ := second p f r
  simp only [Placing.refl, Placing.steps, List.map_id, Step.at, spread_id, mul_one, List.map_id'] at own other
  have inside : ∀ s ∈ a.steps ++ p.steps b.steps, s.locus ⊆ a.qubits := by
    intro s member
    rcases List.mem_append.mp member with old | new
    · exact (sa s old).within
    · obtain ⟨s, old, rfl⟩ := List.mem_map.mp new
      intro q hq
      obtain ⟨o, ho, rfl⟩ := List.mem_map.mp hq
      obtain ⟨k, rfl⟩ := List.mem_iff_get.mp ((sb s old).within ho)
      exact p.image_get k ▸ List.getElem_mem _
  refine ⟨_, f, g, composed, ?_, ?_, ?_⟩
  · rw [Means, ofSteps_eq fun s hs => (sa s hs).within, own]
    rfl
  · rw [Means, ofSteps_eq fun s hs => (sb s hs).within, other]
    rfl
  · rw [Means, ofSteps_eq inside, List.foldlM_append, own, ok_bind, ← same, both, hp]
    rfl

/-- Both circuits are a controlled flip, and the second one is put on the last and the first qubit of the other. -/
theorem means_compose_flips :
    let ops : OperationTable := ⟨[("cx", { name := "cx", arity := 2 })]⟩
    let flip : Gates ℤ := fun _ => some fun _ => .ok ⟨[[1, 0, 0, 0], [0, 1, 0, 0], [0, 0, 0, 1], [0, 0, 1, 0]], true⟩
    let a : Draft := ⟨[⟨"cx", ["QB1", "QB2"], [], none⟩], ["QB1", "QB2", "QB3"], ops⟩
    let b : Draft := ⟨[⟨"cx", ["QB4", "QB5"], [], none⟩], ["QB4", "QB5"], ops⟩
    ∃ c f g, a.compose b [2, 0] = .ok c ∧ Means flip a f ∧ Means flip b g ∧
      Means flip c (spread (![2, 0] : Fin 2 → Fin 3) g * f) := by
  intro ops flip a b
  exact means_compose flip a b ⟨![2, 0], by decide⟩ (by decide) (by decide) rfl (by simp [Unfed, b])
    (by simpa [a] using ⟨⟨_, rfl, .inr ⟨_, _, rfl, rfl, rfl⟩⟩, by decide, by decide⟩)
    (by simpa [b] using ⟨⟨_, rfl, .inr ⟨_, _, rfl, rfl, rfl⟩⟩, by decide, by decide⟩)

end Transmon.Circuit.Unitary
