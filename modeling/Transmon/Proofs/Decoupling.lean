import Mathlib.Algebra.Order.Ring.Star
import Mathlib.Data.Int.Star
import Mathlib.Tactic.LinearCombination
import Mathlib.Tactic.Positivity
import Mathlib.Tactic.Ring.RingNF
import Transmon.Proofs.Basic
import Transmon.Schedule.Location

/-!
# Waits of decoupling sequences

The time between rotations is split into parts that are zero or reach a step. Hence the waits of a sequence are zero or
reach the minimum, except that the first and the last have such a part together. The time is halved before it is split,
so a sequence is refused if a half does not reach the minimum.
-/

namespace Transmon.Schedule.Decoupling

open Decimal Numeric List
open List (replicate)

/-- A number in parts that differ by at most one, the greater ones first. -/
def spread (number parts : Nat) : List Int :=
  let least : Nat := number / parts
  replicate (number % parts) (least + 1 : Int) ++ replicate (parts - number % parts) (least : Int)

/-- The parts of a number that must reach a step: as many as can, then zeros. -/
def portions (number parts step : Nat) : List Int :=
  let filled := if step ≤ number / parts then parts else number / step
  spread number filled ++ replicate (parts - filled) 0

section Split

variable {number parts step : Nat}

theorem length_spread (positive : 0 < parts) : (spread number parts).length = parts := by
  have := Nat.mod_lt number positive
  simp [spread]
  omega

theorem sum_spread (positive : 0 < parts) : (spread number parts).sum = number := by
  have below := Nat.mod_lt number positive
  have whole := congrArg (Nat.cast (R := Int)) (Nat.div_add_mod number parts)
  rw [Nat.cast_add, Nat.cast_mul] at whole
  simp only [spread, sum_append, sum_replicate, nsmul_eq_mul, Nat.cast_sub below.le]
  linear_combination whole

theorem spread_mul_add (step number : Nat) (positive : 0 < parts) :
    spread (parts * step + number) parts =
      zipWith (· + ·) (spread number parts) (replicate parts (step : Int)) := by
  have shifted : zipWith (· + ·) (spread number parts) (replicate parts (step : Int)) =
      (spread number parts).map (· + (step : Int)) := ext_getElem (by simp [length_spread positive]) (by simp)
  rw [shifted]
  simp only [spread, Nat.mul_add_div positive, Nat.mul_add_mod, map_append, map_replicate, Nat.cast_add]
  ring_nf

theorem portions_one (positive : 0 < parts) : portions number parts 1 = spread number parts := by
  unfold portions
  split
  case isTrue => simp
  case isFalse few =>
    rw [Nat.not_le, Nat.div_lt_iff_lt_mul positive, one_mul] at few
    rcases number.eq_zero_or_pos with rfl | some
    · simp [spread]
    · simp [spread, Nat.mod_eq_of_lt few, Nat.div_eq_of_lt few, Nat.div_self some]

theorem portions_zero : portions 0 parts step = replicate parts 0 := by
  by_cases none : step = 0 <;> simp [none, portions, spread]

/-- A remainder is split again at most once, with the step one. -/
theorem splitWithin_eq {fuel number parts step : Nat} (positive : 0 < parts) (fits : number = 0 ∨ step ≤ number)
    (deep : number = 0 ∨ min step 2 ≤ fuel) :
    splitWithin (fuel + 1) number parts step = .ok (portions number parts step) := by
  simp only [splitWithin, ← Int.ofNat_fdiv, ← Int.ofNat_fmod, Nat.cast_eq_zero, Nat.cast_lt, Nat.cast_le, positive.ne',
    if_false, Int.toNat_sub, Int.toNat_natCast]
  rcases number.eq_zero_or_pos with rfl | some
  · simp [portions_zero, pure, Except.pure]
  rw [if_neg some.ne', if_neg (by omega)]
  by_cases enough : step ≤ number / parts
  · simp only [enough, portions, if_true, Nat.sub_self, replicate_zero, append_nil]
    rfl
  · have reaching : 0 < step := Nat.pos_of_ne_zero fun none => enough (none ▸ Nat.zero_le _)
    have several : 0 < number / step := Nat.div_pos (by omega) reaching
    obtain ⟨less, rfl⟩ : ∃ less, fuel = less + 1 := ⟨fuel - 1, by omega⟩
    have again := @splitWithin_eq less (number % step) (number / step) 1 several (by omega) (by
      rcases Nat.lt_or_ge step 2 with one | _
      · exact .inl (by rw [show step = 1 by omega, Nat.mod_one])
      · exact .inr (by omega))
    have whole := spread_mul_add step (number % step) several
    rw [Nat.div_add_mod'] at whole
    rw [Nat.cast_one, portions_one several] at again
    rw [if_neg enough, if_neg reaching.ne', again, Outcome.ok_bind,
      zipWith_append (by simp [length_spread several]), ← whole]
    simp [portions, enough, pure, Except.pure]

theorem split_eq (positive : 0 < parts) (fits : number = 0 ∨ step ≤ number) :
    split number parts step = .ok (portions number parts step) :=
  splitWithin_eq positive fits (.inr (by omega))

theorem split_eq_reject {number : Int} (positive : 0 < parts) (some : number ≠ 0) (short : number < step) :
    split number parts step = reject
      s!"It is not possible to split {number}, because it is smaller than the split step {(step : Int)}." := by
  simp only [split, splitWithin, Nat.cast_eq_zero, positive.ne', some, short, if_true, if_false]
  rfl

theorem exists_portions {number : Int} {found : List Int} (positive : 0 < parts)
    (made : split number parts step = .ok found) :
    ∃ n : Nat, (n = 0 ∨ step ≤ n) ∧ found = portions n parts step := by
  by_cases short : number ≠ 0 ∧ number < step
  · rw [split_eq_reject positive short.1 short.2] at made
    cases made
  · obtain ⟨n, rfl⟩ := Int.eq_ofNat_of_zero_le (a := number) (by omega)
    have fits : n = 0 ∨ step ≤ n := by omega
    rw [split_eq positive fits] at made
    exact ⟨n, fits, (Except.ok.inj made).symm⟩

theorem split_ok_iff {number : Int} (positive : 0 < parts) :
    (∃ found, split number parts step = .ok found) ↔ number = 0 ∨ step ≤ number := by
  by_cases short : number ≠ 0 ∧ number < step
  · rw [split_eq_reject positive short.1 short.2]
    exact iff_of_false (by simp [reject]) (by omega)
  · obtain ⟨n, rfl⟩ := Int.eq_ofNat_of_zero_le (a := number) (by omega)
    exact iff_of_true ⟨_, split_eq positive (by omega)⟩ (by omega)

/-- As many parts are filled as can be, and what these have left over goes to the first of them. -/
theorem exists_filled (positive : 0 < parts) (fits : step ≤ number) :
    ∃ filled, 0 < filled ∧ filled ≤ parts ∧ step ≤ number / filled ∧
      portions number parts step = spread number filled ++ replicate (parts - filled) 0 := by
  by_cases enough : step ≤ number / parts
  · exact ⟨parts, positive, le_rfl, enough, by simp [portions, enough]⟩
  · have reaching : 0 < step := Nat.pos_of_ne_zero fun none => enough (none ▸ Nat.zero_le _)
    have several : 0 < number / step := Nat.div_pos fits reaching
    have few : number < step * parts := (Nat.div_lt_iff_lt_mul positive).mp (Nat.not_le.mp enough)
    exact ⟨number / step, several, (Nat.div_lt_of_lt_mul few).le,
      (Nat.le_div_iff_mul_le several).mpr (Nat.mul_div_le number step), by simp [portions, enough]⟩

theorem length_portions (positive : 0 < parts) (fits : number = 0 ∨ step ≤ number) :
    (portions number parts step).length = parts := by
  rcases fits with rfl | fits
  · simp [portions_zero]
  · obtain ⟨filled, several, within, -, same⟩ := exists_filled positive fits
    simp [same, length_spread several, within]

theorem mem_portions {part : Int} (positive : 0 < parts) (fits : number = 0 ∨ step ≤ number)
    (mem : part ∈ portions number parts step) : part = 0 ∨ step ≤ part := by
  rcases fits with rfl | fits
  · simp_all [portions_zero]
  · obtain ⟨filled, -, -, reached, same⟩ := exists_filled positive fits
    simp only [same, spread, mem_append, mem_replicate] at mem
    omega

/-- A positive number of parts is refused exactly if the number is below the step and not zero. Otherwise there are as
many parts as asked for, in falling order, with the number as their sum. Those that are not zero reach the step and
differ by at most one. -/
theorem split_spec (number parts step : Nat) :
    if 0 < parts ∧ 0 < number ∧ number < step then ∃ reason, split number parts step = reject reason
    else ∃ found, split number parts step = .ok found ∧ found.length = parts ∧ (parts = 0 ∨ found.sum = number) ∧
      found.Pairwise (· ≥ ·) ∧ ∀ part ∈ found, part = 0 ∨ step ≤ part ∧ ∀ other ∈ found, other = 0 ∨ part ≤ other + 1 := by
  split
  case isTrue short => exact ⟨_, split_eq_reject short.1 (by omega) (by omega)⟩
  case isFalse fits =>
    rcases parts.eq_zero_or_pos with rfl | positive
    · exact ⟨[], rfl, by simp⟩
    have fits : number = 0 ∨ step ≤ number := by omega
    refine ⟨_, split_eq positive fits, length_portions positive fits, ?_⟩
    rcases fits with rfl | fits
    · simp [portions_zero, List.pairwise_replicate]
    · obtain ⟨filled, several, -, reached, same⟩ := exists_filled positive fits
      rw [same]
      refine ⟨by simp [sum_spread several], ?_, ?_⟩
      · simp only [spread, List.pairwise_append, List.pairwise_replicate, List.mem_append, List.mem_replicate]
        grind
      · simp only [spread, List.mem_append, List.mem_replicate]
        grind

end Split

variable {rotations : List Segment} {wait : Number} {alignment : String}

theorem even_of_slotsLeft {granularity slots : Int} (left : slotsLeft rotations wait granularity = .ok slots) :
    rotations.length % 2 = 0 := by
  rw [slotsLeft, Outcome.unless_eq_ok_iff (by simp [reject])] at left
  simpa using left.1

/-- The outer intervals are the parts of one split, of which the first is shared by the ends. -/
theorem intervals_eq_ok {slots : Int} {count least : Nat} {even odd : List Int}
    (divided : intervals slots count least alignment = .ok (even, odd)) :
    ∃ outer offset shared rest, even = offset :: rest ++ [shared - offset] ∧
      split outer ↑(count / 2) least = .ok (shared :: rest) ∧ split (slots - outer) ↑(count / 2) least = .ok odd := by
  have pairs : (count : Int).fdiv 2 = ↑(count / 2) := (Int.ofNat_fdiv count 2).symm
  unfold intervals at divided
  split at divided
  · simp [reject] at divided
  · simp only [Outcome.bind_eq_ok_iff, pairs] at divided
    obtain ⟨inner, oddly, parts, evenly, shared⟩ := divided
    split at shared
    · simp at shared
    · cases shared
      exact ⟨_, _, _, _, rfl, evenly, oddly⟩

/-- The waits of a sequence are zero or reach the minimum, except that the first and the last have such a part
together. -/
theorem sequence_waits {granularity minimum : Nat} {played : List Instruction} (positive : 0 < granularity)
    (whole : granularity ∣ minimum) (made : sequence rotations wait granularity minimum alignment = .ok played) :
    ∃ first shared rest odd, played = woven rotations granularity (first :: rest ++ [shared - first]) odd ∧
      2 * odd.length = rotations.length ∧ rest.length + 1 = odd.length ∧
      ∀ part ∈ shared :: rest ++ odd, part = 0 ∨ (minimum : Int) ≤ granularity * part := by
  obtain ⟨least, rfl⟩ := whole
  simp only [sequence, Outcome.bind_eq_ok_iff, Prod.exists, Outcome.pure_eq_ok_iff, ← Int.ofNat_fdiv,
    Nat.mul_div_cancel_left least positive] at made
  obtain ⟨slots, left, even, odd, divided, rfl⟩ := made
  have paired := even_of_slotsLeft left
  obtain ⟨outer, first, shared, rest, rfl, evenly, oddly⟩ := intervals_eq_ok divided
  have some : 0 < rotations.length / 2 := Nat.pos_of_ne_zero fun none => by
    rw [none] at evenly
    cases evenly
  obtain ⟨outer, outerFits, evenly⟩ := exists_portions some evenly
  obtain ⟨inner, innerFits, rfl⟩ := exists_portions some oddly
  have outerLength := length_portions some outerFits
  have innerLength := length_portions some innerFits
  rw [← evenly, List.length_cons] at outerLength
  refine ⟨first, shared, rest, _, rfl, by omega, by omega, fun part member => ?_⟩
  have reached : part = 0 ∨ (least : Int) ≤ part := by
    rw [evenly, List.mem_append] at member
    exact member.elim (mem_portions some outerFits) (mem_portions some innerFits)
  refine reached.imp_right fun least => ?_
  rw [Nat.cast_mul]
  gcongr

/-- Two rotations of sixteen samples each. -/
def pulses : List Segment := replicate 2 ⟨[.plain 16], 16⟩

/-- Half of the shared part may be below the minimum: here it has eight samples. -/
theorem sequence_waits_center : sequence pulses 64 8 16 "center" = .ok (woven pulses 8 [1, 1] [2]) ∧
    ∃ first shared rest odd, woven pulses 8 [1, 1] [2] = woven pulses 8 (first :: rest ++ [shared - first]) odd ∧
      2 * odd.length = 2 ∧ rest.length + 1 = odd.length ∧ ∀ part ∈ shared :: rest ++ odd, part = 0 ∨ 16 ≤ 8 * part := by
  have divided : intervals 4 2 2 "center" = .ok ([1, 1], [2]) := by decide +kernel
  have made : sequence pulses 64 8 16 "center" = .ok (woven pulses 8 [1, 1] [2]) := by
    change (intervals 4 2 2 "center" >>= _) = _
    rw [divided]
    rfl
  exact ⟨made, sequence_waits (by decide) (by decide) made⟩

/-- The slots between the two rotations of each pair, and those around the pairs. -/
def halves (slots : Int) : List Int :=
  let outer := nearest (ofInt slots / 2.0)
  [slots - outer, outer]

theorem intervals_ok_iff {slots : Int} {count least : Nat} (some : 0 < count / 2) :
    (∃ found, intervals slots count least alignment = .ok found) ↔
      (offset? alignment).isSome ∧ ∀ half ∈ halves slots, half = 0 ∨ least ≤ half := by
  have pairs : (count : Int).fdiv 2 = ↑(count / 2) := (Int.ofNat_fdiv count 2).symm
  simp only [halves, forall_mem_cons, ← split_ok_iff some]
  unfold intervals
  cases offset? alignment with
  | none => simp [reject]
  | some offset =>
    simp only [Outcome.bind_eq_ok_iff, pairs]
    constructor
    · rintro ⟨_, odd, oddly, even, evenly, -⟩
      exact ⟨rfl, ⟨odd, oddly⟩, ⟨even, evenly⟩, by simp⟩
    · rintro ⟨-, ⟨odd, oddly⟩, ⟨even, evenly⟩, -⟩
      cases even with
      | nil =>
        obtain ⟨outer, fits, none⟩ := exists_portions some evenly
        have filled := length_portions some fits
        rw [← none] at filled
        exact absurd filled some.ne
      | cons shared rest => exact ⟨_, odd, oddly, _, evenly, rfl⟩

/-- A sequence is made exactly if the rotations leave whole slots, the alignment is known, and each half of the slots is
zero or reaches the minimum. -/
theorem sequence_ok_iff (granularity least : Nat) :
    (∃ played, sequence rotations wait ↑(granularity + 1) ↑((granularity + 1) * least) alignment = .ok played) ↔
      ∃ slots, slotsLeft rotations wait ↑(granularity + 1) = .ok slots ∧
        (offset? alignment).isSome ∧ ∀ half ∈ halves slots, half = 0 ∨ least ≤ half := by
  simp only [sequence, Outcome.bind_eq_ok_iff, ← Int.ofNat_fdiv, Nat.mul_div_cancel_left least granularity.succ_pos]
  rw [exists_comm]
  refine exists_congr fun slots => ?_
  rw [exists_and_left]
  refine and_congr_right fun left => ?_
  have paired := even_of_slotsLeft left
  have some : rotations ≠ [] := by
    rintro rfl
    cases left
  have some := List.length_pos_iff.mpr some
  rw [← intervals_ok_iff (by omega : 0 < rotations.length / 2)]
  simp

/-- The two rotations leave exactly the minimum, which its halves do not reach. -/
theorem sequence_refused_center : ¬∃ played, sequence pulses 48 8 16 "center" = .ok played := by
  refine (sequence_ok_iff 7 2).not.mpr ?_
  rintro ⟨slots, left, -, reached⟩
  have known : slotsLeft pulses 48 8 = .ok 2 := rfl
  cases known.symm.trans left
  exact absurd reached (by decide +kernel)

end Transmon.Schedule.Decoupling
