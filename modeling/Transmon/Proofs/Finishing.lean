import Mathlib.Data.Option.Basic
import Transmon.Builder.Play
import Transmon.Proofs.Basic

/-!
# What finishing does to boxes

A box hands out the very schedule it keeps. When that is finished, the box loses the channels that idle throughout, and
what it is put into later resolves without them.
-/

namespace Transmon

theorem Schedule.cleanup_eq_self_iff {schedule : Schedule} :
    schedule.cleanup = schedule ↔ ∀ e ∈ schedule.channels.entries, e.2.isIdle = false := by
  have kept : (schedule.channels.filter fun _ segment => !segment.isIdle).size = schedule.channels.size ↔
      ∀ e ∈ schedule.channels.entries, e.2.isIdle = false := by
    simp [Table.filter, Table.size]
  rw [← kept, cleanup]
  split
  case isTrue all => simp [all]
  case isFalse fewer => exact iff_of_false (fun same => fewer (congrArg (·.channels.size) same)) fewer

namespace Build

open Work

variable {builder b : Builder} {number : Nat} {box : Timebox} {schedule : Schedule}

/-- A box whose schedule is finished is left with what is played of it, unless a copy is finished. -/
theorem shelf_of_finish (held : b.shelf[number]? = some box) (timed : box.timeline = some schedule) :
    (runFrom (finish (.ofBox number)) b).2.shelf = if schedule.hasOuterFrames then b.shelf
      else b.shelf.modify number fun box => { box with timeline := some schedule.cleanup } := by
  have read : runFrom (contents (.ofBox number)) b = (.ok schedule, b) :=
    returns_bind_iff.mpr ⟨b, b, rfl, by simp [held, timed, require]⟩
  rw [finish, runFrom_bind, read]
  by_cases outer : schedule.hasOuterFrames
  · rcases taken : schedule.finish with fault | finished <;> simp only [outer, taken] <;> rfl
  · have cleaned : schedule.finish = .ok schedule.cleanup := by simp [Schedule.finish, outer, pure, Except.pure]
    simp only [outer, cleaned]
    rfl

/-- Finishing the schedule of a box leaves all boxes as they are exactly if drive channels take over frame changes,
since then a copy is finished, or no channel idles throughout. -/
theorem shelf_of_finish_eq_iff (held : builder.shelf[number]? = some box) (timed : box.timeline = some schedule) :
    (runFrom (finish (.ofBox number)) builder).2.shelf = builder.shelf ↔
      schedule.hasOuterFrames ∨ ∀ entry ∈ schedule.channels.entries, entry.2.isIdle = false := by
  rw [shelf_of_finish held timed, ← Schedule.cleanup_eq_self_iff]
  split
  case isTrue outer => simp [outer]
  case isFalse inner =>
    rw [or_iff_right inner]
    constructor
    · intro same
      have changed := congrArg (·[number]?.bind Timebox.timeline) same
      simpa [Array.getElem?_modify, held, timed] using changed
    · intro clean
      refine Array.ext_getElem? fun other => ?_
      rw [Array.getElem?_modify, clean, ← timed]
      split
      case isTrue same =>
        rw [← same, held]
        cases box
        rfl
      case isFalse => rfl

/-- A builder with one box, in which a channel plays one instruction. -/
def withOneBox (instr : Instruction) : Builder where
  station := { chip := ⟨[], [], [], [], ∅, ∅, ∅, ∅, ∅⟩, channels := ∅, lines := ∅ }
  operations := ∅
  calibration := ∅
  shelf := #[{ label := "", locus := [], timeline := some (.ofChannels [("QB1", [instr])] none) }]

/-- A box that blocks a channel is changed, one that turns its frame is not. -/
theorem withOneBox_changed :
    (runFrom (finish (.ofBox 0)) (withOneBox (.block 16))).2.shelf ≠ (withOneBox (.block 16)).shelf ∧
      ∀ angle, (runFrom (finish (.ofBox 0)) (withOneBox (.virtualRz 8 angle))).2.shelf =
        (withOneBox (.virtualRz 8 angle)).shelf := by
  refine ⟨(shelf_of_finish_eq_iff rfl rfl).not.mpr (by decide), fun angle =>
    (shelf_of_finish_eq_iff rfl rfl).mpr (.inr fun entry played => ?_)⟩
  rw [List.mem_singleton.mp played]
  rfl

end Build

end Transmon
