import Transmon.Proofs.Basic
import Transmon.Routing.Route

/-!
# Steps of a route that fail

A refused interaction changes nothing. A refused exchange keeps what is left to do, but it has put its gate into a layer
if the device has the pair: only then it turns out that one of the two holds nothing. It keeps the assignment as well,
unless the interaction that it goes on to attempt is what was refused.
-/

namespace Transmon

namespace Work

variable {σ α β : Type} {work : Work σ α} {start finish : σ} {fault : Fault} {outcome : Outcome α}

/-- Work that is refused, and the state that it leaves. -/
def Fails (work : Work σ α) (start : σ) (fault : Fault) (finish : σ) : Prop :=
  work.runFrom start = (.error fault, finish)

theorem fails_bind_iff {next : α → Work σ β} : Fails (work >>= next) start fault finish ↔
    Fails work start fault finish ∨
      ∃ value middle, Returns work start value middle ∧ Fails (next value) middle fault finish := by
  unfold Fails Returns
  rw [runFrom_bind]
  rcases work.runFrom start with ⟨outcome, middle⟩
  cases outcome with
  | error fault => simp
  | ok value => simp

@[simp] theorem fails_lift_iff : Fails (liftM outcome) start fault finish ↔ outcome = .error fault ∧ start = finish := by
  change (outcome, start) = (.error fault, finish) ↔ _
  simp

@[simp] theorem not_fails_pure (value : α) : ¬Fails (pure value) start fault finish := nofun

@[simp] theorem not_fails_get : ¬Fails (get : Work σ σ) start fault finish := nofun

@[simp] theorem not_fails_modify (change : σ → σ) : ¬Fails (modify change : Work σ PUnit) start fault finish := nofun

@[simp] theorem not_fails_set (given : σ) : ¬Fails (set given : Work σ PUnit) start fault finish := nofun

@[simp] theorem returns_modify_iff {change : σ → σ} {done : PUnit} :
    Returns (modify change : Work σ PUnit) start done finish ↔ change start = finish := by
  change ((.ok ⟨⟩ : Outcome PUnit), change start) = (.ok done, finish) ↔ _
  simp

end Work

namespace Routing

open Problem Quantity Work

namespace Layer

variable {e : Edge}

theorem toggled_ne {α : Type} [BEq α] [LawfulBEq α] (a : α) (items : List α) : toggled a items ≠ items := by
  unfold toggled
  split
  case isTrue held =>
    intro same
    rw [← same] at held
    simp at held
  case isFalse => simp

/-- A gate that is put somewhere is seen in the layers. -/
theorem slide_swapping_ne (fits : Layer → Bool) (layers : List Layer) : slide fits (swapping e) layers ≠ layers := by
  have fewer := (List.takeWhile_sublist (l := layers.reverse) fits).length_le
  intro same
  simp only [slide] at same
  generalize (layers.reverse.takeWhile fits).length = count at same fewer
  split at same
  · simp at same
  · have inside : layers.length - count < layers.length := by grind
    have there := congrArg (·[layers.length - count]?) same
    rw [List.getElem?_modify_eq, List.getElem?_eq_getElem inside] at there
    exact toggled_ne e _ (congrArg swaps (Option.some_inj.mp there))

end Layer

namespace Route

variable {K : Type} {r last : Route K} {fault : Fault} {u v : Nat}

theorem settlePair_fails (failed : (settlePair u v).Fails r fault last) : r = last ∧ r.left.hasEdge u v = false := by
  cases there : r.left.hasEdge u v <;> simp_all [settlePair, fails_bind_iff]

variable [Quantity K] {e : Edge}

theorem due_fails (failed : (due e).Fails r fault last) : r = last := by
  cases joined : r.device.hasEdge e <;> simp [-bind_pure_comp, due, fails_bind_iff, joined] at failed
  · exact failed.2
  · rcases failed with ⟨-, same⟩ | ⟨u, -, ⟨-, same⟩ | ⟨v, -, ⟨-, same⟩ | ⟨bias, -, failed⟩⟩⟩
    case inr.inr.inr =>
      split at failed
      · exact (settlePair_fails (by simpa [-bind_pure_comp, fails_bind_iff] using failed)).1
      · cases there : r.left.hasEdge u v <;> simp [-bind_pure_comp, there, fails_bind_iff] at failed
        exact failed.2
    all_goals exact same

theorem due_returns (returned : (due e).Returns r (some (u, v)) last) : r = last ∧ r.left.hasEdge u v := by
  cases joined : r.device.hasEdge e <;> simp [-bind_pure_comp, due, returns_bind_iff, joined] at returned
  obtain ⟨a, -, b, -, bias, -, returned⟩ := returned
  split at returned
  · simp [-bind_pure_comp, returns_bind_iff] at returned
  · cases there : r.left.hasEdge a b <;> simp [-bind_pure_comp, there, returns_bind_iff] at returned
    grind

theorem interact_fails (failed : (interact e).Fails r fault last) : r = last := by
  rcases fails_bind_iff.mp failed with failed | ⟨_ | ⟨u, v⟩, middle, returned, failed⟩
  · exact due_fails failed
  · simp at failed
  · obtain ⟨rfl, there⟩ := due_returns returned
    simp [fails_bind_iff] at failed
    have := settlePair_fails failed
    simp_all

theorem attempt_fails (failed : (attempt e).Fails r fault last) : r = last := by
  simp [-bind_pure_comp, attempt, fails_bind_iff] at failed
  rcases failed with ⟨-, same⟩ | ⟨u, -, ⟨-, same⟩ | ⟨v, -, failed⟩⟩
  case inr.inr =>
    split at failed
    · exact interact_fails failed
    · simp at failed
  all_goals exact same

theorem exchange_fails {attempting : Bool} (failed : (exchange e attempting).Fails r fault last) :
    r = last ∧ r.device.hasEdge e = false ∨ r.device.hasEdge e ∧ ∃ now, (attempting = false → now = r.now) ∧
      last = { r with now, layers := Layer.slide (Layer.canSwap r.device e) (.swapping e) r.layers } := by
  cases joined : r.device.hasEdge e <;> simp [exchange, fails_bind_iff, joined] at failed
  · simp_all
  · rcases failed with ⟨-, rfl⟩ | ⟨now, -, failed⟩
    · exact .inr ⟨rfl, r.now, fun _ => rfl, rfl⟩
    · split at failed
      case isTrue asked => exact .inr ⟨rfl, now, by simp [asked], (attempt_fails failed).symm⟩
      case isFalse => simp at failed

/-- A refused interaction changes nothing. A refused exchange keeps what is left to do, and the assignment unless it was
the interaction after it that was refused; it keeps the layers exactly if the device does not have the pair. -/
theorem refused_steps (r : Route K) (e : Edge) :
    (∀ fault last, (interact e).Fails r fault last → last = r) ∧
      ∀ attempting fault last, (exchange e attempting).Fails r fault last →
        last = { r with now := last.now, layers := last.layers } ∧ (attempting = false → last.now = r.now) ∧
          (last.layers = r.layers ↔ r.device.hasEdge e = false) := by
  refine ⟨fun fault last failed => (interact_fails failed).symm, fun attempting fault last failed => ?_⟩
  rcases exchange_fails failed with ⟨rfl, missing⟩ | ⟨joined, now, kept, rfl⟩
  · simp [missing]
  · simpa [joined, Layer.slide_swapping_ne] using kept

def shortLine : Route Rat :=
  .begin (.make (.ofEdges [0, 1] [(0, 1, ())]) none none) ⟨⟨[(5, 1)]⟩, [], 0⟩ ⟨⟨[(0, 5)]⟩⟩

/-- The second qubit of the line holds nothing. -/
theorem exchange_shortLine : ∃ fault last, (exchange ⟨0, 1⟩).Fails shortLine fault last ∧ last.now = shortLine.now ∧
    last.layers ≠ shortLine.layers := by
  have failed : (exchange ⟨0, 1⟩).Fails shortLine (.bare .missing)
      { shortLine with layers := [⟨[], [⟨0, 1⟩], [0, 1]⟩] } := rfl
  exact ⟨_, _, failed, rfl, ((refused_steps shortLine _).2 _ _ _ failed).2.2.not.mpr (by decide)⟩

end Route

end Routing

end Transmon
