import Transmon.Proofs.Basic
import Transmon.Routing.Pattern

/-!
# Rectangles of qubits

A qubit is looked for on a board that begins at the least coordinates, but at its coordinates as they are. So the search
finds the rectangles of a layout whose least coordinates are zero.
-/

namespace Transmon.Routing

open Outcome List

/-- Cells that fill a rectangle. -/
def Filled (cells : List (Int × Int)) (corner : Int × Int) (width height : Nat) : Prop :=
  ∀ i < width, ∀ j < height, (corner.1 + i, corner.2 + j) ∈ cells

namespace Board

variable {cells : List (Int × Int)} {corner : Int × Int} {width height : Nat} {board : Board}

theorem stretch_eq {side length : Nat} {start : Int} (low : 0 ≤ start) (high : start + length ≤ side) :
    stretch side start length = (range length).map fun (k : Nat) => (start + k).toNat := by
  have first : Slice.bound side false start = start := by simp [Slice.bound]; omega
  have last : Slice.bound side false (start + length) = start + length := by simp [Slice.bound]; omega
  simp only [stretch, Slice.places, first, last, Int.one_mul]
  congr 2
  omega

/-- Cells whose least coordinates are zero stay where they are on their board. -/
structure Shows (board : Board) (cells : List (Int × Int)) : Prop where
  taken : board.taken = cells
  inside : ∀ c ∈ cells, 0 ≤ c.1 ∧ c.1 < board.width ∧ 0 ≤ c.2 ∧ c.2 < board.height

theorem ofCells_shows (left : (cells.map Prod.fst).min? = some 0) (bottom : (cells.map Prod.snd).min? = some 0) :
    ∃ board, ofCells cells = .ok board ∧ board.Shows cells := by
  cases far : (cells.map Prod.fst).max? with
  | none => simp_all
  | some right =>
    cases high : (cells.map Prod.snd).max? with
    | none => simp_all
    | some top =>
      refine ⟨⟨(right + 1).toNat, (top + 1).toNat, cells⟩, by simp [ofCells, left, bottom, far, high, require], rfl, ?_⟩
      simp only [min?_eq_some_iff, max?_eq_some_iff, forall_mem_map] at left bottom far high
      grind

theorem Shows.fits_iff (shows : board.Shows cells) (there : corner ∈ cells) (wide : 0 < width) (tall : 0 < height) :
    board.fits corner width height ↔ Filled cells corner width height := by
  obtain ⟨low, -, first, -⟩ := shows.inside corner there
  by_cases bounds : corner.1 + width ≤ board.width ∧ corner.2 + height ≤ board.height
  · have moved (k : Nat) : ((corner.1 + k).toNat : Int) = corner.1 + k ∧ ((corner.2 + k).toNat : Int) = corner.2 + k := by
      omega
    simp [fits, bounds, stretch_eq, low, first, shows.taken, Filled, moved]
  · refine iff_of_false (by simp [fits]; grind) fun filled => bounds ?_
    have last := shows.inside _ (filled (width - 1) (by omega) (height - 1) (by omega))
    grind

end Board

variable {cells : Table Nat (Int × Int)} {height width : Nat} {board : Board}

/-- A rectangle of the given sides, in either direction, that begins at a qubit and is full. -/
def Rectangle.Lies (cells : Table Nat (Int × Int)) (height width : Nat) (r : Rectangle) : Prop :=
  (r.width, r.height) ∈ [(width, height), (height, width)] ∧
    ∃ corner, cells.get? r.corner = some corner ∧ Filled cells.values corner r.width r.height

theorem rectangleAt_eq_ok (shows : board.Shows cells.values) (wide : 0 < width) (tall : 0 < height)
    {qubits : List Nat} (placed : ∀ q ∈ qubits, q ∈ cells.keys) :
    ∃ found, rectangleAt? board cells height width qubits = .ok found ∧ (∀ r ∈ found, r.Lies cells height width) ∧
      (found = none → ∀ q ∈ qubits, ∀ corner, cells.get? q = some corner →
        ¬Filled cells.values corner width height ∧ ¬Filled cells.values corner height width) := by
  induction qubits with
  | nil => exact ⟨none, rfl, by simp⟩
  | cons q rest ih =>
    obtain ⟨here, others⟩ := forall_mem_cons.mp placed
    obtain ⟨corner, held⟩ := Option.isSome_iff_exists.mp (Table.isSome_get?_iff.mpr here)
    have there : corner ∈ cells.values := mem_map_of_mem (Table.mem_entries_of_get? held)
    have straight := shows.fits_iff there wide tall
    have turned := shows.fits_iff there tall wide
    rw [rectangleAt?, need_eq_ok_iff.mpr held, ok_bind]
    split
    case isTrue fits => exact ⟨_, rfl, by rintro r ⟨⟩; exact ⟨by simp, corner, held, straight.mp fits⟩, nofun⟩
    split
    case isTrue fits => exact ⟨_, rfl, by rintro r ⟨⟩; exact ⟨by simp, corner, held, turned.mp fits⟩, nofun⟩
    obtain ⟨found, ran, sound, complete⟩ := ih others
    exact ⟨found, ran, sound, by grind⟩

/-- The search of a layout whose least coordinates are zero answers: a rectangle that is full, or nothing if there is
none anywhere. -/
theorem rectangle_of_origin {device : Device} (layout : device.cells? = some cells) (distinct : cells.keys.Nodup)
    (same : ∀ q, q ∈ device.graph.nodes ↔ q ∈ cells.keys) (left : (cells.values.map Prod.fst).min? = some 0)
    (bottom : (cells.values.map Prod.snd).min? = some 0) (wide : 0 < width) (tall : 0 < height) :
    ∃ found, rectangle? device height width = .ok found ∧ (∀ r ∈ found, r.Lies cells height width) ∧
      (found = none → ∀ corner,
        ¬Filled cells.values corner width height ∧ ¬Filled cells.values corner height width) := by
  obtain ⟨board, made, shows⟩ := Board.ofCells_shows left bottom
  obtain ⟨found, ran, sound, complete⟩ := rectangleAt_eq_ok shows wide tall fun q member => (same q).mp member
  refine ⟨found, by simp [rectangle?, layout, require, made, ran], sound, fun missing corner => ?_⟩
  by_contra filled
  have there : corner ∈ cells.values := by
    rcases not_and_or.mp filled with full | full <;> simpa using not_not.mp full 0 ‹_› 0 ‹_›
  obtain ⟨⟨q, _⟩, entry, rfl⟩ := List.mem_map.mp there
  exact filled (complete missing q ((same q).mpr (Table.mem_keys_of_mem entry)) _
    (Table.get?_of_mem_entries distinct entry))

theorem rectangle_square : ∃ found, rectangle? (.grid 2 2) 2 1 = .ok found ∧ found ≠ none := by
  have layout : (Device.grid 2 2).cells? = some ⟨[(0, 0, 0), (1, 0, 1), (2, 1, 0), (3, 1, 1)]⟩ := rfl
  have nodes : (Device.grid 2 2).graph.nodes = [0, 1, 2, 3] := by decide
  obtain ⟨found, ran, -, complete⟩ : ∃ found, rectangle? (.grid 2 2) 2 1 = .ok found ∧ _ :=
    rectangle_of_origin layout (by decide) (by simp [nodes, Table.keys]) rfl rfl (by decide) (by decide)
  exact ⟨found, ran, fun missing => (complete missing (0, 0)).1 (by unfold Filled; decide)⟩

end Transmon.Routing
