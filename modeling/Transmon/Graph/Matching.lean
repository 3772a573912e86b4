import Transmon.Graph

/-!
Matchings: sets of edges of which no two meet.
-/

namespace Transmon.Graph

def maximalMatching {ν ε : Type} [BEq ν] (g : Graph ν ε) :=
  (g.pairs.foldl (fun (s : List ν × List (ν × ν)) e =>
    if s.1.contains e.1 || s.1.contains e.2 || e.1 == e.2 then s
    else (s.1 ++ [e.1, e.2], s.2 ++ [e])) ([], [])).2

namespace Weighted

inductive Mark
  | outer | inner
deriving DecidableEq

/-- Trees of alternating paths that grow from the nodes without a mate. An outer node is at an even distance from its
root. Trees are joined to augment the matching; cycles of odd length, which no lattice has, are left alone. -/
structure Forest where
  graph : Graph Nat Nat
  mate : Table Nat Nat
  mark : Table Nat Mark
  entry : Table Nat (Option (Nat × Nat))
  best : Table Nat (Nat × Nat)
  dual : Table Nat Int
  tight : List (Nat × Nat)
  stack : List Nat

namespace Forest

variable (f : Forest)

def rounds := (f.graph.order + 2) * (f.graph.order + 2)

def entryOf (v : Nat) := f.entry.getD v none

variable (e : Nat × Nat)

def slack := f.dual.getD e.1 0 + f.dual.getD e.2 0 - 2 * (((f.graph.edge? e.1 e.2).getD 0 : Nat) : Int)

def isTight := f.tight.contains e

def tighten := { f with tight := (e.2, e.1) :: e :: f.tight }

def setMark (w : Nat) (m : Mark) (through : Option Nat) : Forest :=
  { f with
    mark := f.mark.insert w m
    entry := f.entry.insert w (through.map (·, w))
    best := f.best.erase w }

def markOuter (w : Nat) (through : Option Nat) :=
  let f := f.setMark w .outer through
  { f with stack := f.stack ++ [w] }

def markInner (w v : Nat) := (f.setMark w .inner (some v)).markOuter (f.mate.getD w 0) (some w)

/-- The edge through which the tree of an outer node reached the inner node before it. -/
def before? (v : Nat) := (f.entryOf v).bind fun e => f.entryOf e.1

def root (f : Forest) : Nat → Nat → Nat
  | 0, v => v
  | fuel + 1, v => if let some (u, _) := f.before? v then root f fuel u else v

def augmentFrom : Nat → Nat → Nat → Forest → Forest
  | 0, _, _, f => f
  | fuel + 1, v, w, f =>
    let f := { f with mate := f.mate.insert v w }
    match f.before? v with
    | none => f
    | some (v, w) => augmentFrom fuel v w { f with mate := f.mate.insert w v }

def augment := augmentFrom f.rounds e.2 e.1 (augmentFrom f.rounds e.1 e.2 f)

def look (v w : Nat) : Forest × Bool :=
  if w = v then (f, false)
  else
    let slack := f.slack (v, w)
    let f := if !f.isTight (v, w) && slack ≤ 0 then f.tighten (v, w) else f
    let keepsBest (u : Nat) : Forest :=
      if (f.best.get? u).all fun known => slack < f.slack known then { f with best := f.best.insert u (v, w) } else f
    match f.isTight (v, w), f.mark.get? w with
    | true, none => (f.markInner w v, false)
    | true, some .outer => if f.root f.rounds v = f.root f.rounds w then (f, false) else (f.augment (v, w), true)
    | false, some .outer => (keepsBest v, false)
    | false, none => (keepsBest w, false)
    | _, some .inner => (f, false)

def lookAround (v : Nat) : List Nat → Forest → Forest × Bool
  | [], f => (f, false)
  | w :: xs, f =>
    match f.look v w with
    | (f, true) => (f, true)
    | (f, false) => lookAround v xs f

/-- Works off the stack of outer nodes, the last first, until it is empty or the matching is augmented. -/
def grow : Nat → Forest → Forest × Bool
  | 0, f => (f, false)
  | fuel + 1, f =>
    match f.stack.getLast? with
    | none => (f, false)
    | some v =>
      match lookAround v (f.graph.neighbours v) { f with stack := f.stack.dropLast } with
      | (f, true) => (f, true)
      | (f, false) => grow fuel f

/-- The greatest change of the duals that keeps all slacks and duals from falling below zero, and the edge that limits
it, if one does. -/
def limit : Int × Option (Nat × Nat) :=
  let least (mark : Option Mark) (part : Int → Int) (s : Int × Option (Nat × Nat)) :=
    f.graph.nodes.foldl (fun (s : Int × Option (Nat × Nat)) v =>
      match f.best.get? v with
      | some e => if f.mark.get? v = mark && part (f.slack e) < s.1 then (part (f.slack e), some e) else s
      | none => s) s
  least (some .outer) (·.fdiv 2) (least none id ((f.dual.values.min?).getD 0, none))

def shift (delta : Int) : Forest :=
  { f with
    dual := f.dual.map fun v u =>
      match f.mark.get? v with
      | some .outer => u - delta
      | some .inner => u + delta
      | none => u }

/-- Grows trees and changes duals by turns until the matching is augmented or is optimal. -/
def substages : Nat → Forest → Forest × Bool
  | 0, f => (f, false)
  | fuel + 1, f =>
    match grow (2 * f.rounds) f with
    | (f, true) => (f, true)
    | (f, false) =>
      let (delta, cause) := f.limit
      let f := f.shift delta
      match cause with
      | none => (f, false)
      | some e => substages fuel { f.tighten e with stack := f.stack ++ [e.1] }

def begun : Forest :=
  let f := { f with mark := ∅, entry := ∅, best := ∅, tight := [], stack := [] }
  f.graph.nodes.foldl (fun (f : Forest) v =>
    if !f.mate.contains v && (f.mark.get? v).isNone then f.markOuter v none else f) f

/-- Stages until no augmenting path is left; each makes the matching larger by one edge. -/
def stages : Nat → Forest → Forest
  | 0, f => f
  | fuel + 1, f =>
    match substages f.rounds f.begun with
    | (f, true) => stages fuel f
    | (f, false) => f

def initial (g : Graph Nat Nat) : Forest :=
  let greatest : Nat := g.edges.foldl (fun most e => if e.1 != e.2.1 then max most e.2.2 else most) 0
  { graph := g
    mate := ∅
    mark := ∅
    entry := ∅
    best := ∅
    dual := ⟨g.nodes.map (·, greatest)⟩
    tight := []
    stack := [] }

end Forest

end Weighted

def greatestMatching (g : Graph Nat Nat) :=
  (((Weighted.Forest.stages (g.order + 1) (.initial g)).mate).entries.foldl (fun (x : List (Nat × Nat)) e =>
    if x.contains e || x.contains e.swap then x else x ++ [e]) []).filter fun e => g.hasEdge e.1 e.2

end Transmon.Graph
