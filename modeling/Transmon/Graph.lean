import Transmon.Table

/-!
Undirected graphs that remember the order in which they were built.
-/

namespace Transmon

structure Graph (ν ε : Type) where
  rows : Table ν (Table ν ε)

namespace Graph

variable {ν μ ε δ : Type}

instance : EmptyCollection (Graph ν ε) := ⟨⟨∅⟩⟩

instance : Inhabited (Graph ν ε) := ⟨∅⟩

def nodes (g : Graph ν ε) := g.rows.keys

def order (g : Graph ν ε) := g.rows.size

section Keyed

variable [BEq ν] [BEq μ] (g : Graph ν ε) (v : ν)

def hasNode := g.rows.contains v

def row := g.rows.getD v ∅

def neighbours := (g.row v).keys

variable (u v : ν)

def edge? := (g.row u).get? v

def hasEdge := (g.edge? u v).isSome

def addNode : Graph ν ε := ⟨g.rows.insertNew v ∅⟩

variable (nodes : List ν)

def addNodes := nodes.foldl addNode g

def addEdge (load : ε) : Graph ν ε :=
  ⟨(((g.addNode u).addNode v).rows.modify u (·.insert v load)).modify v (·.insert u load)⟩

def addEdges (es : List (ν × ν × ε)) := es.foldl (fun g e => g.addEdge e.1 e.2.1 e.2.2) g

def ofEdges (es : List (ν × ν × ε)) := ((∅ : Graph ν ε).addNodes nodes).addEdges es

def walk (seen : List ν) : List (ν × Table ν ε) → List (ν × ν × ε)
  | [] => []
  | (u, r) :: xs =>
    r.entries.filterMap (fun e => if seen.contains e.1 then none else some (u, e.1, e.2)) ++ walk (u :: seen) xs

def edges := walk [] g.rows.entries

def pairs := g.edges.map fun e => (e.1, e.2.1)

def size := g.edges.length

def degree :=
  let r := g.row v
  r.size + if r.contains v then 1 else 0

def removeEdge : Graph ν ε := ⟨(g.rows.modify u (·.erase v)).modify v (·.erase u)⟩

def removeNode : Graph ν ε := ⟨(g.rows.erase v).map fun _ r => r.erase v⟩

def removeNodes := nodes.foldl removeNode g

def setEdge (load : ε) : Graph ν ε :=
  ⟨(g.rows.modify u fun r => r.modify v fun _ => load).modify v fun r => r.modify u fun _ => load⟩

def keeping (keepsNode : ν → Bool) (keepsEdge : ν → ν → Bool) : Graph ν ε :=
  ⟨(g.rows.filter fun u _ => keepsNode u).map fun u r => r.filter fun v _ => keepsNode v && keepsEdge u v⟩

def induced := g.keeping nodes.contains fun _ _ => true

/-- The part of a graph on some of its nodes. When these are fewer than half of all, they come in the order of
`listed`, else in the order of the graph. -/
def part (listed : List ν → List ν) (chosen : List ν) : Graph ν ε :=
  if 2 * chosen.length < g.order then
    ⟨⟨(listed (chosen.filter g.hasNode)).map fun u => (u, (g.row u).filter fun v _ => chosen.contains v)⟩⟩
  else g.induced chosen

/-- The same graph built anew from its rows: at each node the neighbours that come before it move to the front. -/
def rebuilt : Graph ν ε :=
  ⟨g.rows.map fun u r =>
    let earlier := g.nodes.takeWhile (!u == ·)
    ⟨earlier.filterMap (fun v => (r.get? v).map (v, ·)) ++ r.entries.filter (!earlier.contains ·.1)⟩⟩

def relabelled (n : ν → μ) : Graph μ ε := .ofEdges (g.nodes.map n) (g.edges.map fun e => (n e.1, n e.2.1, e.2.2))

def complement : Graph ν Unit :=
  .ofEdges g.nodes (g.nodes.flatMap fun u => (g.nodes.filter fun v => !g.hasEdge u v && u != v).map fun v => (u, v, ()))

def nextLevel (paths : Table ν (List ν)) (level : List ν) :=
  level.foldl (fun s v =>
    (g.neighbours v).foldl (fun (s : Table ν (List ν) × List ν) w =>
      if s.1.contains w then s
      else (s.1.insert w (s.1.getD v [] ++ [w]), s.2 ++ [w])) s) (paths, [])

def levels (g : Graph ν ε) : Nat → Table ν (List ν) → List ν → Table ν (List ν)
  | 0, paths, _ => paths
  | fuel + 1, paths, level =>
    match g.nextLevel paths level with
    | (paths, []) => paths
    | (paths, next) => levels g fuel paths next

def shortestPaths (s : ν) := g.levels g.order (.ofList [(s, [s])]) [s]

def components :=
  (g.nodes.foldl (fun (s : List ν × List (List ν)) v =>
    if s.1.contains v then s
    else
      let reached := (g.shortestPaths v).keys
      (s.1 ++ reached, s.2 ++ [g.nodes.filter reached.contains])) ([], [])).2

end Keyed

def mapEdges (g : Graph ν ε) (change : ε → δ) : Graph ν δ := ⟨g.rows.map fun _ r => r.map fun _ load => change load⟩

variable {α : Type} (measure : α → Nat)

def leastBy? : List α → Option α
  | [] => none
  | a :: xs => some (xs.foldl (fun best b => if measure b < measure best then b else best) a)

def greatestBy? : List α → Option α
  | [] => none
  | a :: xs => some (xs.foldl (fun best b => if measure best < measure b then b else best) a)

def consecutive (xs : List α) := xs.zip xs.tail

def grid (height w : Nat) : Graph (Nat × Nat) Unit :=
  let cs := (List.range height).flatMap fun i => (List.range w).map fun j => (i, j)
  let upright := (consecutive (.range height)).flatMap fun p => (List.range w).map fun j => ((p.2, j), (p.1, j), ())
  let level := (List.range height).flatMap fun i => (consecutive (.range w)).map fun p => ((i, p.2), (i, p.1), ())
  .ofEdges cs (upright ++ level)

def path (n : Nat) : Graph Nat Unit := .ofEdges (.range n) ((consecutive (.range n)).map fun p => (p.1, p.2, ()))

def star (ls : Nat) : Graph Nat Unit := .ofEdges (.range (ls + 1)) ((List.range ls).map (0, · + 1, ()))

/-!
Cliques, and placements of one graph in another.
-/

section Cliques

variable {ν : Type} [BEq ν]

def common (listed : List ν → List ν) (a b : List ν) :=
  listed (if a.length < b.length then a.filter b.contains else b.filter a.contains)

/-- Candidates are tried in turn, and one that was tried is no candidate any more. -/
def trying (x : List ν → ν → List (List ν)) : List ν → List ν → List (List ν)
  | _, [] => []
  | cands, q :: xs =>
    let cands := cands.filter fun v => !(v == q)
    x cands q ++ trying x cands xs

/-- The maximal cliques that candidates make of a clique; `shared` are all the nodes that are joined to it. -/
def cliquesFrom (listed : List ν → List ν) (joined : ν → List ν) : Nat → List ν → List ν → List ν → List (List ν)
  | 0, _, _, _ => []
  | fuel + 1, clique, cands, shared =>
    match greatestBy? (fun u => (cands.filter (joined u).contains).length) shared with
    | none => [clique]
    | some pivot =>
      trying (fun cands q => cliquesFrom listed joined fuel (clique ++ [q]) (common listed cands (joined q))
        (common listed shared (joined q))) cands (listed (cands.filter (!(joined pivot).contains ·)))

def cliques {ε : Type} (g : Graph ν ε) (listed : List ν → List ν) :=
  let ns := listed g.nodes
  let joined : Table ν (List ν) := ⟨g.nodes.map fun u => (u, listed ((g.neighbours u).filter fun v => !(u == v)))⟩
  cliquesFrom listed (joined.getD · []) (g.order + 1) [] ns ns

def greatestIndependentSet {ε : Type} (g : Graph ν ε) (listed : List ν → List ν) :=
  (greatestBy? List.length (g.complement.cliques listed)).getD []

end Cliques

section Placements

variable {α β ε δ : Type} [BEq α] [BEq β]

structure Placement (α β : Type) where
  placed : List (α × β)
  reachedHost : List α
  reachedPattern : List β

def extendedBy (xs more : List α) := more.foldl (fun xs a => if xs.contains a then xs else xs ++ [a]) xs

namespace Placement

variable (p : Placement α β)

def hosts := p.placed.map Prod.fst

def patterns := p.placed.map Prod.snd

variable (h : Graph α ε) (pat : Graph β δ)

/-- The pairs to try next: the first reached pattern node that is not placed, with each reached host node; if
one side has none, the first pattern node at all, with every host node. -/
def candidates (p : Placement α β) : List (α × β) :=
  let openHosts := p.reachedHost.filter (!p.hosts.contains ·)
  match openHosts, (pat.nodes.filter fun b => p.reachedPattern.contains b && !p.patterns.contains b) with
  | _ :: _, next :: _ => openHosts.map (·, next)
  | _, _ =>
    match pat.nodes.find? (!p.patterns.contains ·) with
    | some next => (h.nodes.filter (!p.hosts.contains ·)).map (·, next)
    | none => []

def fits (p : Placement α β) (pair : α × β) :=
  (!pat.hasEdge pair.2 pair.2 || h.hasEdge pair.1 pair.1) &&
    p.placed.all fun e => !pat.hasEdge e.2 pair.2 || h.hasEdge e.1 pair.1

def add (listed : List α → List α) (p : Placement α β) (pair : α × β) : Placement α β :=
  let placed := p.placed ++ [pair]
  let near := (placed.map Prod.fst).flatMap h.neighbours
  let nearPattern := (placed.map Prod.snd).flatMap pat.neighbours
  { placed
    reachedHost := extendedBy (extendedBy p.reachedHost [pair.1])
      (listed (near.filter (!(placed.map Prod.fst).contains ·)))
    reachedPattern := extendedBy (extendedBy p.reachedPattern [pair.2])
      (nearPattern.filter (!(placed.map Prod.snd).contains ·)) }

def complete? (h : Graph α ε) (pat : Graph β δ) (listed : List α → List α) : Nat → Placement α β →
    Option (List (α × β))
  | 0, p => some p.placed
  | missing + 1, p =>
    (p.candidates h pat).findSome? fun pair =>
      if p.fits h pat pair then complete? h pat listed missing (p.add h pat listed pair) else none

end Placement

def placement? (h : Graph α ε) (pat : Graph β δ) (listed : List α → List α) :=
  Placement.complete? h pat listed pat.order ⟨[], [], []⟩

end Placements

/-!
Colourings of the edges of a graph in which edges that meet have different colours.
-/

variable {ν κ : Type} [BEq ν]

def coloursOn [BEq κ] (g : Graph ν (Option κ)) (v : ν) :=
  (g.row v).entries.foldl (fun (x : Table κ ν) e => if let some colour := e.2 then x.insert colour e.1 else x) ∅

def isProper [BEq κ] (g : Graph ν (Option κ)) := g.rows.entries.all fun e => distinct (e.2.values.filterMap id)
where
  distinct : List κ → Bool
    | [] => true
    | a :: xs => !xs.contains a && distinct xs

def isComplete (g : Graph ν (Option κ)) := g.edges.all (·.2.2.isSome)

variable (g : Graph ν (Option Nat)) (ps : List Nat)

def freeColours (v : ν) := ps.filter (!(g.coloursOn v).contains ·)

def nextLeaf? (centre last : ν) (fan : List ν) :=
  (g.freeColours ps last).findSome? fun colour => do
    let leaf ← (g.coloursOn centre).get? colour
    if fan.contains leaf then none else some leaf

def growFan (g : Graph ν (Option Nat)) (ps : List Nat) (centre : ν) : Nat → ν → List ν → List ν
  | 0, _, fan => fan
  | fuel + 1, last, fan =>
    match g.nextLeaf? ps centre last fan with
    | some leaf => growFan g ps centre fuel leaf (fan ++ [leaf])
    | none => fan

/-- A fan around a node that begins with a neighbour and cannot be grown. A fan has no more leaves than the node
neighbours. -/
def maximalFan (centre x : ν) := g.growFan ps centre (g.neighbours centre).length x [x]

def alternatingPath (g : Graph ν (Option Nat)) : Nat → ν → Nat → Nat → List ν
  | 0, _, _, _ => []
  | fuel + 1, v, colour, x =>
    if let some next := (g.coloursOn v).get? colour then next :: alternatingPath g fuel next x colour
    else []

def exchanged (c d : Nat) (edge : ν × ν) :=
  g.setEdge edge.1 edge.2 (some (if g.edge? edge.1 edge.2 == some (some c) then d else c))

def invertPath (v : ν) (c d : Nat) : Graph ν (Option Nat) :=
  (consecutive (v :: g.alternatingPath (2 * g.order + 2) v d c)).foldl (fun g edge => g.exchanged c d edge) g

def rotateFan (g : Graph ν (Option Nat)) (centre : ν) (colour : Nat) : List ν → Graph ν (Option Nat)
  | [] => g
  | [last] => g.setEdge centre last (some colour)
  | leaf :: next :: xs =>
    rotateFan (g.setEdge centre leaf ((g.edge? centre next).getD none)) centre colour (next :: xs)

def upTo {α : Type} (stops : α → Bool) : List α → List α
  | [] => []
  | a :: xs => a :: if stops a then [] else upTo stops xs

variable (pick : Graph ν (Option Nat) → ν → List Nat → Nat)

def colourEdge (ps : List Nat) (g : Graph ν (Option Nat)) (edge : ν × ν) :=
  let (centre, x) := edge
  let fan := g.maximalFan ps centre x
  let last := fan.getLastD x
  let d := pick g last (g.freeColours ps last)
  let g := g.invertPath centre (pick g centre (g.freeColours ps centre)) d
  g.rotateFan centre d (upTo (fun leaf => (g.freeColours ps leaf).contains d) fan)

def greatestDegree? (g : Graph ν κ) := (g.nodes.map g.degree).max?

def edgeColouring (g : Graph ν (Option Nat)) := do
  let colours := (← g.greatestDegree?) + 1
  let start := g.rebuilt
  pure (colours, start.pairs.foldl (colourEdge pick (.range colours)) start)

def leastColour (_ : Graph ν (Option Nat)) (_ : ν) (colours : List Nat) := colours.headD 0

def colourClasses (colours : Nat) (g : Graph ν (Option Nat)) :=
  (List.range colours).map fun colour => (g.edges.filter (·.2.2 == some colour)).map fun e => (e.1, e.2.1)

/-!
Planar graphs: whether a graph can be drawn without crossings.
-/

/-- The equation for two chords without a common node, as bits that occur an odd number of times: chord `i` from `a`
to `b` and chord `j` from `c` to `d` among `n` nodes. -/
def crossing (n i a b j c d : Nat) :=
  let pull (edge v : Nat) := 1 <<< (edge * n + v + 1)
  let isBetween (x : Nat) := decide (a < x) != decide (b < x)
  pull i c ^^^ pull i d ^^^ pull j a ^^^ pull j b ^^^ (if isBetween c == isBetween d then 0 else 1)

/-- Reduces an equation by those before it, which are ordered by their highest bits, the highest first. -/
def reduced (known : List Nat) (r : Nat) := known.foldl (fun r k => if r.testBit k.log2 then r ^^^ k else r) r

def solvable (known : List Nat) : List Nat → Bool
  | [] => true
  | r :: xs =>
    match reduced known r with
    | 0 => solvable known xs
    | 1 => false
    | r => solvable (known.takeWhile (r < ·) ++ r :: known.dropWhile (r < ·)) xs

def isPlanar {ν ε : Type} [BEq ν] (g : Graph ν ε) : Bool :=
  let place (v : ν) := g.nodes.findIdx (· == v)
  let chords := ((g.pairs.map fun e => (place e.1, place e.2)).filter fun e => e.1 ≠ e.2).zipIdx
  solvable [] (chords.flatMap fun e => chords.filterMap fun f =>
    let ((a, b), i) := e
    let ((c, d), j) := f
    if i < j && a ≠ c && a ≠ d && b ≠ c && b ≠ d then some (crossing g.order i a b j c d) else none)

end Graph

end Transmon
