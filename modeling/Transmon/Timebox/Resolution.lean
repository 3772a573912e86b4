import Transmon.Station
import Transmon.Timebox

/-!
Finding the schedules of time boxes.

The children of a box are placed one after the other as blocks: each starts when the components it uses are
free, and then keeps the components of its surroundings busy until it ends. A box that pushes its content to
the end is filled backwards. The schedules that are found, and the components that were found to be blocked,
are kept in the boxes.
-/

namespace Transmon.Timebox

/-- What placing boxes needs to know about a station. -/
structure Surroundings where
  station : Station
  /-- The component that each channel blocks. -/
  owner : Table String String
  probes : Names
  inSeconds : Bool
  template : Option Channel

def Surroundings.of (st : Station) : Surroundings :=
  ⟨st, st.componentOf, st.probeChannels, st.alignsInSeconds, st.controlTemplate?⟩

variable (s : Surroundings)

def ownComponents (b : Timebox) : Outcome Names := do
  match b.blocked.get? 0 with
  | some ps => pure ps
  | none =>
    let tl ← require .type b.timeline
    return tl.channels.keys.foldl (fun (ns : Names) ch => ns.add (s.owner.getD ch ch)) b.locus

def widened (dist : Int) (ps : Names) :=
  let c := s.station.chip
  if dist % 2 = 1 then ps.union (c.neighborCouplers ps)
  else ps.union (c.neighborComponents ps)

def widenFrom (s : Surroundings) (dist : Int) (ps : Names) (blocked : Table Int Names) : Nat → Names × Table Int Names
  | 0 => (ps, blocked)
  | ss + 1 =>
    match blocked.get? dist with
    | some known => widenFrom s (dist + 1) known blocked ss
    | none =>
      let next := widened s dist ps
      widenFrom s (dist + 1) next (blocked.insert dist next) ss

def surrounding (b : Timebox) (range : Int) : Outcome (Names × Timebox) := do
  match b.blocked.get? range with
  | some ps => pure (ps, b)
  | none =>
    let own ← ownComponents s b
    let (ps, blocked) := widenFrom s 1 own (b.blocked.insert 0 own) range.toNat
    pure (ps, { b with blocked })

/-- Children that are being placed. -/
structure Placement where
  schedule : Schedule := {}
  /-- Until when components are busy, in samples. -/
  busy : Schedule.Busy := ∅
  /-- Until when components are busy, in seconds, once that is needed. -/
  busySeconds : Schedule.Busy := ∅
  inSeconds : Bool := false
  blocked : Table Int Names
  fault : Option Fault := none

namespace Placement

variable (s : Surroundings) (p : Placement)

def switch (c : Schedule) : Outcome Placement := do
  if s.inSeconds && !p.inSeconds && c.hasContentIn s.probes then
    let some ch := s.template | pure { p with inSeconds := true }
    let busySeconds ← p.busy.mapM fun _ time => .float <$> ch.toSeconds time
    pure { p with inSeconds := true, busySeconds }
  else pure p

def extend (c : Schedule) (own around : Names) (back : Bool) : Outcome Placement := do
  if p.inSeconds then
    let (schedule, busySeconds) ← p.schedule.extendHardBoundaryInSeconds c own around p.busySeconds back
      s.station.channels
    pure { p with schedule, busySeconds }
  else
    let (schedule, busy) ← p.schedule.extendHardBoundary c own around p.busy back
    pure { p with schedule, busy }

variable (range : Int)

def note (own around : Names) := do
  let blocked := p.blocked.insert 0 ((← p.blocked.need 0).union own)
  if 0 < range then
    pure { p with blocked := blocked.insert range ((← blocked.need range).union around) }
  else pure { p with blocked }

def stop (f : Fault) := { p with fault := some f }

variable (fill back : Bool)

def add (c : Timebox) (sc : Schedule) (p : Placement) : Timebox × Placement :=
  match p.switch s sc with
  | .error f => (c, p.stop f)
  | .ok p =>
    match surrounding s c 0 with
    | .error f => (c, p.stop f)
    | .ok (own, c) =>
      match surrounding s c range with
      | .error f => (c, p.stop f)
      | .ok (around, c) =>
        match p.extend s sc own around back >>= fun p => if fill then p.note range own around else .ok p with
        | .error f => (c, p.stop f)
        | .ok p => (c, p)

/-- Takes in a child as it was resolved, unless something is wrong already. -/
def take (c : Timebox) (resolved : Timebox × Outcome Schedule) (p : Placement) :=
  if p.fault.isSome then (c, p)
  else
    match resolved with
    | (c, .error f) => (c, p.stop f)
    | (c, .ok sch) => p.add s range fill back c sch

def finish (back : Bool) := do
  let padded ← if p.inSeconds then p.schedule.padToHardBoxInSeconds s.station.channels else pure p.schedule.padToHardBox
  return if back then padded.reverseHardBox else padded

end Placement

def withDistances (blocked : Table Int Names) (range : Int) :=
  (List.range (range + 1).toNat).foldl (fun t dist => t.insertNew (.ofNat dist) []) blocked

def tetrisFault : Fault :=
  .because .unsupported ("SchedulingAlgorithm.TETRIS is not supported in this iqm-pulse version. Updating it to "
    ++ "work with integer-duration scheduling will be done in COMP-1281.")

mutual

def resolve (s : Surroundings) (range : Int) (fill : Bool) : Timebox → Timebox × Outcome Schedule
  | ⟨n, isProbe, l, locus, tl, cs, st, algo, blocked⟩ =>
    match algo, tl with
    | .tetris, tl => (⟨n, isProbe, l, locus, tl, cs, st, .tetris, blocked⟩, .error tetrisFault)
    | .hardBoundary, some sch => (⟨n, isProbe, l, locus, some sch, cs, st, .hardBoundary, blocked⟩, .ok sch)
    | .hardBoundary, none =>
      let start : Placement := { blocked := if fill then withDistances blocked range else blocked }
      let (cs, placed) := resolveAll s range fill (st == .alap) cs start
      let x : Outcome Schedule := match placed.fault with
        | some f => .error f
        | none => placed.finish s (st == .alap)
      match x with
      | .error f => (⟨n, isProbe, l, locus, none, cs, st, .hardBoundary, placed.blocked⟩, .error f)
      | .ok sch => (⟨n, isProbe, l, locus, some sch, cs, st, .hardBoundary, placed.blocked⟩, .ok sch)

def resolveAll (s : Surroundings) (range : Int) (fill back : Bool) :
    List Timebox → Placement → List Timebox × Placement
  | [], p => ([], p)
  | c :: xs, p =>
    if back then
      let (xs, p) := resolveAll s range fill back xs p
      let (c, p) := p.take s range fill back c (resolve s range true c)
      (c :: xs, p)
    else
      let (c, p) := p.take s range fill back c (resolve s range true c)
      let (xs, p) := resolveAll s range fill back xs p
      (c :: xs, p)

end

def resolveChild (s : Surroundings) (range : Int) (fill back : Bool) (c : Timebox) (p : Placement) :=
  p.take s range fill back c (resolve s range true c)

end Transmon.Timebox
