import Transmon.Builder.Basic

/-!
Calling implementations.
-/

namespace Transmon.Build

open Timebox (Group Shelving)
open Numeric Calibration Schedule Timebox Shelving Gate

abbrev Perform := Nat → Args → Build Group

def realArg (v : Value) : Build Float :=
  if let some x := v.float? then pure x
  else hint .type s!"unsupported operand type(s) for -: '{v.className}' and 'float'"

def isTrue (v : Value) := if let some x := v.number? then !(x == 0) else v.isFilled

variable (self : Implementation)

def titleOf := s!"{self.design.name} on {Text.quotedTuple self.locus}"

def firstOf := itemAt self.locus 0

def boxOf (s : Schedule) := atomic s self.locus (titleOf self)

def channelBox (ch : String) (is : List Instruction) := boxOf self (ofChannels [(ch, is)] none)

def blocking (ps : Names) (b : Timebox) := { b with blocked := b.blocked.insert 0 (.ofList ps) }

def onChannels (chs : Names) (is : List Instruction) := ofChannels (Table.ofList (chs.map (·, is))).entries none

def wait (locus : Names) (span : Float) (rounding : Bool) : Build Timebox := do
  let station ← station
  let cs ← (station.controlChannels locus).mapM fun m => do
    let ch ← station.channel m
    let n ←
      if span == 0 then pure 0
      else if rounding then
        let rounded ← ch.roundToGranularity span false false
        if span > 0 then ch.wholeSamples rounded else pure 0
      else ch.wholeSamples span
    pure (m, [.block n])
  return atomic (ofChannels (Table.ofList cs).entries none) locus "Wait"

def longestDelay := 0.1

def callDelay (arg : Value) : Build Timebox := do
  let some span := arg.float? |
    hint .type s!"'>' not supported between instances of '{arg.className}' and 'float'"
  if span > longestDelay then
    refuse (s!"Requested delay duration {arg.plain} s exceeds the allowed maximum "
      ++ s!"{Decimal.render longestDelay} s. You can use several delay operations in a row if this is not enough.")
  let station ← station
  let ns := station.controlChannels self.locus
  let chs ← liftM (ns.mapM station.channel)
  let n ← if span == 0 then pure 0 else roundToCommonGranularity chs span true true
  return blocking self.locus (boxOf self (onChannels ns [.wait n]))

def rotated (ps : List IQPulse) (angle phase : Float) :=
  let (scale, phase) := normalisedRotation angle phase
  ps.map (scaledPulse · scale phase)

def callDrive (style : DriveStyle) (ch : String) (p : IQPulse) (angle phase : Float) :=
  let (ps, isLong) :=
    if style = .halves then
      (quarterTurnPulses p angle phase, !decide (p.duration < .float tol))
    else (rotated [p] angle phase, decide (.float tol < p.duration))
  blocking self.locus (channelBox self ch (if isLong then ps.map .iqPulse else [.block 0]))

def callSmooth (ch : String) (ps : List IQPulse) (angle phase : Float) :=
  channelBox self ch ((rotated ps angle phase).map .iqPulse)

def channelOf : Build String :=
  match self.prepared with
  | .pulse ch _ | .smooth ch .. | .frame ch _ => pure ch
  | _ => fail .noAttr

variable (perform : Perform) (number : Nat)

def single? (k : Fault.Kind) : Group → Build Nat
  | .one n => pure n
  | .many _ => fail k

def playedBy (args : Args) : Build (String × List Instruction) := do
  let tl := (← box (← single? .noAttr (← perform number args))).timeline
  let ch ← channelOf (← implementation number)
  pure (ch, (← (← require .type tl).segment ch).instructions)

/-- A rotation around an axis of the plane by another implementation; its box gets a new label. -/
def rotate (angle phase : Value) (axis : String) : Build Nat := do
  let self ← implementation number
  if !self.design.isRotation then fail .noAttr
  let b ← single? .noAttr (← perform number { named := [("angle", angle), ("phase", phase)] })
  let p ← firstOf self
  changeBox b ({ · with label := s!"{axis} on {p}" })
  pure b

def rotateX (angle : Value) := rotate perform number angle (.int 0) "Rx"

def rotateY (angle : Value) := rotate perform number angle (.float (pi / 2.0)) "Ry"

variable (part : String)

def single := do
  implementation (← implementNamed self.operation [part] (some self.name) false false self.inherited)

def resultLabel (k : Value) (usual : String) := s!"{part}__{if isTrue k then k.plain else usual}"

def startDeadTime (l : Channel) := (l.probe.map ProbeProperties.integrationStartDeadTime).getD 0

def triggerOf (p : IQPulse) (off span : Int) (acquisitions : List (Acquisition IQPulse)) : ReadoutTrigger :=
  { duration := span
    probePulse := { duration := p.duration + off, entries := [(p, off)] }
    acquisitions }

def triggerBox (t : ReadoutTrigger) : Build Timebox := do
  let station ← station
  let n ← station.probeChannel part
  let boxOn := probe (.readout t) n self.locus (titleOf self)
  let .ok drive := station.driveChannel part | return boxOn [] 0
  let ch ← station.channel drive
  let time ← (← station.channel n).toSeconds t.duration
  return boxOn [drive] (← ch.wholeSamples (← ch.roundToGranularity time true true))

def labelled (k fb : Value) : Acquisition IQPulse → Acquisition IQPulse :=
  let l := resultLabel part k "readout.result"
  fun
  | .threshold _ delay ws limit old => .threshold l delay ws limit (if isTrue fb then s!"{part}__feedback" else old)
  | .integration _ delay ws => .integration l delay ws
  | x => x

variable (k fb acquire : Value)

def singleProbe : Build Nat := do
  match self.prepared with
  | .readout pulse acq span =>
    let l ← Site.probeLine ⟨← station, self.operation, self.name, self.locus⟩
    let acqs := if isTrue acquire then [labelled part k fb acq] else []
    put (← triggerBox self part (triggerOf pulse (startDeadTime l) span acqs))
  | .probe pulse span => put (← triggerBox self part (triggerOf pulse 0 span []))
  | _ => fail .noAttr

def isProbeOnly := self.design.family matches .probeOnly _

def completeProbe (fb : Value) : Build Unit := do
  let station ← station
  let lineOf (part : String) := station.chip.probeLineOf.named part
  let own := Names.ofList (self.locus ++ [← lineOf (← firstOf self)])
  setBlocked number own
  if isTrue fb && !isProbeOnly self then
    for line in Names.ofList (← liftM (self.locus.mapM lineOf)) do
      let chs ← station.feedbackChannels line
      changeBox number fun b => { b with blocked := b.blocked.update 0 own (·.union chs) }

/-- What was made for the same values before, or else something new, which is entered. -/
def remembered (known : List (Values × Nat)) (vs : Values)
    (enter : Values × Nat → Implementation → Implementation) (make : Build Nat) : Build Nat := do
  if !vs.all Value.isFixed then fail .type
  if let some (_, n) := known.find? (Value.equalItems ·.1 vs) then return n
  let n ← make
  changeImpl self.number (enter (vs, n))
  pure n

def rememberedProbe (make : Build Nat) :=
  remembered self self.probes [k, fb, acquire] (fun e self => { self with probes := self.probes ++ [e] }) do
    let n ← make
    completeProbe self n fb
    pure n

def probeOfSingle := rememberedProbe self k fb acquire do singleProbe self (← firstOf self) k fb acquire

def probeOf : Build Nat := do
  if self.locus.length = 1 then probeOfSingle self k fb acquire
  else rememberedProbe self k fb acquire do
    let ps ← self.locus.mapM fun p => do
      let p ← single self p
      if p.locus.length ≠ 1 then fail .noAttr
      probeOfSingle p k fb acquire
    onShelf (sum ps)

def isShelved (self : Implementation) := self.design.family matches .measure _ true

variable (self : Implementation) (k fb : Value)

def shelvedProbe := do
  let middle ← probeOf self k fb (.bool true)
  let gs ← self.locus.mapM fun p => do
    perform (← implementNamed "prx_12" [p] none false false none) { positional := [.float pi] }
  let around := Group.many (gs.flatMap Group.numbers)
  single? .type (← onShelf (do add (← add around (.one middle)) around))

def callMeasure : Build Nat := do
  let l := s!"Readout on {Text.quotedTuple self.locus}"
  let blockedAs (n : Nat) (probe : Timebox) : Build Nat := do
    setBlocked n (← probe.blocked.need 0)
    pure n
  if isShelved self then
    let cs := (← tree (← shelvedProbe perform self k fb)).children
    blockedAs (← compose (cs.filterMap (·.number.map .box)) l) (← require .index cs[self.locus.length]?)
  else
    let probe ← probeOf self k fb (Value.bool (!isProbeOnly self))
    blockedAs (← compose [.box probe] l) (← box probe)

def readoutName := do (← (← station).lines.named part).named "readout"

def callTrace (k : Value) : Build Nat := do
  let .trace pulse integ delay len span := self.prepared | fail .noAttr
  let p ← firstOf self
  let m ← readoutName p
  let trace := Acquisition.timeTrace (resultLabel p k "readout.time_trace") delay len
  let t := triggerOf pulse (startDeadTime (← (← station).channel m)) span [integ, trace]
  let l := titleOf self
  let n ← compose [.box (← put (probe (.readout t) m [p] l [] 0))] l
  setBlocked n [p]
  pure n

def withTrace (line : Channel) (l : String) (delay len : Value) (t : ReadoutTrigger) : Outcome ReadoutTrigger := do
  let whole (v : Value) : Outcome Int := do
    line.toWholeSamples (← require .type v.number?) "Given duration" true
  let start ← match delay, t.acquisitions with
    | .none, [] => fail .invalid
    | .none, x :: xs => pure (xs.foldl (fun least a => min least a.delay) x.delay)
    | v, _ => whole v
  let ends ← t.acquisitions.mapM fun
    | .integration _ delay ws | .threshold _ delay ws _ _ =>
      return Decimal.truncate ws.duration.toFloat + delay - start
    | _ => if len.isNone then fail .noAttr else pure 0
  let n ← match len, ends with
    | .none, [] => fail .invalid
    | .none, x :: xs => pure (xs.foldl max x)
    | v, _ => whole v
  pure { t with acquisitions := t.acquisitions ++ [.timeTrace l start n] }

def traceOf (k delay len fb : Value) : Build Nat :=
  let enter (e : Values × Nat) (self : Implementation) : Implementation := { self with traces := self.traces ++ [e] }
  remembered self self.traces [k, delay, len, fb] enter do
    let probe ← tree (← probeOf self k fb (.bool true))
    let station ← station
    let timeline ← require .noAttr probe.timeline
    let channels ← timeline.channels.mapM fun m seg => do
      match seg.instructions with
      | [] => fail .index
      | .readout t :: xs =>
        let l ← station.channel m
        let owner ← station.componentOf.named m
        let t ← withTrace l (resultLabel owner k "readout.time_trace") delay len t
        pure { seg with instructions := .readout t :: xs }
      | _ => pure seg
    let n ← compose [.box (← put { probe with number := none, timeline := some { timeline with channels } })] ""
    setBlocked n (← probe.blocked.need 0)
    pure n

def callMove (s : Schedule) (affected : Names) : Build Nat := do
  let [q, res] := self.locus | fail .invalid
  let chs ← liftM (self.locus.mapM (← station).driveChannel)
  let markers ← put (boxOf self (onChannels chs [.moveMarker 0 q res (← real self.calibration "detuning")]))
  let ps := blocking affected (boxOf self s)
  compose [.box markers, .box (← put ps)] ps.label

def driveOf := member self "prx" self.locus none

/-- The delay of a feedback signal, and a rotation that is played only if the measured bit is set. -/
def callConditional (angle phase q : Value) : Build (List Nat) := do
  let station ← station
  let p ← firstOf self
  let gen ← station.driveChannel p
  let (ch, is) ← playedBy perform (← driveOf self) { positional := [angle, phase] }
  let pulse ← itemAt is 0
  let choice := Instruction.conditional pulse.duration s!"{q.plain}__feedback" [.wait pulse.duration, pulse]
  let x ← entry (← dataAt (← get).calibration self.operation self.name self.locus) "control_delays"
  let delays ← require .type x.floats?
  if delays.isEmpty then refuse s!"'control_delays' for '{self.name}' on {p} is empty (not calibrated)."
  let ss := (← station.feedbackChannels p).filter (Station.occursIn gen)
  if delays.length ≠ ss.length then
    refuse ("Not the correct amount of calibration values for 'control_delays'. Need "
      ++ s!"{ss.length}values, got {x.plain}.")
  let s ← (if let .text name := q then station.feedbackChannelFor gen name else fail .missing)
  let delay ← require .index delays[(← require .invalid (ss.findIdx? (· == s)))]?
  let l ← station.channel s
  let n ← l.wholeSamples (← l.roundToGranularity delay true false) false
  let signal ← put (blocking [s] (atomic (onChannels [s] [.block n]) [] s!"Feedback signal delay for {p}"))
  let cs := ofChannels [(s, [.block 0]), (ch, [choice])] none
  let a ← put (blocking [s, p] (atomic cs [p] s!"Conditional PRX for {p}"))
  pure [signal, a]

def resetFeedback : Value := .text "__default_feedback"

def resetProbe (locus : Names) (n : Option String) : Build Nat := do
  let measure ← implementation (← member self "measure" locus n)
  let k := Value.text "__reset"
  match measure.design.family with
  | .measure _ true => shelvedProbe perform measure k resetFeedback
  | .measure _ false | .probeOnly _ => probeOf measure k resetFeedback (.bool (!isProbeOnly measure))
  | _ => fail .noAttr

def connectingCouplers := do
  let station ← station
  return if 1 < self.locus.length then station.chip.connectingCouplers self.locus else []

def callReset : Build Nat := do
  let station ← station
  let resettable ← self.locus.filterM fun p =>
    return (← station.lines.named p).contains "drive" && station.chip.probeLineOf.contains p
  let probe ← tryCatch (resetProbe perform self resettable (some "constant_qnd")) fun f =>
    if f.kind == .invalid || f.kind == .missing then resetProbe perform self resettable none else throw f
  let ps ← resettable.mapM fun p => do
    let s ← station.feedbackChannelFor (← station.driveChannel p) p
    let l ← station.chip.probeLineOf.named p
    let g ← perform (← member self "cc_prx" [p] none)
      { named := [("feedback_qubit", .text p), ("feedback_key", resetFeedback)] }
    pure (s, l, g)
  let bs := Names.ofList (self.locus ++ ps.map (·.2.1) ++ ps.map Prod.fst ++ (← connectingCouplers self))
  setBlocked probe bs
  let measure ← compose [.box probe] ""
  setBlocked measure bs
  compose [.box measure, .group (ps.map (·.2.2.nesting))] ""

def waitBox : Build Nat := do
  let own (self : Implementation) : Build Nat := do
    put (← wait self.locus (← real self.calibration "duration") true)
  if self.locus.length = 1 then return ← own self
  let ps ← self.locus.mapM fun p => do
    let p ← single self p
    if p.design.family matches .resetWait then own p else fail .noAttr
  compose (ps.map .box) ""

def callResetWait : Build Nat := do
  let waits ← waitBox self
  let ls := self.locus.filterMap (← station).chip.probeLineOf.get?
  setBlocked waits (((Names.ofList ls).union (← box waits).locus).union (← connectingCouplers self))
  compose [.box waits] ""

def blank : Option Value := some (.text "")

def signatureOf : Family → Signature
  | .barrier => calling "Barrier"
  | .delay => calling "Delay" [("duration", none)]
  | .drive _ style _ =>
    calling (if style = .halves then "PRX_CustomWaveformsSX" else "PRX_SinglePulse_GateImplementation") turn
  | .smoothDrive false => calling "ABC_Constant_smooth" turn
  | .smoothDrive true => { title := "RZ_ACStarkShift_smoothConstant.__call__()" }
  | .virtualFrame => calling "RZ_Virtual" [("angle", none)]
  | .frameFromDrives => { title := "RZ_PRX_Composite.__call__()", names := [("angle", none)] }
  | .starkFrame _ => calling "RZ_ACStarkShift"
  | .quarterTurn => calling "SXGate"
  | .generalRotation => calling "UGate" [("theta", none), ("phi", zero), ("lam", zero)]
  | .flux _ _ isMove => calling (if isMove then "MOVE_CustomWaveforms" else "FluxPulseGate")
  | .starkPair .. => calling "CouplerFluxPulseQubitACStarkPulseGate"
  | .conditionalDrive =>
    { calling "CCPRX_Composite" [("angle", some (.float pi)), ("phase", zero)] with
      namedOnly := [("feedback_qubit", none), ("feedback_key", none)] }
  | .measure _ isShelved => calling ((if isShelved then "Shelved_" else "") ++ "Measure_CustomWaveforms") reading
  | .probeOnly _ => calling "ProbePulse_CustomWaveforms_noIntegration" reading
  | .probeTrace _ => calling "ProbePulse_CustomWaveforms" [("key", blank)]
  | .reset => calling "Reset_Conditional"
  | .resetWait => calling "Reset_Wait"
  | .calibratedPair => { names := [("tag", some .none)] }
  | .crosstalk => { title := "FluxMultiplexer_SampleLinear.__call__()", names := [("to_be_multiplexed", none)] }
  | _ => {}
where
  calling (n : String) (names : Named (Option Value) := []) : Signature := { title := n ++ "._call()", names }
  zero : Option Value := some (.float 0.0)
  turn : Named (Option Value) := [("angle", none), ("phase", zero)]
  reading : Named (Option Value) := [("key", blank), ("feedback_key", blank)]

def callBody (args : Args) : Build Group := do
  let one (work : Build Nat) : Build Group := .one <$> work
  let new (b : Timebox) := one (put b)
  match self.design.family, self.prepared, (← liftM (args.bind (signatureOf self.design.family))) with
  | .barrier, _, _ => new (boxOf self (onChannels ((← station).controlChannels self.locus) [.block 0]))
  | .delay, _, [span] => new (← callDelay self span)
  | .drive _ style _, .pulse ch p, [angle, phase] =>
    new (callDrive self style ch p (← realArg angle) (← realArg phase))
  | .smoothDrive true, .smooth ch rise main fall, _ => new (callSmooth self ch [rise, main, fall] pi 0.0)
  | .smoothDrive false, .smooth ch rise main fall, [angle, phase] =>
    new (callSmooth self ch [rise, main, fall] (← realArg angle) (← realArg phase))
  | .virtualFrame, .frame ch span, [angle] =>
    let angle ← realArg angle
    let n ← (← (← station).channel ch).wholeSamples span
    new (blocking self.locus (channelBox self ch [.virtualRz n (-(Phase.normalise angle))]))
  | .starkFrame _, .pulse ch p, _ => new (channelBox self ch [.iqPulse p])
  | .frameFromDrives, _, [angle] =>
    let drive ← driveOf self
    let before ← rotateY perform drive (.float (pi / 2.0))
    let middle ← rotateX perform drive angle
    one (compose [.box before, .box middle, .box (← rotateY perform drive (.float (-pi / 2.0)))] "")
  | .quarterTurn, _, _ =>
    let (ch, is) ← playedBy perform (← driveOf self) { positional := [.float (pi / 2.0), .float 0.0] }
    new (channelBox self ch [← itemAt is 0])
  | .generalRotation, _, [theta, phi, lambda] =>
    let (ch, is) ← playedBy perform (← driveOf self) { positional := [theta, .float (pi / 2.0)] }
    new (blocking self.locus (channelBox self ch (← framedPulses is (← realArg lambda) (← realArg phi))))
  | .flux _ _ true, .fixed s affected, _ => one (callMove self s affected)
  | .flux _ _ false, .fixed s affected, _ | .starkPair .., .fixed s affected, _ =>
    new (blocking affected (boxOf self s))
  | .conditionalDrive, _, [angle, phase, q, _] => .many <$> callConditional perform self angle phase q
  | .measure .., _, [k, fb] | .probeOnly _, _, [k, fb] => one (callMeasure perform self k fb)
  | .probeTrace _, _, [k] => one (callTrace self k)
  | .reset, _, _ => one (callReset perform self)
  | .resetWait, _, _ => one (callResetWait self)
  | .calibratedPair, _, _ =>
    let drive ← driveOf self
    one (onShelf (plus (← rotateX perform drive (.float 3.0)) (← rotateX perform drive (.float 3.0))))
  | _, _, _ => fail .type

def callDepth := 24

def callWithin : Nat → Nat → Args → Build Group
  | 0, _, _ => fail (.other "RecursionError")
  | depth + 1, n, args => do
    let self ← implementation n
    let k := args.key
    let isFree := self.design.family matches .frameFromDrives | .crosstalk
    if isFree || !args.isRemembered then return ← callBody (callWithin depth) self args
    let isShared := self.design.isComposite || isShelved self
    let shared := (← get).composites.filterMap fun e => if e.1.1 == n then some (e.1.2, e.2) else none
    let known := if isShared then shared else self.calls
    if let some (_, g) := known.find? (Value.equalItems ·.1 k) then return g
    let g ← callBody (callWithin depth) self args
    if isShared then modify fun b => { b with composites := b.composites ++ [((n, k), g)] }
    else changeImpl n fun s => { s with calls := s.calls ++ [(k, g)] }
    pure g

def call (args : Args) := callWithin callDepth number args

/-- The rotations of the quarter-turn group: name, angle, and whether it is around the second axis. -/
def cliffords : List (Int × String × Float × Bool) :=
  [(0, "IDENTITY", 0.0, false), (1, "X_90", pi / 2.0, false), (2, "X_180", pi, false),
   (3, "X_M90", -pi / 2.0, false), (4, "Y_90", pi / 2.0, true), (5, "Y_180", pi, true),
   (6, "Y_M90", -pi / 2.0, true)]

def clifford (g : Int) : Build Nat := do
  let self ← implementation number
  if !self.design.isRotation then fail .noAttr
  let (n, angle, isSecond) ← require .invalid (cliffords.lookup g)
  if let some b := self.cliffords.lookup g then return b
  let b ← (if isSecond then rotateY else rotateX) call number (.float angle)
  let p ← firstOf self
  changeBox b ({ · with label := s!"{n} on {p}" })
  changeImpl number fun s => { s with cliffords := (g, b) :: s.cliffords }
  pure b

def method (n : String) (args : Args) : Build Group := do
  let self ← implementation number
  let probeNames (acquire : Bool) : Named (Option Value) :=
    [("key", blank), ("feedback_key", blank), ("do_acquisition", some (.bool acquire))]
  let given (sig : Signature) := liftM (args.bind sig)
  .one <$> match n, self.design.family with
  | "rx", _ | "ry", _ => do
    if !self.design.isRotation then fail .noAttr
    let [angle] ← given { names := [("angle", none)] } | fail .type
    (if n = "rx" then rotateX else rotateY) call number angle
  | "probe_timebox", .measure _ true => do
    let names := probeNames true ++ [("_skip_override", some (.bool false))]
    let [k, fb, acquire, skip] ← given { names } | fail .type
    if isTrue skip then probeOf self k fb acquire else shelvedProbe call self k fb
  | "probe_timebox", .measure .. | "probe_timebox", .probeOnly _ => do
    let isOpen := !isProbeOnly self
    let [k, fb, acquire] ← given { names := probeNames isOpen, isOpen } | fail .type
    probeOf self k fb acquire
  | "time_trace", .measure .. => do
    let names := [("key", blank), ("acquisition_delay", some .none), ("acquisition_duration", some .none),
      ("feedback_key", blank)]
    let [k, delay, len, fb] ← given { names } | fail .type
    traceOf self k delay len fb
  | "wait_box", .resetWait => do
    let _ ← given {}
    waitBox self
  | _, _ => fail .noAttr

def pulseSeconds (ch : String) (span : Number) := do
  if span == 0 then return 0.0
  (← (← station).channel ch).toSeconds span

def durationInSeconds (n : Nat) : Build Float := do
  let self ← implementation n
  let unknown : Fault := .because .unsupported ""
  match self.design.family, self.prepared with
  | .barrier, _ => pure 0.0
  | .drive .., .pulse ch p | .starkFrame _, .pulse ch p => pulseSeconds ch p.duration
  | .virtualFrame, .frame _ span => pure span
  | .flux .., .fixed s _ | .starkPair .., .fixed s _ =>
    if s.duration == 0 then return 0.0
    pulseSeconds (← itemAt s.channels.keys 0) s.duration
  | .measure _ true, _ =>
    discard (shelvedProbe call self (.text "") (.text ""))
    fail .noAttr
  | .measure _ false, _ | .probeOnly _, _ =>
    let probe ← probeOf self (.text "") (.text "") (.bool (!isProbeOnly self))
    (← require .noAttr (← box probe).timeline).durationInSeconds (← station).channels
  | .probeTrace _, _ =>
    let .one n ← call n {} | throw unknown
    let tl ← require .noAttr (← require .index (← tree n).children.head?).timeline
    (← (← station).channel (← readoutName (← firstOf self))).toSeconds tl.duration
  | .resetWait, _ =>
    let times ← self.locus.mapM fun part => do
      let part ← implementation (← implementNamed self.operation [part] (some self.name) false false none)
      real part.calibration "duration"
    let x :: rest := times | fail .invalid
    return rest.foldl (fun most time => if most < time then time else most) x
  | _, _ => throw unknown

end Transmon.Build
