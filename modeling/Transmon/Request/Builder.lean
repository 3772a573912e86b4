import Transmon.Form.Client
import Transmon.Form.Compiler
import Transmon.Request.Schedule

/-!
Requests to a schedule builder.
-/

namespace Transmon.Request.Builders

open Form Build Timeboxes Calibration
open Timebox (Group Nesting Shelving)

inductive Thing
  | implementation (number : Nat)
  | boxes (group : Group)
  | timeline (timeline : Timeline)
  | playlist (playlist : Playlist)

structure State where
  builder : Builder
  named : Table String Thing := ∅

def build {α : Type} : Build α → Action State α := .within State.builder fun builder s => { s with builder }

variable (r : Json)

def start : Outcome State := do
  let st ← needAs r "station" toStation
  let cal := r.group "calset"
  if boolD r "initialize" false then
    pure { builder := ← Compiler.builderFor st Operation.library (← toObs cal) }
  else
    pure { builder := ← Builder.make st (← Operation.withDefs (← toDefs (r.group "ops"))) (← toCalTree cal) }

def thing (n : String) : Action State Thing := do (← get).named.need n

def implOf : Action State Nat := do
  let .implementation n ← thing (← needText r "impl") | fail .noAttr
  pure n

def groupNamed? (s : State) (n : String) := if let some (.boxes g) := s.named.get? n then some g else none

def groupOf (field : String) : Action State Group := do toGroup (groupNamed? (← get)) (← need r field)

def boxOf := do
  let .one n ← groupOf r "box" | fail .noAttr
  pure n

def timelineOf : Json → Action State Timeline
  | .text n => do
    let .timeline tl ← thing n | fail .noAttr
    pure tl
  | j => do build (own (← toSchedule j none))

def playlistOf : Action State Playlist := do
  let .playlist p ← thing (← needText r "playlist") | fail .noAttr
  pure p

def store (made : Thing) : Action State Unit := do
  let some n := text? r "as" | return
  modify fun s => { s with named := s.named.insert n made }

def showBoxes (g : Group) : Action State Json := do
  store r (.boxes g)
  return groupForm (← get).builder.shelf g

def showBox (work : Build Nat) : Action State Json := do showBoxes r (.one (← build work))

def showTimeline (t : Timeline) : Action State Json := do
  store r (.timeline t)
  schedule <$> build (contents t)

def showPlaylist (work : Build Playlist) : Action State Json := do
  let made ← build work
  store r (.playlist made)
  return playlist made

def locusOf := needTexts r "locus"

variable (builder : Builder)

def opOf := do builder.operations.need (← needText r "op")

variable (c : Chip.Topology) (d : Gate.Design)

def customMapping :=
  match d.family with
  | .crosstalk => sortedPairs [("", "")]
  | .resetWait => sortedPairs (c.all.map fun p => (p, p))
  | _ => .null

def designForm (o i : String) : Json :=
  .object
    [("class", d.name), ("symmetric", d.isSymmetric), ("special", d.isSpecial),
     ("needs_calibration", d.needsCal),
     ("parameters", .table d.params params),
     ("locus_mapping", d.lociName o i),
     ("custom_mapping", customMapping c d)]

def register : Action State Json := do
  let g ← needText r "gate"
  let n ← needText r "impl"
  let d ← require .missing (Gate.Design.find? (← needText r "class"))
  let as ← given? r "specs" fun specs => do toAttrs (← toFields specs)
  let s ← get
  let (t, o) := Operation.register s.builder.operations g n d
    (boolD r "set_as_default" false) (boolD r "overwrite" false) as
  set { s with builder.operations := t }
  o
  return operations (t.filter fun k _ => k == g)

def priorityOf : Outcome (Option Priority) := do
  match present? r "priority", present? r "priority_calset" with
  | some data, _ => return some (.data ((← toFields data).map fun e => (e.1, toCal e.1 e.2)))
  | none, some cal => return some (.tree (← toCalTree cal))
  | none, none => pure none

def implement (isShortcut : Bool) : Action State Json := do
  let o ← needText r "op"
  let b := (← get).builder
  if isShortcut then
    if !b.operations.contains o then refuse s!"No operation found with the name {o} in ``self.op_table``."
    if !b.shortcuts.contains o then fail .noAttr
  let n ← build (implementNamed o (← locusOf r) (text? r "impl")
    (boolD r "use_priority_order" false) (boolD r "strict_locus" false) (← priorityOf r))
  let made ← build (implementation n)
  let same := (← get).named.entries.find? fun e =>
    match e.2 with
    | .implementation x => x == n
    | _ => false
  store r (.implementation n)
  return .object
    [("class", made.design.name), ("name", s!"{made.operation}.{made.name}"),
     ("locus", texts made.locus), ("calibration", calData made.calibration),
     ("same_as", optText (same.map Prod.fst))]

def argsOf : Args :=
  { positional := (r.get "args").items.map toArg
    named := toArgEntries (r.get "kwargs").fields }

def mappingOf := do
  let some j := present? r "mapping" | return []
  fieldsOf j toText

def boxesOf : Action State (List Nat) := do
  match ← need r "boxes" with
  | .array xs =>
    xs.mapM fun x => do
      let .one n ← toGroup (groupNamed? (← get)) x | fail .noAttr
      pure n
  | y => return (← toGroup (groupNamed? (← get)) y).numbers

def rulesOf : Outcome (List Build.DecouplingRule) := do
  let x ← needList r "sequences" fun
    | .array [ratio, pat, align] => do pure (← toNum ratio, pat, ← toText align)
    | _ => fail .type
  (x.mergeSort fun a b => b.1 ≤ a.1).mapM fun (ratio, pat, align) => do
    let rs ← match pat with
      | .text s => Schedule.Decoupling.ofPattern s
      | y => listOf y (pairOf toFloat toFloat)
    pure ⟨ratio, rs, align⟩

def playlistStep : Action State Json := do
  match verb r with
  | "playlist" => showPlaylist r (playlistOfBoxes (← boxesOf r) (← intD r "neighborhood" 1))
  | "front_padded_playlist" => showPlaylist r (paddedPlaylist (← boxesOf r) (← intD r "neighborhood" 0))
  | "build_playlist" =>
    showPlaylist r (.playlistOf (← (← needAs r "schedules" toItems).mapM timelineOf) (boolD r "finish" true))
  | "pack" => bytes <$> (← playlistOf r).pack
  | "round_trip" => playlist <$> Playlist.unpack (← (← playlistOf r).pack)
  | "validate_playlist" =>
    let compatible ← toKinds (← textsD r "compatible" [])
    (← playlistOf r).check (builder.station.channels.map fun _ ch => { ch with compatible })
    pure .null
  | "validate_circuit" =>
    Circuit.check builder.operations (boolD r "require_measurements" false) (← needAs r "ops" toSteps)
    pure .null
  | "move_validate" =>
    let ss ← needAs r "ops" toSteps
    Circuit.checkMoves builder.station.chip (boolD r "validate_prx" true) ss
    pure ss.length
  | _ => fail .missing

def scheduleStep : Action State Json := do
  let st := builder.station
  let x := do timelineOf (← need r "schedule")
  match verb r with
  | "resolve" =>
    let b ← boxOf r
    let range ← needInt r "neighborhood"
    showTimeline r (← build (.timelineOf b range (boolD r "compute" false)))
  | "to_schedule" =>
    let b ← boxOf r
    let range ← intD r "neighborhood" 1
    showTimeline r (← build (do .finish (← .timelineOf b range false)))
  | "schedule" => showTimeline r (← x)
  | "block" =>
    let tl ← x
    let (locus, range) ← (return (← locusOf r, ← needInt r "neighborhood"))
    build (blockSurroundings tl (.ofList locus) range)
    showTimeline r tl
  | "finish" => showTimeline r (← build (finish (← x)))
  | "move_corrections" =>
    showTimeline r (← build (own (← (← build (contents (← x))).correctMoves st (boolD r "detuning" true))))
  | "merge_waits" => showTimeline r (← build (own (withJoinedWaits st (← build (contents (← x))))))
  | "dd" =>
    let tl ← x
    let rules ← rulesOf r
    let t ← given? r "target" toTexts
    let contents ← build (contents tl)
    let _ ← build (decouple (write tl) rules t (boolD r "skip_leading" true) (boolD r "skip_trailing" true) contents)
    showTimeline r tl
  | _ => playlistStep r builder

def boxStep : Action State Json := do
  match verb r with
  | "impl" => implement r false
  | "shortcut" => implement r true
  | "call" => showBoxes r (← build (call (← implOf r) (argsOf r)))
  | "clifford" => showBox r (clifford (← implOf r) (← needInt r "gate"))
  | "method" => showBoxes r (← build (method (← implOf r) (← needText r "method") (argsOf r)))
  | "flux_multiplex" => showBox r (multiplexFlux (← implOf r) (← groupOf r "boxes"))
  | "duration_in_seconds" => float <$> build (durationInSeconds (← implOf r))
  | "circuit" =>
    let ss ← needAs r "ops" toSteps
    let algo ← require .missing (Timebox.Algorithm.ofName? (textD r "algorithm" "HARD_BOUNDARY"))
    showBox r (circuitBox ss (textD r "name" "") algo (← mappingOf r))
  | "circuit_gate" =>
    let ss ← needAs r "ops" toSteps
    let box ← showBox r (circuitGate ss (← mappingOf r) (← locusOf r))
    pure [("gates", names (.ofList (ss.map Circuit.Step.name))), ("box", box)]
  | "wait" =>
    let (locus, span) ← (return (← locusOf r, ← needFloat r "duration"))
    showBox r (do put (← wait locus span (boolD r "rounding" false)))
  | "box" => showBox r (put (.atomic (← toSchedule (← need r "schedule") none) (← locusOf r) (textD r "label" "")))
  | "composite" => showBox r (onShelf (← composeStep (groupNamed? (← get)) r))
  | "add" =>
    let (a, b) := (← groupOf r "a", ← groupOf r "b")
    showBoxes r (← build (onShelf (.add a b)))
  | "show" => return groupForm (← get).builder.shelf (← groupOf r "box")
  | _ => scheduleStep r builder

def opStep : Action State Json := do
  let changed (o : Operation) : Action State Unit :=
    modify fun s => { s with builder.operations := s.builder.operations.insert o.name o }
  let place : Outcome (String × String × Names) := return (← needText r "op", ← needText r "impl", ← locusOf r)
  match verb r with
  | "op_table" => return operations builder.operations
  | "set_default" =>
    let o ← (← opOf r builder).setDefault (← needText r "impl")
    changed o
    return texts o.implementations.keys
  | "set_default_for_locus" =>
    let o ← (← opOf r builder).setLocalDefault (← needText r "impl") (← locusOf r)
    changed o
    return localDefaults o
  | "default_for_locus" => return ← (← opOf r builder).defaultAt (← locusOf r)
  | "register" => register r
  | "impl_class" =>
    let n ← needText r "op"
    let i := text? r "impl"
    return designForm builder.station.chip (← build (designOf n i)) n (i.getD "")
  | "has_calibration" =>
    let (op, i, locus) ← place
    return hasDataAt builder.calibration op i locus
  | "get_calibration" =>
    let (op, i, locus) ← place
    calData <$> dataAt builder.calibration op i locus
  | "calibration" => return calTree builder.calibration
  | "inject" =>
    build (inject (← needAs r "calset" toCalTree))
    pure .null
  | "validate_calibration" =>
    check builder.calibration builder.operations
    pure .null
  | _ => boxStep r builder

def step : Action State Json := do
  let b := (← get).builder
  let st := b.station
  let p := needText r "component"
  match verb r with
  | "channels" => pure [("channels", channels st.channels), ("component_channels", lines st.lines)]
  | "drive_channel" => return ← st.driveChannel (← p)
  | "flux_channel" => return ← st.fluxChannel (← p)
  | "probe_channel" => return ← st.probeChannel (← p)
  | "feedback_channels" => texts <$> st.feedbackChannels (← p)
  | "feedback_channel_for" => return ← st.feedbackChannelFor (← needText r "awg") (← needText r "qubit")
  | "control_channels" => return texts (st.controlChannels (← locusOf r))
  | _ => opStep r b

def answer := continuing r (start r) step

end Transmon.Request.Builders
