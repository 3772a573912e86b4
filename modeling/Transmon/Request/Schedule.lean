import Transmon.Form.Schedule
import Transmon.Playlist.Assembly
import Transmon.Playlist.Record
import Transmon.Schedule.Location
import Transmon.Schedule.Overlap

/-!
Requests that work on schedules by name, and on a cursor.
-/

namespace Transmon

namespace Request.Schedules

open Form Schedule

structure State where
  schedules : Table String Schedule
  channels : Channels
  busy : Busy

variable (r : Json)

def start : Outcome State := do
  let ds := r.group "durations"
  let schedules ← (← needAs r "schedules" toFields).mapM fun e =>
    return (e.1, ← toSchedule e.2 (← (ds.field? e.1).mapM toNum))
  let chs ← toChannels (r.group "channels")
  let busy ← fieldsOf (r.group "component_durations") toNum
  pure ⟨⟨schedules⟩, chs, ⟨busy⟩⟩

def store (n : String) (sc : Schedule) : Action State Unit :=
  modify fun s => { s with schedules := s.schedules.insert n sc }

def changed (n : String) (s : Schedule) (r : Json := .null) : Action State Json := do
  store n s
  pure [("result", r), ("schedule", Form.schedule s)]

def location (l : Location) : Json := .array [l.channel, l.index, number l.duration]

def extendStep (step : Json) (n : String) (s : Schedule) : Action State Json := do
  let x := do
    let otherName ← needText step "other"
    (← get).schedules.need otherName
  let back := boolD step "alap" false
  match verb step with
  | "extend_schedule" =>
    let extension ← x
    store (← needText step "other") extension.measured
    changed n (← (← (← get).schedules.need n).extendOverlapping extension (← get).channels tol)
  | "extend_schedule_new" => changed n (← s.extendMerging (← x) (← get).channels tol)
  | "extend_hard_boundary" | "extend_hard_boundary_in_seconds" =>
    let (y, ps, near) := (← x, ← needTexts step "components", ← needTexts step "neighborhood")
    let st ← get
    let (fresh, busy) ← if verb step = "extend_hard_boundary" then
        s.extendHardBoundary y ps near st.busy back
      else s.extendHardBoundaryInSeconds y ps near st.busy back st.channels
    set { st with busy }
    changed n fresh (.table busy.entries number)
  | _ => fail .missing

def wholeStep (step : Json) (n : String) (s : Schedule) : Action State Json := do
  let stored (fresh : Schedule) : Action State Json := do
    store n s.measured
    changed (← needText step "as") fresh
  match verb step with
  | "add_channels" => changed n (s.addChannels (← needTexts step "channels"))
  | "copy" => stored s.measured
  | "reverse" => stored s.reverse
  | "reverse_hard_box" => stored s.reverseHardBox
  | "front_pad" => changed n (← s.frontPad (← needAs step "to" toNum))
  | "front_pad_in_seconds" => changed n (← s.frontPadInSeconds (← needFloat step "to") (← get).channels)
  | "pad" => changed n s.padToHardBox
  | "pad_in_seconds" => changed n (← s.padToHardBoxInSeconds (← get).channels)
  | "cleanup" => changed n s.cleanup
  | _ => extendStep step n s

def segmentStep (step : Json) (n : String) (s : Schedule) : Action State Json := do
  let ch := needText step "channel"
  match verb step with
  | "append" =>
    let i ← needAs step "instruction" toInstr
    changed n (← s.append (← ch) i)
  | "extend" =>
    let is ← needAs step "instructions" toInstrs
    changed n (← s.extend (← ch) is)
  | "segment_append" | "segment_prepend" =>
    let ch ← ch
    let seg ← s.segment ch
    let i ← needAs step "instruction" toInstr
    changed n (s.setSegment ch (if verb step = "segment_append" then seg.append i else seg.prepend i))
  | "segment_pop" =>
    let ch ← ch
    let (i, xs) ← require .index ((← s.segment ch).pop? (← intD step "index" (-1)))
    changed n (s.setSegment ch xs) (instruction i)
  | "segment_set" =>
    let is ← needAs step "instructions" toInstrs
    let seg := if let some d := (← given? step "duration" toNum) then ⟨is, d⟩ else .ofInstructions is
    changed n (s.setSegment (← ch) seg)
  | "merge_waits" =>
    let ch ← ch
    changed n (s.setSegment ch (mergeWaits (← s.segment ch)))
  | "replace" =>
    let is ← needAs step "instructions" toInstrs
    changed n (← s.replace (← ch) (← needInt step "index") is)
  | _ => wholeStep step n s

def readStep (step : Json) (n : String) (s : Schedule) : Action State Json := do
  match verb step with
  | "duration" => store n s.measured; return number s.duration
  | "duration_in_seconds" => float <$> s.durationInSeconds (← get).channels
  | "pprint" =>
    let unit ← toNum (step.get "time_unit" (.int 16))
    store n s.measured
    return ← s.draw unit
  | "channels" => pure [("channels", texts s.channels.keys), ("length", s.channels.size)]
  | "has_content_in" => return s.hasContentIn (← needTexts step "channels")
  | "validate" => return s.validationReport (← textsD step "path" [])
  | "print" => return ← s.list
  | "print_channel" => return ← s.listChannel (← needText step "channel")
  | "locate" =>
    let k ← require .missing (InstrKind.ofName? (← needText step "type"))
    let least ← toNum (step.get "min_duration" (.int 0))
    return .list (← s.locate k least (← given? step "channels" toTexts)) location
  | "find_waits" =>
    let chs ← needTexts step "channels"
    let least ← needAs step "min_duration" toNum
    return .list (← s.findWaits chs least (boolD step "skip_leading" true) (boolD step "skip_trailing" true)) location
  | "segment_get" =>
    return instruction (← require .index ((← s.segment (← needText step "channel")).get? (← needInt step "index")))
  | _ => segmentStep step n s

def step : Action State Json := do
  let n ← needText r "s"
  readStep r n (← (← get).schedules.need n)

def answer := stopping r (start r) step

def cursorOf : Outcome Cursor :=
  return ⟨← needAs r "source" toInstrs, ← needInt r "idx", ← needFloat r "tol", ← floatD r "frac" 0.0⟩

def cursorStep (s : Json) (c : Cursor) : Outcome (Json × Cursor) := do
  match verb s with
  | "get" => pure (instruction (← c.get), c)
  | "remainder" => pure (float (← c.remainder), c)
  | "next" => pure (c.next.isDone, c.next)
  | "cut_tail" => pure (.null, c.cutTail)
  | "tail" => pure (c.tail.map instruction, c)
  | "rewind" => pure (.null, ← c.rewind (← needFloat s "duration"))
  | "fastforward" =>
    let (done, moved) ← c.forward (← needFloat s "duration")
    pure (done, moved)
  | _ => fail .missing

def cursor :=
  stopping r (cursorOf r) fun s => do
    let (r, c) ← cursorStep s (← get)
    set c
    return [("result", r), ("idx", c.index), ("frac", float c.elapsed), ("length", c.source.length)]

end Request.Schedules

/-!
Requests that build time boxes by name.
-/

namespace Request.Timeboxes

open Form
open Timebox (Group Nesting Shelf Shelving Strategy Algorithm atomic probe)

structure State where
  shelf : Shelf := #[]
  named : Table String Group := ∅

def onShelf {α : Type} : Shelving α → Action State α := .within State.shelf fun shelf s => { s with shelf }

def named (n : String) : Action State Group := do (← get).named.need n

def groupForm (s : Shelf) : Group → Json
  | .one n => timebox (s.tree n)
  | .many ns => .list ns fun n => timebox (s.tree n)

variable (find : String → Option Group)

def toGroup : Json → Outcome Group
  | .text n => require .missing (find n)
  | .array xs => do
    let gs ← xs.mapM fun x => do require .missing (find (← toText x))
    return .many (gs.flatMap Group.numbers)
  | _ => fail .type

def toNesting (find : String → Option Group) : Nat → Json → Outcome Nesting
  | _, .text n => do return (← require .missing (find n)).nesting
  | depth + 1, .array xs => .group <$> xs.mapM (toNesting find depth)
  | _, _ => fail .type

def composeStep (s : Json) : Outcome (Shelving Nat) := do
  let xs := match ← toNesting find 60 (← need s "boxes") with
    | .group xs => xs
    | single => [single]
  let st ← require .missing (Strategy.ofName? (textD s "scheduling" "ASAP"))
  let algo ← require .missing (Algorithm.ofName? (textD s "algorithm" "HARD_BOUNDARY"))
  return .compose xs (textD s "label" "") st algo

def probeBox (s : Json) : Outcome Timebox := do
  let b := probe (← needAs s "trigger" toInstr) (← needText s "channel") (← needTexts s "locus") (textD s "label" "")
    (← textsD s "block_channels" []) (← toNum (s.get "block_duration" (.int 0)))
  let blocked ← (← toFields (s.group "neighborhood")).mapM fun e =>
    return (← require .invalid e.1.toInt?, .ofList (← toTexts e.2))
  pure { b with blocked := b.blocked.insertMany blocked }

def store (step : Json) (g : Group) : Action State Json := do
  if let some n := text? step "as" then modify fun s => { s with named := s.named.insert n g }
  return groupForm (← get).shelf g

def step (r : Json) : Action State Json := do
  let find := (← get).named.get?
  let operand (m : String) : Action State Group := do toGroup find (← need r m)
  match verb r with
  | "atomic" =>
    let b := atomic (← toSchedule (← need r "schedule") none) (← needTexts r "locus") (← needText r "label")
    store r (.one (← onShelf (.put b)))
  | "probe" => store r (.one (← onShelf (.put (← probeBox r))))
  | "composite" => store r (.one (← onShelf (← composeStep find r)))
  | "add" => store r (← onShelf (.add (← operand "a") (← operand "b")))
  | "iadd" => store r (← onShelf (.extend (← operand "a") (← operand "b")))
  | "or" => store r (← onShelf (.beside (← operand "a") (← operand "b")))
  | x =>
    match ← operand "a" with
    | .many ns =>
      if x != "item" then fail .noAttr
      let place := Segment.position? ns.length (← needInt r "index")
      store r (.one (← require .index (place.bind (ns[·]?))))
    | .one n =>
      match x with
      | "asap" | "alap" =>
        let strategy := if x = "asap" then .asap else .alap
        onShelf (.change n ({ · with strategy }))
        store r (.one n)
      | "item" =>
        let c ← ((← get).shelf.tree n).child (← needInt r "index")
        store r (.one (← require .missing c.number))
      | "validate" => return ((← get).shelf.tree n).validationReport []
      | "print" => return ((← get).shelf.tree n).outline ""
      | _ => fail .missing

def answer (r : Json) := stopping r (.ok {}) step

end Request.Timeboxes

/-!
Requests that build, write and check a playlist.
-/

namespace Request.Playlists

open Form
open Transmon.Playlist (Description)

structure State where
  descriptions : List Description := []
  named : Table String Nat := ∅
  played : Table String Nat := ∅
  segments : List Playlist.Segment := []
  opened : Playlist.Segment := ∅

def State.description? (s : State) (n : Nat) := s.descriptions[n]?

def State.playlist (s : State) : Playlist :=
  { channels := ⟨s.played.entries.filterMap fun e => (s.description? e.2).map fun d => (e.1, d)⟩
    segments := s.segments }

variable (r : Json)

def start : Outcome State := do
  let chs ← (← needAs r "channels" toFields).mapM fun e =>
    return ({ configuration := ← toConfig e.2, name := e.1 } : Description)
  return { descriptions := chs
           named := .ofList (chs.zipIdx.map fun (d, i) => (d.name, i)) }

def channelOf (step : Json) : Action State (Nat × Description) := do
  let s ← get
  let n ← s.named.need (← needText step "channel")
  pure (n, ← require .missing (s.description? n))

def replace (n : Nat) (d : Description) : Action State Unit :=
  modify fun s => { s with descriptions := s.descriptions.set n d }

def added (s : Json) : Action State (Nat × Description) := do
  let (n, d) ← channelOf s
  let (d, o) := d.add (← needAs s "instruction" toCommand)
  replace n d
  pure (← o, d)

def play (n : Nat) (d : Description) : Action State Unit := do
  let _ ← (← get).playlist.addChannel d
  modify fun s => { s with played := s.played.insert d.name n }

def entered (i : Nat) (d : Description) : Json := .object [("index", i), ("table", description d)]

def step : Action State Json := do
  match verb r with
  | "add_instruction" =>
    let (i, d) ← added r
    return entered i d
  | "add_acquisition" =>
    let (n, d) ← channelOf r
    let (d, o) := d.addCapture (← needAs r "acquisition" toCapture)
    replace n d
    return entered (← o) d
  | "add_channel" =>
    let (n, d) ← channelOf r
    play n d
    pure .null
  | "new_channel" =>
    let d : Description ← (do pure { configuration := ← needAs r "config" toConfig, name := ← needText r "name" })
    let n := (← get).descriptions.length
    modify fun s => { s with descriptions := s.descriptions ++ [d] }
    play n d
    pure .null
  | "segment_add" =>
    let (i, d) ← added r
    modify fun s => { s with opened := s.opened.update d.name [] (· ++ [i]) }
    return references (← get).opened
  | "end_segment" =>
    modify fun s => { s with segments := s.segments ++ [s.opened], opened := ∅ }
    return (← get).segments.length
  | "describe" => return playlist (← get).playlist
  | "summary" => return ← (← get).playlist.summary
  | "pack" => bytes <$> (← get).playlist.pack
  | "round_trip" => playlist <$> Playlist.unpack (← (← get).playlist.pack)
  | "unpack" => playlist <$> Playlist.unpack (← needAs r "hex" toBytes)
  | "validate" =>
    let dev ← needAs r "constraints" toChannels
    (← get).playlist.check dev
    pure .null
  | "validate_awg" =>
    let st ← get
    let x ← need r "constraints"
    let constraints : Playlist.Constraints ← (do
      pure ⟨← needFloat x "rate", ← needInt x "gran", ← needInt x "min",
        ← toCommandKinds (← needTexts x "compatible")⟩)
    Playlist.checkCtrl ((st.named.get? (← needText r "channel")).bind st.description?) constraints
    pure .null
  | _ => fail .missing

def answer := continuing r (start r) step

end Request.Playlists

end Transmon
