import Transmon.Remote.Station

/-!
A server that runs jobs on several quantum computers.
-/

namespace Transmon.Remote

open Wire

structure Procedure where
  name : String
  isStream : Bool := false

structure Service where
  name : String
  procedures : List Procedure

def Service.all : List Service :=
  [⟨"QuantumComputers",
      [⟨"GetQuantumComputerV1", false⟩, ⟨"ListQuantumComputersV1", false⟩, ⟨"GetQuantumComputerResourceV1", true⟩]⟩,
   ⟨"Calibrations",
      [⟨"GetLatestQuantumComputerCalibrationV1", false⟩, ⟨"GetCalibrationV1", false⟩,
       ⟨"GetFullCalibrationDataV1", true⟩]⟩,
   ⟨"Jobs",
      [⟨"SubmitJobV1", false⟩, ⟨"GetJobV1", false⟩, ⟨"SubscribeToJobV1", true⟩, ⟨"GetJobPayloadV1", true⟩,
       ⟨"GetJobResultsV1", true⟩, ⟨"CancelJobV1", false⟩]⟩]

def Service.fullName (s : Service) := "iqm.server." ++ s.name

def Service.path (s : Service) (p : Procedure) := s!"/{s.fullName}/{p.name}"

structure Params where
  address : String
  isSecure : Bool
  computer : String
  usesTimeslot : Bool

def Params.cut (ms : Chars) (cs : Chars) : Chars × Chars :=
  (cs.takeWhile (!ms.contains ·), cs.dropWhile (!ms.contains ·))

def Params.ofAddress (a : String) : Outcome Params := do
  if a.toList.any (127 < ·.toNat) then refuse "Invalid quantum computer URL"
  let (scheme, xs) ← match a.splitOn "://" with
    | scheme :: xs@(_ :: _) => pure (scheme.toLower, "://".intercalate xs)
    | _ => fail .invalid
  let (authority, tail) := cut ['/', '?', '#'] xs.toList
  let last := String.ofList ((String.ofList (cut ['?', '#'] tail).1).splitOn "/" |>.getLastD "").toList
  let computer := if last.endsWith ":timeslot" then (last.dropEnd 9).toString else last
  if computer.isEmpty then refuse "Invalid quantum computer URL: device name is missing"
  let isSecure := scheme == "https"
  let h := ((String.ofList authority).splitOn "@" |>.getLastD "").toList
  let (n, tail) := if let _ :: bracketed := (cut ['['] h).2 then cut [']'] bracketed else cut [':'] h
  let n := (String.ofList n).toLower
  let port ← match (cut [':'] tail).2.drop 1 with
    | [] => pure 0
    | ds => if ds.all Char.isDigit then pure (Text.number ds) else fail .invalid
  if 65535 < port then fail .invalid
  let n := if n.startsWith "cocos." then (n.drop 6).toString else n
  let port := if port = 0 then if isSecure then 443 else 80 else port
  pure { address := s!"{n}:{port}", isSecure, computer, usesTimeslot := a.endsWith ":timeslot" }

inductive Remark
  | text (content : String)
  | bytes (content : Wire.Bytes)

structure Refusal where
  code : String := "UNKNOWN"
  reason : String := ""
  remarks : Named Remark := []

structure ServerFault where
  msg : Option String
  status : String
  code : Option String := none
  details : Option Json := none

namespace Refusal

mutual

def valueOf : Nat → Msg → Outcome Json
  | 0, _ => fail .undecodable
  | fuel + 1, m =>
    match m.choice [(1, 0), (2, 1), (3, 2), (4, 0), (5, 2), (6, 2)] with
    | some (2, _) => do
      let x := m.double 2
      if x.isFinite then return .float x else fail .invalid
    | some (3, _) => do return ← m.text 3
    | some (4, _) => return m.number 4 != 0
    | some (5, _) => do return ← (← (← m.nested 5).table 1).toList.mapM fun e => do pure (e.1, ← valueOf fuel e.2)
    | some (6, _) => do return ← valuesOf fuel (← (← m.nested 6).msgs 1)
    | _ => pure .null

def valuesOf : Nat → List Msg → Outcome (List Json) | fuel, msgs => msgs.mapM (valueOf fuel)

end

def remark? (r : Refusal) (n : String) := (r.remarks.filter (·.1 == n)).getLast?.map Prod.snd

def told (r : Refusal) (title : Option String) : Outcome ServerFault := do
  let code := (r.remark? "error_code").map fun
    | .text s => s
    | .bytes c => "b'" ++ (text? c).getD "" ++ "'"
  let details ← match r.remark? "grpc-status-details-bin" with
    | some (.bytes c) => if c.isEmpty then pure none else do pure (some (← valueOf 100 (← decode c)))
    | some (.text c) => if c.isEmpty then pure none else fail .type
    | none => pure none
  pure {
    msg := some (if let some title := title.filter (!·.isEmpty) then s!"{title}: {r.reason}" else r.reason)
    status := r.code, code, details }

end Refusal

def ServerFault.text (f : ServerFault) :=
  let m := f.msg.getD ""
  let code := f.code.getD "None"
  s!"{m} (status_code = {f.status}, error_code = {code})"

inductive Sent
  | doc (content : Json)
  | bytes (content : Wire.Bytes)
  | refused (refusal : Refusal)
  | interrupted

inductive ServerAct
  | call (procedure : String) (r : Json)
  | sleep (seconds : Nat)

structure OpenChannel where
  params : Params
  hasToken : Bool

structure ServerConnection where
  web : Connection
  params : Params
  script : Table String (List (List Sent))
  acts : List ServerAct := []
  channel : Option OpenChannel := none
  computer : Json := .null
  docs : Table String Json := ∅
  settings : Option Settings.Tree := none
  controllers : Option (Named Ctrl) := none
  latest : Option SweepDef := none
  progress : List (List Json) := []

inductive Trouble
  | refused (refusal : Refusal)
  | server (fault : ServerFault)
  | other (fault : Fault)

abbrev Dealing := ExceptT Trouble (StateM ServerConnection)

namespace Dealing

instance : MonadLift (Except Fault) Dealing := ⟨fun o => .mk (pure (o.mapError .other))⟩

def onWeb {α : Type} (work : Errand α) : Dealing α :=
  .mk do
    let s ← get
    let (r, web) := work.run.run s.web
    set { s with web }
    return r.mapError .other

variable (procedure : String) (r : Json)

def call : Dealing (List Sent) := do
  let s ← get
  let some (a :: rest) := s.script.get? procedure | throw (.other (.bare .missing))
  let left := if rest.isEmpty then [a] else rest
  set { s with
    script := s.script.insert procedure left
    acts := s.acts ++ [ServerAct.call procedure r] }
  pure a

def msg : Sent → Dealing Json
  | .doc c => pure c
  | .bytes _ => return .object []
  | .refused refusal => throw (.refused refusal)
  | .interrupted => throw (.other (.bare .interrupted))

def ask := do
  let some sent := (← call procedure r).head? | return .object []
  msg sent

def gather : List Sent → Dealing Wire.Bytes
  | [] => pure []
  | .bytes c :: xs => do return c ++ (← gather xs)
  | .doc _ :: xs => gather xs
  | .refused refusal :: _ => throw (.refused refusal)
  | .interrupted :: _ => throw (.other (.bare .interrupted))

def load := do gather (← call procedure r)

def titled {α : Type} (title : String) (work : Dealing α) : Dealing α :=
  tryCatch work fun
    | .refused refusal => do throw (.server (← refusal.told (some title)))
    | .other f =>
      if f.isFailure then
        throw (.server { msg := if f.kind = .invalid then some s!"{title}: {f.text}" else none, status := "INTERNAL" })
      else throw (.other f)
    | .server _ => throw (.server { msg := none, status := "INTERNAL" })

variable (name : String)

def resolve : Dealing Json := do
  let y ← ask "ListQuantumComputersV1" (.object [])
  let some computer := (y.get "items").items.find? (Form.textD · "alias" "" == name)
    | throw (.other (.refuse s!"Quantum computer '{name}' does not exist"))
  pure computer

def connect (hasChannel : Bool) : Dealing Unit := do
  let s ← get
  if !hasChannel then
    let hasToken := if let .none := s.web.bearer then false else true
    set { s with channel := some { params := s.params, hasToken } }
  let computer ← resolve s.params.computer
  modify ({ · with computer })

def computerId : Dealing Json := return (← get).computer.group "id"

def lookUp (id : Uuid) : Json := .object [("id", .object [("raw", Base64.encode (fixed 16 id.value).reverse)])]

def resource : Dealing Wire.Bytes := do
  load "GetQuantumComputerResourceV1" ([("qc_id", ← computerId), ("resource_name", name)])

def docOf (bs : Bytes) := do
  let s ← require .badEncoding (text? (if let 0xef :: 0xbb :: 0xbf :: rest := bs then rest else bs))
  match Json.read s with
  | .ok j => pure j
  | .error e => hint .notJson (e.msg s)

def resourceTitle := s!"Failed to load QC resource '{name}'"

def doc (read : Json → Outcome Json := pure) : Dealing Json :=
  titled (resourceTitle name) do
    keeping (·.docs.get? name) (fun x s => if x.isNull then s
        else { s with docs := s.docs.insert name x }) do
      read (← docOf (← resource name))

def recordsOf : Json → Outcome Json
  | .array xs => do return ← xs.mapM anyRecord
  | x => pure x

def settings : Dealing Transmon.Settings.Tree :=
  titled (resourceTitle "settings") do
    keeping (·.settings) (fun t s => { s with settings := some t }) do
      Transmon.Settings.unpackTree Settings.maxDepth (← read Settings.schema "SettingNode" (← resource "settings"))

def controllers : Dealing (Named Ctrl) :=
  titled (resourceTitle "channel-properties") do
    keeping (·.controllers) (fun x s => { s with controllers := some x }) do
      Ctrl.unpackAll true (← read Ctrl.schema "ChannelPropertyDictionary" (← resource "channel-properties"))

variable (doc : Json)

def idOf : Outcome Uuid :=
  match doc.field? "str", doc.field? "raw" with
  | some (.text s), _ => Uuid.ofText s
  | _, some (.text s) => do
    let bs ← require .invalid (Base64.decode? s)
    if bs.length = 16 then return ⟨ofFixed bs.reverse⟩
    hint .invalid "bytes is not a 16-char string"
  | _, _ => hint .invalid "bytes is not a 16-char string"

def stateNames := ["IN_QUEUE", "EXECUTING", "COMPLETED", "CANCELLED", "FAILED", "INTERRUPTED"]

def stateOf :=
  match doc.get "status" (.int 0) with
  | .int n => n
  | .text m => stateNames.idxOf m
  | _ => 0

def stationState : Int → Outcome Job.Status
  | 0 => pure .pendingExecution
  | 1 => pure .executionStarted
  | 2 => pure .ready
  | 3 => pure .aborted
  | 4 => pure .failed
  | 5 => pure .aborted
  | n => refuse s!"Unknown job status: '{n}'"

def stateWord : Int → Outcome String
  | 0 => pure "PENDING"
  | 1 => pure "STARTED"
  | 2 => pure "SUCCESS"
  | 3 | 4 | 5 => pure "FAILURE"
  | n => refuse s!"Unknown job status: '{n}'"

def sweep (d : SweepDef) : Dealing Uuid :=
  titled "Job submission failed" do
    let len := (Wire.Base64.encode (← Task.ofSweep d "sweeps")).length
    let submitted ← ask "SubmitJobV1" ([("qc_id", ← computerId), ("type", "PULSE"),
      ("payload", len), ("use_timeslot", (← get).params.usesTimeslot)])
    let id ← idOf (submitted.group "id")
    modify ({ · with latest := some { d with id } })
    pure id

def momentOf (n : String) :=
  if let some (.text s) := doc.field? n then do return (← Text.Moment.read s).universal
  else return .ofSeconds 0

def momentOf? (n : String) := do
  if doc.hasField n then return some (← momentOf doc n) else pure none

variable (id : Outcome Uuid)

def sweepRecord : Dealing SweepRecord :=
  titled "Job loading failed" do
    let id ← id
    let j ← ask "GetJobV1" (lookUp id)
    let defn ← match (← get).latest.filter (·.id == id) with
      | some d => pure d
      | none => do pure (← Task.toSweep (← load "GetJobPayloadV1" (lookUp id))).1
    do
      pure {
        created := some (← momentOf j "created_at")
        modified := some (← momentOf j "updated_at")
        begun := ← momentOf? j "execution_started_at"
        ended := ← momentOf? j "execution_ended_at"
        status := ← stationState (stateOf j)
        id := defn.id, dut := defn.dut, settings := defn.settings
        sweeps := defn.sweeps.map fun g => .tuple (g.map .sweep)
        returned := .list defn.returned .text }

def sweepResults : Dealing (Named Values) :=
  titled "Job result loading failed" do Task.unpackResults (← load "GetJobResultsV1" (lookUp (← id)))

def abort := titled "Job cancellation failed" do let _ ← ask "CancelJobV1" (lookUp (← id))

def calOf (bs : Bytes) : Outcome (Json × Dict) := do
  let set ← docOf bs
  let n ← set.member "calibration_set_id"
  let .object obs := set.group "observations" | fail .noAttr
  let vs ← obs.mapM fun e => do pure (e.1, ← (Form.toPlain (← e.2.member "value")).ofRecord)
  pure (n, vs)

def calibration : Dealing Dict :=
  titled "Calibration set loading failed" do
    return (← calOf (← load "GetFullCalibrationDataV1" (lookUp (← id)))).2

def latestCal (l : String) : Dealing Uuid :=
  titled "Calibration set metadata loading failed" do
    let about ← ask "GetLatestQuantumComputerCalibrationV1" ([("qc_id", ← computerId)])
    if Form.textD about "dut_label" "" ≠ l then refuse s!"No calibration set for dut_label = {l}"
    idOf (about.group "id")

def tell (statuses : List Json) : Dealing Unit := modify fun s => { s with progress := s.progress ++ [statuses] }

structure Waiting where
  first : Option Int := none
  state : Option Int := none

def notice (w : Waiting) (event : Json) : Dealing Waiting := do
  let some j := event.field? "update" | pure w
  let state := stateOf j
  if state = 0 then
    let i := ((j.get "queue_position" (.int 0)).int?).getD 0
    let x := w.first.getD i
    tell [Errand.inQueue (x - i) x]
    pure { first := some x, state := some state }
  else pure { w with state := some state }

def follow (w : Waiting) : List Sent → Dealing (Waiting × Option Refusal)
  | [] => pure (w, none)
  | .refused refusal :: _ => pure (w, some refusal)
  | sent :: xs => do follow (← notice w (← msg sent)) xs

def renewals := 10

def subscribe (id : Uuid) : Nat → Waiting → Dealing Waiting
  | left, waiting => do
    let (waiting, refusal) ← follow waiting (← call "SubscribeToJobV1" (lookUp id))
    match refusal, left with
    | none, _ => pure waiting
    | some refusal, 0 => throw (.refused refusal)
    | some refusal, left + 1 =>
      if (← refusal.told none).code = some "server_cancel" then
        modify fun s => { s with acts := s.acts ++ [ServerAct.sleep 5] }
        subscribe id left waiting
      else throw (.refused refusal)

def wait : Dealing Bool :=
  titled "Job subscription failed" do
    let work := do
      let waiting ← subscribe (← id) renewals {}
      match waiting.first, waiting.state with
      | some x, some 2 => tell [Errand.inQueue x x]
      | _, _ => pure ()
      pure false
    tryCatch work fun
      | .other f => if f.kind = .interrupted then pure true else throw (.other f)
      | trouble => throw trouble

def connections := onWeb (.record connectionsShape "api/v1/quantum-architecture")

def architecture (set : String) :=
  onWeb do Form.toArch (← .doc s!"api/v1/calibration/{set}/gates")

end Dealing

end Transmon.Remote
