import Transmon.Remote.Station

/-!
A client that runs circuits on a server.
-/

namespace Transmon.Client

open Remote.Errand Host Form

structure Link where
  station : Remote.Connection
  label : Option String := none
  archs : Table String Architecture := ∅

abbrev Talk := Work Link

def patience : Number := .float 120.0

def jobPatience : Number := .int 900

structure Run where
  circuits : List Circuit
  mapping : Option Mapping := none
  settings : Json := .null
  calibration : Option String := none
  shots : Json := .int 1
  opts : Options := {}

namespace Run

open Form

def stepDoc (s : Circuit.Step) : Json :=
  .object [("name", s.name), ("qubits", texts s.locus), ("args", echo (.dict s.arguments)),
    ("implementation", optText s.implementation)]

def circuitDoc (c : Circuit) : Json :=
  .object [("name", c.name), ("instructions", .list c.steps stepDoc), ("metadata", echo c.notes)]

def mappingDoc (m : Option Mapping) :=
  opt (fun m => .list m.entries fun e => .object [("logical_name", e.1), ("physical_name", e.2)])
    (m.filter (!·.isEmpty))

variable (run : Run)

def doc : Json :=
  .object
    [("active_reset_cycles", run.opts.resetCycles), ("calibration_set_id", optText run.calibration),
     ("circuits", .list run.circuits circuitDoc), ("custom_settings", run.settings),
     ("dd_mode", opt (.text ·.name) run.opts.decoupling),
     ("dd_strategy", run.opts.strategy),
     ("heralding_mode", opt (.text ·.name) run.opts.heralding),
     ("max_circuit_duration_over_t2", run.opts.durationOverCoherence),
     ("move_gate_frame_tracking_mode", opt (.text ·.name) run.opts.tracking),
     ("move_validation_mode", opt (.text ·.name) run.opts.validation),
     ("qubit_mapping", mappingDoc run.mapping), ("shots", run.shots)]

def sent := (Json.object (run.doc.fields.filter (!·.2.isNull))).sorted.spaced

def check (a : Architecture) : Check := do
  a.checkMapping run.circuits run.mapping
  a.checkCircuits run.mapping (run.opts.validation.getD .strict) false run.circuits

end Run

namespace Talk

def onStation {α : Type} (work : Remote.Errand α) : Talk α :=
  .within Link.station (fun station link => { link with station }) work

def onHost {α : Type} (work : Work Host α) := onStation (.onHost work)

def authorization : Talk (Named (Option String)) :=
  return ((← onStation (atDesk (.bearer 1))).filter (!·.isEmpty)).toList.map ("Authorization", some ·)

def libraries (timeout : Number := patience) : Talk (Option Json) := do
  let headers ← authorization
  let url := (← get).station.root.replace "/station" "" ++ "/info/client-libraries"
  let r ← onHost (send { method := "get", url, headers, timeout := some timeout })
  if r.status = 404 then return none
  let .object fs ← r.json
    | failWith .badAnswer s!"Invalid response: {r.text}, ValidationError('not a dictionary of libraries')"
  some <$> librariesShape.read (fs)

def unverified := "Could not verify IQM Client compatibility with the server. You might encounter issues."

def versionIn (library : Json) (n : String) : Talk Text.Version := do
  match library.field? n with
  | some (.text s) =>
    if let some version := Text.Version.ofString? s then return version
    hint .badVersion s!"Invalid version: {Text.quoted s}"
  | some x => hint .type s!"expected string or bytes-like object, got '{(toPlain x).className}'"
  | none => fail .noAttr

def compareVersions : Talk (Option String) := do
  match ← libraries with
  | none | some (.object []) =>
    return some "Got 'Not found' response from server. Couldn't check version compatibility."
  | some x =>
    let some library := (x.field? "iqm-client").or (x.field? "iqm_client") | return some unverified
    let least ← versionIn library "min"
    let bound ← versionIn library "max"
    let own ← require .badVersion (Text.Version.ofString? (← get).station.desk.host.version)
    if own.before least || !own.before bound then
      return some (s!"Your IQM Client version {own.shown} was built for a different version of IQM Server. You might "
        ++ "encounter issues. For the best experience, consider using a version of IQM Client that satisfies "
        ++ s!"{least.shown} <= iqm-client < {bound.shown}.")
    pure none

def checkVersions : Talk (Option String) := do
  match ← .attempt compareVersions with
  | .ok said => pure said
  | .error f =>
    if !f.isFailure then throw f
    return some s!"{unverified} {f.text}"

def checkFound (url : String) (r : Http.Response) : Talk Unit := do
  if r.status = 404 then
    let said := match ← checkVersions with
      | some reason => s!" This may be caused by the server version not supporting this endpoint. {reason}"
      | none => ""
    failWith .http s!"{url} not found.{said}"

def checkKnown (r : Http.Response) : Talk Unit := do
  if r.history.contains 302 then failWith .authentication "Authentication is required."
  if r.status = 401 then failWith .authentication s!"Authentication failed: {r.text}"

variable (e : Endpoint) (j : String) (timeout : Number)

def ask : Talk (String × Http.Response) := do
  let url ← e.url (← get).station.root [j]
  pure (url, ← onHost (send { method := "get", url, headers := ← authorization, timeout := some timeout }))

def fetch : Talk Http.Response := do
  let (url, r) ← ask e j timeout
  checkFound url r
  checkKnown r
  r.checkStatus
  pure r

def askDoc : Talk Json := do (← ask e j timeout).2.json

def connect : Talk Unit := do
  if ← onStation discover then throw unready
  let some said ← checkVersions | pure ()
  onHost (warn said)

def recordIn (s : Json.Shape) (r : Http.Response) : Talk Json :=
  match r.json with
  | .ok doc => s.read doc
  | .error f => failWith .badAnswer s!"Invalid response: {r.text}, JSONDecodeError({Text.quoted f.text})"

def warnAll (ws : Json) : Talk Unit := do for warning in ws.items do onHost (warn warning.shown)

def status (timeout : Number := patience) : Talk Json := do
  let x ← recordIn statusShape (← fetch .status j timeout)
  warnAll (x.get "warnings")
  pure x

def statusOf (doc : Json) := do require .invalid ((← doc.member "status").text?.bind Status.ofName?)

variable (j : String)

def reason (timeout : Number) : Talk Json := do
  let (_, r) ← ask .errorLog j timeout
  if r.status ≠ 200 then return .null
  return ((← r.json).field? "user_error_message").getD (r.text)

def moments (tl : Json) : Outcome Json := do
  let ps ← match tl with
    | .array ps => pure ps
    | .object [] | .text "" => pure []
    | _ => fail .type
  let es ← ps.mapM fun point => do pure ((← point.member "status").shown, ← point.member "timestamp")
  return (Table.ofList es).entries

def account (said : Json) (timeout : Number) : Talk Fields := do
  let (_, measured) ← ask .result j timeout
  let m ← reason j timeout
  let status ← said.member "status"
  if measured.status = 404 then return [("status", status), ("message", m), ("metadata", .object [])]
  measured.checkStatus
  let measurements ← measured.json
  let ps ← askDoc .params j timeout
  let calset ← askDoc .calsetId j timeout
  let cs ← askDoc .circuits j timeout
  let tl ← askDoc .timeline j timeout
  let x ← ["shots", "heralding_mode", "move_validation_mode", "move_gate_frame_tracking_mode"].mapM fun n =>
    return (n, ← ps.member n)
  let timestamps ← moments tl
  return [("measurements", measurements), ("status", status), ("message", m),
    ("metadata", [("calibration_set_id", calset), ("circuits_batch", cs),
      ("parameters", x ++ [("max_circuit_duration_over_t2", ps.get "max_circuit_duration_over_t2")]),
      ("timestamps", timestamps)]),
    ("warnings", said.get "warnings" (.array []))]

def result (timeout : Number := patience) : Talk Json := do
  let said ← (← fetch .status j timeout).json
  let status ← statusOf said
  let fs ← if status.isFinal then account j said timeout
    else do pure [("status", ← said.member "status"), ("metadata", .object [])]
  let (status, x) ← Client.result fs
  warnAll (x.get "warnings")
  if status = .job .failed then failWith .execution (x.get "message").shown
  pure x

def awaitFrom (j : String) (isAwaited : Status → Bool) (start : Int) (timeout : Number) : Nat → Talk (Option Json)
  | 0 => fail .exhausted
  | fuel + 1 => do
    if !(.int ((← get).station.desk.host.now - start) < timeout) then return none
    if isAwaited (← statusOf (← status j)) then return some (← result j)
    onHost (sleep 1)
    awaitFrom j isAwaited start timeout fuel

def await (j what : String) (isAwaited : Status → Bool) (timeout : Number) : Talk Json := do
  let h := (← get).station.desk.host
  if let some x ← awaitFrom j isAwaited h.now timeout (h.line.replies.length + 2) then pure x
  else failWith .timeout s!"The job {j} {what}didn't finish in {timeout.text} seconds."

def awaitResult (timeout : Number := jobPatience) := await j "" Status.isFinal timeout

def awaitCompilation (timeout : Number := jobPatience) :=
  await j "compilation " (fun s => s.isFinal || s = .job .pendingExecution || s = .job .compilationEnded) timeout

def abort (timeout : Number := patience) : Talk Unit := do
  let url ← Endpoint.abort.url (← get).station.root [j]
  let r ← onHost (send { method := "post", url, headers := ← authorization, timeout := some timeout })
  if r.status ≠ 200 ∧ r.status ≠ 204 then failWith .notStopped r.text

def counts (timeout : Number := patience) : Talk Json := do recordIn countsShape (← fetch .counts j timeout)

def label : Talk String :=
  keeping (·.label) (fun x link => { link with label := some x }) do
    match ← onStation (list "duts") with
    | [c] => return (← c.part "label").shown
    | chips => failWith .runtime s!"Expected exactly 1 DUT, but got {chips.length}."

def connections : Talk Json := do onStation (.connections (← label))

def architecture (cal : Option String := none) : Talk Architecture :=
  let cal := cal.filter (!·.isEmpty)
  keeping (cal.bind ·.archs.get?)
    (fun x link => { link with archs := link.archs.insert x.calsetId x }) do
    let set ← match cal with
      | some id => pure id
      | none =>
        pure (← (← onStation (record Remote.setShape "calibration-sets/default")).part "observation_set_id").shown
    onStation (.architecture set set)

def momentOf (r : Json) (n : String) := do
  let .text s ← r.part n | fail .noAttr
  Text.Moment.read s

def written (r : Json) (n : String) : Outcome Json := return (← momentOf r n).written

def openMoment (r : Json) (n : String) : Outcome Json := do
  let .null ← r.part n | written r n
  pure .null

def metric (o : Json) : Outcome (Option (String × Json)) := do
  if toBool (← o.part "invalid") then return none
  let text (n : String) := return (← o.part n).shown
  return some ((← o.part "dut_field").shown, [("value", ← text "value"), ("unit", ← o.part "unit"),
    ("uncertainty", ← text "uncertainty"),
    ("timestamp", ← written o "created_timestamp")])

def aboutSet (n : String) (set : Json) (moment : Json → String → Outcome Json := openMoment) : Outcome Fields :=
  return [(n ++ "_id", ← set.part "observation_set_id"), (n ++ "_dut_label", ← set.part "dut_label"),
    (n ++ "_created_timestamp", ← written set "created_timestamp"),
    (n ++ "_end_timestamp", ← moment set "end_timestamp"), (n ++ "_is_invalid", ← set.part "invalid")]

def metricsOf (r : Json) : Outcome Json := do
  let set ← r.part "calibration_set"
  let ids ← toItems (← set.part "observation_ids")
  let ms ← listOf (← r.part "observations") metric
  return .object ((← aboutSet "calibration_set" set) ++ (← aboutSet "quality_metric_set" r)
    ++ [("metrics", .object (Table.ofList (ms.filterMap id)).entries),
      ("calibration_set_number_of_observations", .int ids.length)])

def metrics (cal : Option String := none) : Talk Json := do
  metricsOf (← onStation (.metrics ((cal.filter (!·.isEmpty)).getD "default")))

def fullObs (o : Json) := do
  let n := (← o.part "dut_field").shown
  let created ← momentOf o "created_timestamp"
  pure (n, (o.setField "created_timestamp" (created.writtenFully)).setField "modified_timestamp"
    ((← momentOf o "modified_timestamp").writtenFully))

def calSet (cal : Option String := none) : Talk Json := do
  let p := match cal.filter (!·.isEmpty) with
    | some id => s!"observation-sets/{id}"
    | none => "calibration-sets/default"
  let set ← onStation (record Remote.setShape p)
  let id ← set.part "observation_set_id"
  let obs ← onStation (list s!"observation-sets/{id.shown}/observations")
  return .object ((← aboutSet "calibration_set" set written)
    ++ [("observations", .object (Table.ofList (← liftM (obs.mapM fullObs))).entries)])

def reached (qs : Names) (ctrls : Named Ctrl) : Table String Names :=
  ctrls.foldl (fun gs e =>
    let q := (e.1.splitOn "__").headD ""
    match e.2.role with
    | .generator ss _ _ =>
      if qs.contains q then ss.foldl (fun gs s => gs.update s [] (·.add q)) gs
      else gs
    | .readout _ _ => gs) ∅

def feedbackGroups : Talk (List Names) := do
  let ctrls ← onStation controllers
  let c ← connections
  let gs := (reached (← toTexts (← c.part "qubits")) ctrls).values.map Text.sorted
  return gs.eraseDups.mergeSort fun a b => b.length ≤ a.length

variable (run : Run)

def prepare : Talk Run := do
  if (← toNum run.shots) < 1 then refuse "Number of shots must be greater than zero."
  run.check (← architecture run.calibration)
  pure run

def submit : Talk String := do
  let headers ← authorization
  let url ← Endpoint.submit.url (← get).station.root []
  let headers := ("Expect", some "100-Continue") :: headers
    ++ [("Content-Type", some "application/json; charset=UTF-8")]
  let r ← onHost (send { method := "post", url, headers, payload := some (.text run.sent), timeout := some patience })
  checkFound url r
  if r.status = 401 then failWith .authentication s!"Authentication failed: {r.text}"
  if 400 ≤ r.status ∧ r.status < 500 then failWith .configuration s!"Client configuration error: {r.text}"
  r.checkStatus
  match do (← r.json).member "id" with
  | .ok (.text id) => return (← Uuid.ofText id).toText
  | .ok .null => fail .type
  | .ok _ => fail .noAttr
  | .error f =>
    let reason := if f.kind = .missing then "'id'" else f.text
    if [.missing, .notJson].contains f.kind then failWith .execution s!"Invalid response: {r.text}, {reason}"
    throw f

def runCircuits : Talk String := do submit (← prepare run)

def close := onStation (atDesk .close)

end Talk

def Link.open (h : Host) (url : String) (ps : Named String) : Outcome Link := do
  if !(url.startsWith "http:" || url.startsWith "https:") then
    failWith .configuration s!"The URL schema has to be http or https. Incorrect schema in URL: {url}"
  let manager ← Token.Manager.open h ps
  Talk.connect.after { station := { root := url, bearer := .managed, desk := { host := h, manager } } }

end Transmon.Client
