import Transmon.Client.Job
import Transmon.Simulated.Device

/-!
Backends: a chip behind a link, for logical circuits.
-/

namespace Transmon

open Form

namespace Client

structure Backend where
  link : Link
  device : Logical.Device
  calibration : String
  isDefault : Bool
  name : String := "IQM Backend"
  maximum : Json := .null
  facade : Option Simulated.Device := none
  job : Option Job := none

structure Wishes where
  shots : Json := .int 1024
  opts : Option Options := none
  names : Option (Table Nat String) := none
  others : Fields := []

abbrev Backing := Work Backend

namespace Backing

def online {α : Type} (work : Talk α) : Backing α :=
  .within Backend.link (fun link backend => { backend with link }) work

def warn (s : String) := online (.onHost (Host.warn s))

variable (c : Logical.Circuit)

def tell (ns : Option (Table Nat String)) : Backing Circuit := do
  let steps ← c.toSteps .radians (ns.getD (← get).device.names)
  let .error _ := docOf c.notes | pure { name := c.name, steps, notes := c.notes }
  warn s!"Metadata of circuit {c.name} was dropped because it could not be serialised to JSON."
  pure { name := c.name, steps }

def looseOptions := ["max_circuit_duration_over_t2", "heralding_mode"]

def optionsOf (ws : Wishes) : Backing (Options × Fields) := do
  if ws.others.any (looseOptions.contains ·.1) then
    warn ("max_circuit_duration_over_t2 and heralding_mode are deprecated, please use "
      ++ "circuit_compilation_options instead.")
  match ws.opts with
  | some o => pure (o, ws.others)
  | none =>
    pure (← toRunOptions (ws.others.filter (looseOptions.contains ·.1)), ws.others.filter (!looseOptions.contains ·.1))

def retold (f : Fault) :=
  if f.kind = .circuitInvalid then
    { f with msg := f.msg.map (· ++ "\nMake sure the circuits have been transpiled using the same "
        ++ "backend that you used to submit the circuits.") }
  else f

def checkDefault : Backing Unit := do
  let backend ← get
  if backend.isDefault then
    let now := (← online (.architecture none)).calsetId
    if backend.calibration ≠ now then
      warn (s!"Server default calibration set has changed from {backend.calibration} to {now}. Create a new "
        ++ "IQMBackend if you wish to transpile the circuits using the new calibration set.")

variable (circuits : List Logical.Circuit)

def req (ws : Wishes) : Backing Run := do
  if circuits.isEmpty then refuse "Empty list of circuits submitted for execution."
  let (opts, ys) ← optionsOf ws
  if !ys.isEmpty then warn s!"Unknown backend option(s): {(toPlain (ys)).shown}"
  let told ← circuits.mapM (tell · ws.names)
  checkDefault
  let cal := (← get).calibration
  .retelling retold (online (.prepare { circuits := told, calibration := some cal, shots := ws.shots, opts }))

def send (ws : Wishes) : Backing Job := do
  let run ← req circuits ws
  let id ← online (.submit run)
  let j : Job := { id, notes := [("shots", run.shots)], circuitNotes := some (run.circuits.map (echo ·.notes)) }
  modify ({ · with job := some j })
  pure j

def following {α : Type} (work : Job.Following Link α) : Backing α := do
  let job ← require .noAttr ((← get).job)
  .within (·.link, job) (fun (link, job) backend => { backend with link, job := some job }) work

def usesRegisters :=
  c.registers.all fun reg => c.operations.any fun o => o.bits.head?.any fun bit => bit.register = reg.name

def sendThrough (d : Simulated.Device) (cs : List Logical.Circuit) (ws : Wishes) : Backing Unit := do
  if !cs.all usesRegisters then
    refuse ("One or more circuits contain unused classical registers. This is not allowed for Facade "
      ++ "simulation, see user guide.")
  discard (send cs ws)
  discard (following (.result .online))
  if (← following (.stage .online)) = .error then failWith .runtime "Remote execution did not succeed."
  d.check cs

end Backing

namespace Backend

def connect (cal : Option String) : Talk Backend := do
  let a ← .architecture (← cal.mapM fun s => do return (← Uuid.ofText s).toText)
  let device ← Logical.Device.ofArchitecture a
  pure { link := ← get, device, calibration := a.calsetId, isDefault := cal.isNone }

def chipOf (j : Json) : Outcome StaticArch :=
  return {
    qubits := ← toTexts (← j.part "qubits")
    resonators := ← toTexts (← j.part "computational_resonators")
    connectivity := ← toLoci (← j.part "connectivity") }

def connectFacade (des : Outcome Simulated.Device) : Talk Backend := do
  let d ← des
  if !d.isOf (← chipOf (← .connections)) then
    refuse "Quantum architecture of the remote quantum computer does not match Adonis."
  pure { ← connect none with name := "facade_adonis", facade := some d }

def choose (url : String) (n cal : Option String) : Talk Backend := do
  match n.filter fun n => n.startsWith "facade_" with
  | some "facade_adonis" => connectFacade ((Simulated.named? "Adonis").getD (fail .missing))
  | some x =>
    .onHost (Host.warn s!"Unknown facade backend: {x}. A regular backend associated with {url} will be used.")
    connect cal
  | none => connect cal

end Backend

def Backend.open (l : Link) (url : String) (n cal : Option String) : Outcome Backend := do
  let (r, l) := (Backend.choose url n cal).run.run l
  pure { ← r with link := l }

end Client

/-!
Long lists of circuits, run in batches.
-/

namespace Client.Batches

structure Limits where
  circuits : Option Int := some 500
  instructions : Option Int := some 4500
  tries : Int := 10
  unfinished : Int := 10000

def Limits.admits (ls : Limits) (cs is n : Nat) :=
  ls.instructions.all (fun most => decide ((is : Int) + n ≤ most)) &&
    ls.circuits.all (fun most => decide ((cs : Int) + 1 ≤ most))

def split {γ : Type} (ls : Limits) : List γ → Nat → List (γ × Nat) → List (List γ)
  | b, _, [] => [b]
  | b, used, (c, len) :: xs =>
    if ls.admits b.length used len then split ls (b ++ [c]) (used + len) xs
    else b :: split ls [c] len xs

structure Page (α : Type) where
  text : String
  content : Outcome α

def Page.write {α : Type} (form : α → Json) (content : α) : Page α := ⟨(form content).indented, .ok content⟩

abbrev Stages := List (List Job.Stage)

structure Folder where
  jobs : Option (Page (List Names)) := none
  stages : Option (Page Stages) := none
  sizes : Option (Page (List Nat)) := none
  results : Option (Page Json) := none

namespace Folder

def table (lists : List Names) : Json := .list lists fun l => .array (l.map .text)

variable (f : Folder)

def withJobs (jobs : List Names) : Folder := { f with jobs := some (.write table jobs) }

def withStages (ss : Stages) : Folder :=
  { f with stages := some (.write (fun lists => table (lists.map (·.map Job.Stage.name))) ss) }

def withSizes (sizes : List Nat) : Folder :=
  { f with sizes := some (.write (fun sizes => .list sizes fun (n : Nat) => n) sizes) }

def withResults (rs : List Json) : Folder := { f with results := some (.write id (rs)) }

end Folder

structure Runner (σ γ : Type) where
  send : List γ → Work σ String
  stage : String → Work σ Job.Stage
  counts : String → Work σ (List (Table String Nat))

structure Desk (σ : Type) where
  server : σ
  folder : Option Folder := none
  count : Option Nat := none
  said : String := ""

abbrev Deskwork (σ : Type) := Work (Desk σ)

abbrev Summary := List (Job.Stage × Nat)

namespace Deskwork

variable {σ γ : Type} {α : Type}

def serving (work : Work σ α) : Deskwork σ α := .within Desk.server (fun server desk => { desk with server }) work

def say (s : String) : Deskwork σ Unit := modify fun d => { d with said := d.said ++ s }

def sayLine (s : String) : Deskwork σ Unit := say s!"{s}\n"

def write (change : Folder → Folder) : Deskwork σ Unit := modify fun d => { d with folder := d.folder.map change }

def read (page : Folder → Option (Page α)) : Deskwork σ α := do
  liftM (← liftM (require .noFile ((← get).folder.bind page))).content

def latest (es : List α) := require .index es.getLast?

def refresh (runner : Runner σ γ) : List Names → Stages → Deskwork σ Stages
  | [], ss => pure ss
  | ids :: moreJobs, ss => do
    let stage ← serving (runner.stage (← latest ids))
    match ss with
    | [] | [] :: _ => fail .index
    | known :: moreStages => return (known.dropLast ++ [stage]) :: (← refresh runner moreJobs moreStages)

def summary (ss : Stages) : Outcome (Summary × List Job.Stage) := do
  let now ← ss.mapM latest
  pure (Job.Stage.all.map fun stage => (stage, now.count stage), now)

variable (runner : Runner σ γ)

def status (updates : Bool := true) : Deskwork σ (Option (Summary × List Job.Stage)) := do
  let ss ← if (← get).folder.isNone then pure [] else read Folder.stages
  if ss.isEmpty then
    sayLine "Must have run circuits before asking for status."
    return none
  if !updates then return some (← summary ss)
  let ss ← refresh runner (← read Folder.jobs) ss
  write (·.withStages ss)
  some <$> summary ss

def statusOfSent := do
  let some known ← status runner | fail .type
  pure known

end Deskwork

inductive Decision
  | leave (isUnfinished : Bool)
  | submit
  | giveUp
  | halt
deriving DecidableEq

def decision (ls : Limits) (unfinished : Nat) (known : Option (Job.Stage × Nat)) : Decision :=
  let submission := if unfinished < ls.unfinished then .submit else .halt
  match known with
  | none => submission
  | some (.done, _) => .leave false
  | some (.initializing, _) | some (.queued, _) | some (.validating, _) => .leave true
  | some (_, tries) => if tries < ls.tries then submission else .giveUp

structure Progress where
  unfinished : Nat := 0
  jobs : List Names
  stages : Stages

def extend {α : Type} (es : List (List α)) (known : Option Nat) (e : α) := do
  let some b := known | return es ++ [[e]]
  if b < es.length then return es.modify b (· ++ [e]) else fail .index

namespace Deskwork

variable {σ γ : Type} (runner : Runner σ γ)

def submit (p : Progress) (known : Option Nat) (b : List γ) : Deskwork σ Progress := do
  let j ← serving (runner.send b)
  let ss ← extend p.stages known (← serving (runner.stage j))
  let jobs ← extend p.jobs known j
  write fun folder => (folder.withJobs jobs).withStages ss
  pure ⟨p.unfinished + 1, jobs, ss⟩

def submitAll (runner : Runner σ γ) (ls : Limits) (isVerbose : Bool) (total : Nat) (now : List Job.Stage) :
    Nat → Progress → List (List γ) → Deskwork σ Unit
  | _, _, [] => pure ()
  | i, p, b :: xs => do
    let next (p : Progress) := submitAll runner ls isVerbose total now (i + 1) p xs
    let tries := (p.stages[i]?.map List.length).getD 0
    match decision ls p.unfinished (now[i]?.map (·, tries)) with
    | .leave isUnfinished => next { p with unfinished := p.unfinished + if isUnfinished then 1 else 0 }
    | .submit =>
      if isVerbose then say s!"Submitting batch # {i} (out of {total})\r"
      next (← submit runner p (if i < now.length then some i else none) b)
    | .giveUp =>
      sayLine s!"Batch {i} Has exceeded the maximum number of tries"
      next p
    | .halt => sayLine "maximum waiting jobs has been met. Please wait and try again."

def shownSummary (known : Summary) :=
  "[" ++ ", ".intercalate (known.map fun (stage, count) => s!"('{stage.name}', {count})") ++ "]"

def run (ls : Limits) (cs : List (γ × Nat)) (shots : Outcome Number)
    (isVerbose : Bool := true) : Deskwork σ Unit := do
  let isNew := (← get).folder.isNone
  if isNew then modify ({ · with folder := some {} })
  let jobs ← if isNew then pure [] else read Folder.jobs
  let ss ← if isNew then pure [] else read Folder.stages
  let is : Nat := cs.foldl (fun total c => total + c.2) 0
  let batches := split ls [] 0 cs
  if isVerbose then
    let repetitions := .int cs.length * (← shots)
    let shownInstrs := Decimal.scientificText (Decimal.ofInt is) 3
    let shownRepetitions := Decimal.scientificText repetitions.toFloat 3
    sayLine (s!"Dealing with {cs.length} circuits, {shownInstrs} instructions, and {shownRepetitions} total "
      ++ "shots.")
    sayLine s!"Created {batches.length} batches!"
    let secs := Number.int (9 * batches.length : Nat) + .float (repetitions.toFloat / 1000.0)
    sayLine s!"Optimistic and approximate runtime: {secs.text} seconds"
  write (·.withSizes (batches.map List.length))
  modify ({ · with count := some batches.length })
  let now ← if ss.isEmpty then do
      if isVerbose then sayLine "beginning first submission!"
      pure []
    else do
      let (known, now) ← statusOfSent runner
      if isVerbose then sayLine s!"resuming on: {shownSummary known}"
      pure now
  submitAll runner ls isVerbose batches.length now 0 ⟨0, jobs, ss⟩ batches

def counted (t : Table String Nat) : Json := .object (t.entries.map fun e => (e.1, e.2))

def countsOf (jobs : List Names) (b : Nat) : Deskwork σ Json := do
  match ← serving (runner.counts (← latest (← itemAt jobs b))) with
  | [single] => return counted single
  | several => return .list several counted

def finalEntries (n : Nat) (cs : Json) :=
  if n = 1 then [cs]
  else match cs with
    | .object fs => fs.map (·.1)
    | several => several.items

def countBatches : Deskwork σ Nat :=
  keeping (·.count) (fun count desk => { desk with count := some count }) do return (← read Folder.sizes).length

def ifRun (work : Deskwork σ (Option Json)) : Deskwork σ (Option Json) := do
  if (← get).folder.isSome then work
  else
    sayLine "Must have run circuits before asking for results."
    pure none

def results : Deskwork σ (Option Json) := ifRun do
  discard (status runner)
  let jobs ← read Folder.jobs
  let ss ← read Folder.stages
  let count ← countBatches
  let (known, _) ← statusOfSent runner
  let isDone := known.lookup .done = some count
  sayLine (if isDone then "All batches finished; presenting final results in original list form"
    else "Not all batches finished; presenting partial results in batch form")
  let sizes ← read Folder.sizes
  let es ← (List.range count).mapM fun b => do
    if isDone then
      let cs ← countsOf runner jobs b
      return finalEntries (← itemAt sizes b) cs
    else
      let some _ := jobs[b]? | pure ["Submission 0 status: never submitted. "]
      let tries ← itemAt ss b
      let stage ← latest tries
      if stage = .done then
        let cs ← countsOf runner jobs b
        pure [if (← itemAt sizes b) = 1 then [cs] else cs]
      else pure [s!"Submission {tries.length} status: {stage.name} "]
  write (·.withResults es.flatten)
  return some (es.flatten)

def keptResults : Deskwork σ (Option Json) := ifRun do return some (← read Folder.results)

end Deskwork

def afresh {σ α : Type} (id : String) (work : Job.Following σ α) : Work σ α := do
  let (r, s, _) := work.run.run (← get, { id })
  set s
  r

def Runner.ofService {σ γ : Type} (service : Service σ) (send : List γ → Work σ String) : Runner σ γ where
  send
  stage job := afresh job (.stage service)
  counts job := afresh job do
    discard (.result service)
    return (← get).2.results.map (Job.counts ·.2)

end Client.Batches

/-!
The figures of a calibration: how well operations and readouts went.
-/

namespace Client

structure Figures where
  pairs : Table String Json := ∅
  singles : Table String Json := ∅
  readouts : Table String Json := ∅

namespace Figures

variable (j : Json)

def item (i : Nat) :=
  match j with
  | .array xs => itemAt xs i
  | .object _ => fail .missing
  | _ => fail .type

def part (locus : Json) (i : Nat) : Outcome Json :=
  match locus with
  | .text n => do return (← itemAt n.toList i).toString
  | x => item x i

def entry := do
  let .object fields := j | fail .noAttr
  let vs := fields.map Prod.snd
  pure (← itemAt vs 0, ← itemAt vs 1)

def entries (ms : Json) (i : Nat) : Outcome (List Json) := do
  match ← (← item ms i).member "metrics" with
  | .array xs => pure xs
  | .object fs => return fs.map (·.1)
  | .text s => return s.toList.map (·.toString)
  | _ => fail .type

variable (table : Table String Json)

def single (j : Json) := do
  let (locus, v) ← entry j
  return table.insert locus.shown v

def pair (j : Json) := do
  let (locus, v) ← entry j
  return (table.insert locus.shown v).insert (Json.array [← part locus 1, ← part locus 0]).shown v

def ofDoc : Outcome Figures := do
  let ms ← (← item (← j.member "calibrations") 0).member "metrics"
  pure {
    pairs := ← (← entries ms 0).foldlM pair ∅
    singles := ← (← entries ms 1).foldlM single ∅
    readouts := ← (← entries ms 3).foldlM single ∅ }

def address (system : String) := s!"https://api.resonance.meetiqm.com/quantum-computers/v1/{system}/calibrations"

def fetch (system t : String) : Work Host Figures := do
  let r ← Host.send
    { method := "get", url := address system,
      headers := [("Accept", some "application/json"), ("Authorization", some s!"Bearer {t}")] }
  ofDoc (← r.json)

end Figures

end Client

end Transmon
