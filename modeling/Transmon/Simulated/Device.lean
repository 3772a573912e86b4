import Transmon.Logical.Target

/-!
Simulated devices: a chip with a profile of its errors instead of the chip itself.
-/

namespace Transmon.Simulated

structure Profile where
  (relaxation coherence : Table String Number)
  singleErrors : Table String (Table String Number)
  pairErrors : Table String (Table Names Number)
  (singleDurations pairDurations : Table String Number)
  readout : Table String (Table String Number)
  name : Option String := none

def checkLoci (x known : Names) (what : String) : Check := do
  let unknown := Names.diff (.ofList x) known
  if !unknown.isEmpty then refuse s!"Error profile attribute {what} has unknown loci: {Text.gathered unknown}."
  let missing := Names.diff (.ofList known) x
  if !missing.isEmpty then refuse s!"Error profile attribute {what} is missing loci: {Text.gathered missing}."

def shownUnordered (locus : Names) := s!"frozenset({Names.shown (.ofList locus)})"

def knownOps := ["prx", "cc_prx", "cz", "move"]

def checkOps (ns : Names) (what : String) : Check := do
  for n in ns do
    if !knownOps.contains n then refuse s!"Gate '{n}' in {what} is unknown. Valid gates: {Names.shown knownOps}"

variable (pr : Profile) (chip : StaticArch)

def Profile.check : Check := do
  let quoted (ns : Names) : Names := ns.map Text.quoted
  let ps := quoted (chip.qubits ++ chip.resonators)
  checkLoci (quoted pr.relaxation.keys) ps "t1s"
  checkLoci (quoted pr.coherence.keys) ps "t2s"
  let (single, double) :=
    ("single_qubit_gate_depolarizing_error_parameters", "two_qubit_gate_depolarizing_error_parameters")
  for (gate, es) in pr.singleErrors.entries do
    checkLoci (quoted es.keys) (quoted chip.qubits) s!"{single}['{gate}']"
  for (gate, es) in pr.pairErrors.entries do
    checkLoci (es.keys.map shownUnordered) (chip.connectivity.map shownUnordered) s!"{double}['{gate}']"
  checkOps pr.singleErrors.keys single
  checkOps pr.pairErrors.keys double
  checkOps (pr.singleDurations.insertMany pr.pairDurations.entries).keys "durations"
  checkLoci (quoted pr.readout.keys) (quoted chip.qubits) "readout_errors"

structure Relaxation where
  (relaxation coherence duration : Number)

structure GateNoise where
  operation : String
  relaxations : List Relaxation
  depolarisation : Number
  positions : List Nat

structure ReadoutNoise where
  probabilities : List (List Number)
  position : Nat

structure Noise where
  basis : Names
  gates : List GateNoise
  readout : List ReadoutNoise

def opNames (gs : Names) : Table String String :=
  gs.foldl (fun t g =>
    if g = "measure" || g = "barrier" then t else t.insertNew g g)
    (.ofList [("prx", "r"), ("cz", "cz")])

structure Device where
  chip : StaticArch
  profile : Profile
  name : String
  device : Logical.Device
  noise : Noise

def archOf (p : Profile) : Architecture :=
  let gate (loci : List Names) : Architecture.Gate :=
    { implementations := .ofList [("__fake", loci)], default := "__fake" }
  let single := p.singleErrors.map fun _ es => gate (es.keys.map ([·]))
  let both := single.insertMany (p.pairErrors.entries.map fun e => (e.1, gate e.2.keys))
  { qubits := chip.qubits
    resonators := chip.resonators
    gates := both.insert "measure" (gate (p.readout.keys.map ([·]))) }

def Profile.relaxing (part : String) (span : Number) : Outcome Relaxation :=
  return ⟨← pr.relaxation.need part, ← pr.coherence.need part, span⟩

variable (device : Logical.Device) (ns : Table String String)

def noiseOn (g : String) (depolarisation span : Number) (locus : Names) : Outcome GateNoise :=
  return {
    operation := ← ns.need g
    relaxations := ← locus.mapM (pr.relaxing · span)
    depolarisation
    positions := ← locus.mapM device.position }

def singleNoise : Outcome (List GateNoise) := do
  let ps ← pr.singleErrors.entries.mapM fun e => do
    let span ← pr.singleDurations.need e.1
    e.2.entries.mapM fun (p, error) => noiseOn pr device ns e.1 error span [p]
  pure ps.flatten

def pairNoise : Outcome (List GateNoise) := do
  let ps ← pr.pairErrors.entries.mapM fun e => do
    let span ← pr.pairDurations.need e.1
    let x ← e.2.entries.mapM fun (locus, error) => do
      let [a, b] := locus | fail .index
      [[a, b], [b, a]].mapM (noiseOn pr device ns e.1 error span)
    pure x.flatten
  pure ps.flatten

def readoutNoise : Outcome (List ReadoutNoise) :=
  pr.readout.entries.mapM fun (p, es) => do
    let zero ← es.need "0"
    let one ← es.need "1"
    pure ⟨[[.sub (.int 1) zero, zero], [one, .sub (.int 1) one]], ← device.position p⟩

def Device.make (pr : Profile) (name : String) : Outcome Device := do
  pr.check chip
  let a := archOf chip pr
  let device ← Logical.Device.ofArchitecture a
  let ns := opNames a.gates.keys
  pure {
    chip, profile := pr, name, device
    noise := {
      basis := ns.values
      gates := (← singleNoise pr device ns) ++ (← pairNoise pr device ns)
      readout := ← readoutNoise pr device } }

namespace Device

variable (d : Device)

def withProfile (p : Profile) := make d.chip p d.name

def isOf (c : StaticArch) :=
  c.qubits = d.chip.qubits && c.resonators = d.chip.resonators && c.connectivity = d.chip.connectivity

/-- Refuses circuits that cannot be simulated: those that the chip could not run. Operations that simulations do not
know are replaced by their matrix, and only the move has one. -/
def check (cs : List Logical.Circuit) : Check := do
  if cs.isEmpty then refuse "Empty list of circuits submitted for execution."
  for circuit in cs do
    d.device.validate circuit
    for n in d.noise.basis do if n ≠ "r" && n ≠ "cz" && n ≠ "move" then fail .missing

end Device

/-!
The simulated devices there are: chips of five designs with typical errors.
-/

def qubitName (n : Nat) := s!"QB{n}"

def qubitNames (n : Nat) := (List.range n).map fun i => qubitName (i + 1)

def byName (ns : Names) (vs : Floats) : Table String Number := .ofList (ns.zip (vs.map .float))

def pairNames (ps : List (Nat × Nat)) : List Names := ps.map fun (a, b) => [qubitName a, qubitName b]

/-- A profile with errors of gates in units of 0.00001, and errors of readout in units of 0.0001. -/
def plainProfile (n : String) (ps : List (Nat × Nat)) (relaxation coherence single double : List Nat)
    (singleDuration pairDuration : Float) (readout : List (Nat × Nat)) : Profile :=
  let qs := qubitNames relaxation.length
  let inUnits (unit : Float) (vs : List Nat) := vs.map (·.toFloat / unit)
  { relaxation := byName qs (inUnits 1.0 relaxation)
    coherence := byName qs (inUnits 1.0 coherence)
    singleErrors := .ofList [("prx", byName qs (inUnits 100000.0 single))]
    pairErrors := .ofList [("cz", .ofList ((pairNames ps).zip ((inUnits 100000.0 double).map .float)))]
    singleDurations := byName ["prx"] [singleDuration]
    pairDurations := byName ["cz"] [pairDuration]
    readout := .ofList (qs.zip (readout.map fun e => byName ["0", "1"] (inUnits 10000.0 [e.1, e.2])))
    name := some n }

def plainChip (n : Nat) (ps : List (Nat × Nat)) : StaticArch where
  qubits := qubitNames n
  resonators := []
  connectivity := pairNames (ps.map fun (a, b) => (min a b, max a b))

def adonisPairs := [(1, 3), (2, 3), (3, 4), (3, 5)]

def adonisChip := plainChip 5 adonisPairs

def adonisProfile : Profile :=
  plainProfile "sample-chip" adonisPairs
    [27000, 33000, 25000, 40000, 25000]
    [20000, 26000, 23000, 26000, 7000]
    [60, 540, 10, 0, 50]
    [3350, 3440, 1920, 3730]
    40.0 80.0
    [(210, 210), (180, 180), (560, 560), (210, 210), (230, 230)]

def apolloPairs :=
  [(1, 2), (1, 4), (2, 5), (3, 4), (8, 3), (4, 5), (9, 4), (5, 6), (10, 5), (6, 7), (11, 6), (12, 7), (8, 9),
   (8, 13), (9, 10), (9, 14), (10, 11), (10, 15), (11, 12), (16, 11), (17, 12), (13, 14), (14, 15), (18, 14),
   (16, 15), (19, 15), (16, 17), (16, 20), (18, 19), (19, 20)]

def apolloChip := plainChip 20 apolloPairs

def apolloRelaxation :=
  [49500, 49400, 41500, 50300, 49100, 48700, 48800, 49900, 48200, 49600, 42700, 50100, 47500, 48300, 39200,
   49000, 49100, 49200, 41600, 41800]

def apolloCoherence :=
  [9100, 10100, 10900, 9600, 8900, 10200, 8500, 9000, 9300, 9800, 9400, 9900, 10000, 9000, 9500, 9700, 10100,
   9200, 8200, 12000]

def apolloErrors :=
  [116, 102, 182, 100, 119, 110, 124, 109, 111, 132, 114, 116, 112, 107, 211, 119, 126, 133, 160, 115]

def apolloProfile : Profile :=
  plainProfile "sample-chip" apolloPairs
    apolloRelaxation apolloCoherence apolloErrors
    [1200, 1210, 1020, 1500, 1030, 1600, 1170, 980, 2100, 1870, 1350, 1410, 1920, 1830, 1330, 1090, 1340, 1220,
     1000, 2010, 1800, 1270, 1420, 1910, 1460, 1620, 1330, 2200, 1900, 1140]
    42.0 130.0
    [(510, 520), (490, 480), (570, 490), (490, 480), (500, 510), (530, 550), (510, 520), (580, 500), (520, 490),
     (440, 490), (560, 490), (510, 500), (530, 510), (480, 490), (460, 490), (440, 510), (480, 480), (490, 520),
     (500, 510), (560, 570)]

/-- The neighbours on a lattice whose rows have a first column and a length. -/
def latticePairs (rs : List (Nat × Nat)) :=
  let numbered := (rs.zipIdx.flatMap fun ((x, len), r) => (List.range len).map (r, x + ·)).zipIdx 1
  numbered.flatMap fun ((r, col), n) =>
    [(r, col + 1), (r + 1, col)].filterMap fun s => (numbered.lookup s).map fun y => (n, y)

def aphroditePairs := latticePairs [(4, 2), (2, 5), (1, 7), (0, 8), (0, 9), (1, 8), (1, 7), (2, 5), (3, 3)]

def aphroditeChip := plainChip 54 aphroditePairs

def aphroditeProfile : Profile :=
  let repeated (vs : List Nat) : List Nat := (vs ++ vs ++ vs).take 54
  plainProfile "sample-aphrodite-noise-model" aphroditePairs
    (repeated apolloRelaxation) (repeated apolloCoherence) (repeated apolloErrors)
    [1200, 1500, 1210, 1020, 1500, 1500, 1030, 1500, 1500, 1600, 1170, 980, 2100, 1500, 1870, 1350, 1410, 1500,
     1920, 1500, 1830, 1330, 1500, 1090, 1500, 1500, 1340, 1500, 1500, 1500, 1500, 1500, 1500, 1500, 1500, 1220,
     1000, 2010, 1800, 1270, 1420, 1500, 1910, 1500, 1500, 1460, 1620, 1330, 2200, 1900, 1140, 1200, 1210, 1020,
     1500, 1030, 1600, 1170, 980, 2100, 1870, 1350, 1410, 1920, 1830, 1330, 1090, 1340, 1220, 1000, 2010, 1800,
     1500, 1270, 1500, 1420, 1500, 1910, 1460, 1620, 1330, 1500, 1500, 1500, 1500, 1500, 2200, 1900, 1140, 1200]
    40.0 120.0
    [(510, 520), (490, 480), (570, 490), (490, 480), (500, 500), (530, 550), (510, 520), (580, 500), (520, 490),
     (440, 490), (560, 490), (510, 500), (530, 510), (500, 500), (460, 490), (500, 500), (480, 480), (500, 500),
     (500, 500), (560, 570), (510, 520), (490, 480), (570, 490), (490, 480), (500, 500), (530, 550), (510, 520),
     (580, 500), (520, 490), (440, 490), (560, 490), (510, 500), (530, 510), (480, 490), (460, 490), (440, 510),
     (480, 480), (490, 520), (500, 510), (560, 570), (510, 520), (490, 480), (570, 490), (490, 480), (500, 510),
     (530, 550), (500, 500), (500, 500), (500, 500), (510, 520), (580, 500), (520, 490), (440, 490), (560, 490)]

def garnetProfile : Profile :=
  plainProfile "Garnet" apolloPairs
    [37741, 32584, 24468, 11555, 34257, 40051, 35708, 25686, 34113, 37391, 25809, 60725, 44802, 48137, 39052,
     43968, 36670, 38151, 50012, 54911]
    [9180, 10040, 10950, 9670, 8960, 10130, 8590, 9050, 9380, 9820, 9460, 9940, 10070, 9030, 9590, 9710, 10180,
     9250, 8270, 11930]
    [85, 183, 165, 111, 114, 384, 265, 84, 122, 113, 274, 76, 89, 74, 278, 67, 85, 61, 69, 88]
    [578, 804, 749, 809, 599, 431, 650, 474, 339, 527, 1401, 294, 399, 485, 638, 548, 682, 961, 899, 712, 407,
     251, 506, 420, 771, 711, 643, 562, 507, 578]
    20.0 40.0
    [(255, 260), (245, 240), (285, 245), (245, 240), (250, 255), (265, 275), (255, 260), (290, 250), (260, 245),
     (220, 245), (280, 245), (255, 250), (265, 255), (240, 245), (230, 245), (220, 255), (240, 240), (245, 260),
     (250, 255), (280, 285)]

def denebChip : StaticArch where
  qubits := qubitNames 6
  resonators := ["CR1"]
  connectivity := (qubitNames 6).map fun q => ["CR1", q]

def denebProfile : Profile :=
  let qs := qubitNames 6
  let each (x : Float) := byName qs (.replicate 6 x)
  let ps (x : Float) : Table Names Number := .ofList (qs.map (([·, "CR1"], .float x)))
  { relaxation := (byName ["CR1"] [5400.0]).insertMany (each 35000.0).entries
    coherence := (byName ["CR1"] [10800.0]).insertMany (each 33000.0).entries
    singleErrors := .ofList [("prx", each 0.0002)]
    pairErrors := .ofList [("cz", ps 0.0128), ("move", ps 0.0)]
    singleDurations := byName ["prx"] [40.0]
    pairDurations := byName ["cz", "move"] [120.0, 96.0]
    readout := .ofList (qs.map ((·, byName ["0", "1"] [0.02, 0.02])))
    name := some "Deneb" }

def designs : Named (StaticArch × Profile) :=
  [("Adonis", adonisChip, adonisProfile), ("Aphrodite", aphroditeChip, aphroditeProfile),
   ("Apollo", apolloChip, apolloProfile), ("Deneb", denebChip, denebProfile), ("Garnet", apolloChip, garnetProfile)]

def named? (n : String) := (designs.lookup n).map fun (c, p) => Device.make c p s!"IQMFake{n}Backend"

end Transmon.Simulated
