import Transmon.Builder.Basic
import Transmon.Proofs.Basic

/-!
# Implementations and the calibration they were made from

A builder hands out again what it has made. Its answers are those of a builder that is newly made from the present
calibration, as long as no injection changes the data of an implementation that stays ready. Data for a locus of its
own changes none; data for the empty locus, which all loci share, can.
-/

namespace Transmon.Builder

open Outcome Work Table

/-- A request for an implementation. -/
structure Request where
  operation : String
  locus : List String
  name : Option String
  (byPriority strict : Bool)

def Request.implement (request : Request) : Build Nat :=
  Build.implementNamed request.operation request.locus request.name request.byPriority request.strict none

/-- The builder that work leaves. -/
def after {α : Type} (builder : Builder) (work : Build α) : Builder := (runFrom work builder).2

variable (builder : Builder)

/-- The data of the implementation that answers a request. -/
def answer (request : Request) : Outcome CalibrationData := do
  let number ← (runFrom request.implement builder).1
  let made ← require .missing (builder.after request.implement).implementations[number]?
  return made.calibration

/-- A builder that is newly made from the same parts gives the same answers. -/
def Faithful : Prop :=
  ∃ fresh, make builder.station builder.operations builder.calibration = .ok fresh ∧
    ∀ request, builder.answer request = fresh.answer request

/-- The data that a new implementation would have. -/
def dataAt (operation : Operation) (place : String × List String) : Outcome CalibrationData :=
  Implementation.calibration <$> builder.implementation operation place.1 place.2 none

/-- New implementations of what is ready after a change would have the same data before it. -/
def Spares (builder later : Builder) : Prop :=
  ∀ operation place number, later.operations.get? operation.name = some operation →
    later.ready.lookup (operation.name, place) = some number →
      later.dataAt operation place = builder.dataAt operation place

/-- The builders that requests and sparing injections lead to. -/
inductive Reached (start : Builder) : Builder → Prop
  | start : Reached start start
  | request {builder : Builder} (request : Request) (reached : Reached start builder) :
    Reached start (builder.after request.implement)
  | inject {builder : Builder} (tree : CalibrationTree) (reached : Reached start builder)
    (spares : builder.Spares (builder.after (Build.inject tree))) : Reached start (builder.after (Build.inject tree))

variable {builder b later start : Builder} {op : Operation} {place : String × List String} {request : Request}

/-!
Requests.
-/

/-- The operation and the place that a request means. -/
def lookUp (request : Request) : Outcome (Operation × String × List String) :=
  builder.locate request.operation request.locus request.name request.byPriority request.strict

theorem get?_of_lookUp (found : b.lookUp request = .ok (op, place)) :
    b.operations.get? request.operation = some op := by
  unfold lookUp locate at found
  cases present : b.operations.get? request.operation with
  | none => simp [present] at found
  | some known =>
    rw [present] at found
    obtain ⟨name, -, found⟩ := bind_eq_ok_iff.mp found
    obtain ⟨place, -, found⟩ := bind_eq_ok_iff.mp found
    rw [(Prod.mk.inj (pure_eq_ok_iff.mp found)).1]

def enter (place : String × String × List String) (made : Implementation) : Builder :=
  { builder with
    implementations := builder.implementations.push made
    ready := (place, made.number) :: builder.ready }

/-- A request is refused, or it is answered with what is ready at its place, or with a new implementation, which is
entered there. -/
theorem runFrom_request (request : Request) :
    runFrom request.implement b =
      match b.lookUp request with
      | .error fault => (.error fault, b)
      | .ok (known, place) =>
        match b.ready.lookup (known.name, place) with
        | some number => (.ok number, b)
        | none =>
          match b.implementation known place.1 place.2 none with
          | .error fault => (.error fault, b)
          | .ok made => (.ok made.number, b.enter (known.name, place) made) := by
  unfold Request.implement Build.implementNamed lookUp
  rw [runFrom_bind, show runFrom get b = (.ok b, b) from rfl]
  dsimp only
  cases b.locate request.operation request.locus request.name request.byPriority request.strict with
  | error fault => rfl
  | ok target =>
    obtain ⟨known, place⟩ := target
    change runFrom (Build.implement known place.1 place.2 none) b = _
    unfold Build.implement
    rw [runFrom_bind, show runFrom get b = (.ok b, b) from rfl]
    simp only [Option.isNone_none, if_true]
    cases b.ready.lookup (known.name, place) with
    | some number => rfl
    | none =>
      rw [runFrom_bind]
      cases b.implementation known place.1 place.2 none with
      | error fault => rfl
      | ok made => rfl

theorem number_of_implementation {made : Implementation}
    (run : b.implementation op place.1 place.2 none = .ok made) :
    made.number = b.implementations.size := by
  obtain ⟨design, -, run⟩ := bind_eq_ok_iff.mp run
  obtain ⟨data, -, run⟩ := bind_eq_ok_iff.mp run
  obtain ⟨prepared, -, run⟩ := bind_eq_ok_iff.mp run
  obtain rfl := pure_eq_ok_iff.mp run
  rfl

/-- A request leaves the builder as it is, or enters the new implementation that answers it. -/
theorem after_request (request : Request) :
    b.after request.implement = b ∨
      ∃ known place made, b.lookUp request = .ok (known, place) ∧
        b.implementation known place.1 place.2 none = .ok made ∧
        b.after request.implement = b.enter (known.name, place) made := by
  unfold after
  rw [runFrom_request]
  cases found : b.lookUp request with
  | error fault => exact .inl rfl
  | ok target =>
    obtain ⟨known, place⟩ := target
    dsimp only
    cases b.ready.lookup (known.name, place) with
    | some number => exact .inl rfl
    | none =>
      dsimp only
      cases run : b.implementation known place.1 place.2 none with
      | error fault => exact .inl rfl
      | ok made => exact .inr ⟨known, place, made, rfl, run, rfl⟩

theorem answer_of_ready {number : Nat} {made : Implementation} (found : b.lookUp request = .ok (op, place))
    (ready : b.ready.lookup (op.name, place) = some number)
    (stored : b.implementations[number]? = some made) : b.answer request = .ok made.calibration := by
  simp only [answer, after, runFrom_request, found, ready, ok_bind, stored]
  rfl

theorem answer_of_new (found : b.lookUp request = .ok (op, place))
    (absent : b.ready.lookup (op.name, place) = none) :
    b.answer request = b.dataAt op place := by
  simp only [answer, after, runFrom_request, found, absent, dataAt]
  cases run : b.implementation op place.1 place.2 none with
  | error fault => rfl
  | ok made =>
    have stored : (b.enter (op.name, place) made).implementations[made.number]? = some made := by
      simp [enter, number_of_implementation run]
    simp only [ok_bind, stored]
    rfl

/-- The data of a new implementation do not depend on what was made before. -/
theorem dataAt_congr (station : later.station = b.station)
    (data : ∀ design, later.dataFor op place.1 design place.2 none =
      b.dataFor op place.1 design place.2 none) :
    later.dataAt op place = b.dataAt op place := by
  simp only [dataAt, implementation, station, data, map_bind, map_pure]

/-- What is ready was found by some request, and a new implementation would have the data of the one that is kept. -/
def Current (builder : Builder) : Prop :=
  ∀ key place number, builder.ready.lookup (key, place) = some number →
    ∃ operation made, operation.name = key ∧ builder.operations.get? key = some operation ∧
      builder.implementations[number]? = some made ∧ builder.dataAt operation place = .ok made.calibration ∧
      ∃ request, builder.lookUp request = .ok (operation, place)

/-- Every operation stands in the table under its name, and none has a name that a builder needs for itself. -/
structure Sound (operations : OperationTable) : Prop where
  keyed : ∀ name operation, operations.get? name = some operation → operation.name = name
  allowed : operations.keys.any reservedNames.contains = false

theorem Current.afterRequest (current : b.Current) (sound : Sound b.operations) (request : Request) :
    (b.after request.implement).Current := by
  obtain same | ⟨known, place, made, found, run, entered⟩ := after_request request
  · rwa [same]
  rw [entered]
  intro key other number ready
  have still op place :
      (b.enter (known.name, other) made).dataAt op place = b.dataAt op place :=
    dataAt_congr rfl fun _ => rfl
  by_cases same : (key, other) = (known.name, place)
  · obtain ⟨rfl, rfl⟩ := Prod.mk.inj same
    obtain rfl : made.number = number := by simpa [enter] using ready
    have present := get?_of_lookUp found
    refine ⟨known, made, rfl, sound.keyed _ _ present ▸ present, ?_, ?_, request, found⟩
    · simp [enter, number_of_implementation run]
    · rw [still, dataAt, run]
      rfl
  · rw [enter, lookup_cons_of_ne same] at ready
    obtain ⟨op, old, rfl, known, stored, data, places⟩ := current _ _ _ ready
    have inside : number ≠ b.implementations.size := Nat.ne_of_lt (Array.getElem?_eq_some_iff.mp stored).1
    refine ⟨op, old, rfl, known, ?_, (still _ _).trans data, places⟩
    simpa [enter, Array.getElem?_push, inside] using stored

/-- What a builder without implementations answers. -/
def firstAnswer (builder : Builder) (request : Request) : Outcome CalibrationData := do
  let (known, place) ← builder.lookUp request
  builder.dataAt known place

theorem Current.answer_eq (current : b.Current) (sound : Sound b.operations) (request : Request) :
    b.answer request = b.firstAnswer request := by
  unfold firstAnswer
  cases found : b.lookUp request with
  | error fault => simp only [answer, runFrom_request, found, error_bind]
  | ok target =>
    obtain ⟨known, place⟩ := target
    cases ready : b.ready.lookup (known.name, place) with
    | none => exact answer_of_new found ready
    | some number =>
      obtain ⟨op, made, -, present, stored, data, -⟩ := current _ _ _ ready
      have asked := get?_of_lookUp found
      rw [sound.keyed _ _ asked, asked] at present
      obtain rfl := Option.some.inj present
      exact (answer_of_ready found ready stored).trans data.symm

/-- A new builder from the parts of another one. -/
def renewed (builder : Builder) : Builder where
  station := builder.station
  operations := builder.operations
  calibration := builder.calibration
  shortcuts := builder.operations.keys

theorem make_eq (sound : Sound b.operations) :
    make b.station b.operations b.calibration = .ok b.renewed := by
  simp only [make, sound.allowed]
  rfl

theorem current_renewed : b.renewed.Current := by
  intro key place number ready
  simp [renewed] at ready

theorem faithful_iff_firstAnswer (sound : Sound b.operations) :
    b.Faithful ↔ ∀ request, b.answer request = b.firstAnswer request := by
  -- A new implementation has another number there, but the same data.
  have data : b.renewed.dataAt = b.dataAt :=
    funext fun _ => funext fun _ => dataAt_congr rfl fun _ => rfl
  have first request : b.renewed.answer request = b.firstAnswer request := by
    rw [current_renewed.answer_eq sound, firstAnswer, data]
    rfl
  constructor
  · rintro ⟨_, made, same⟩ request
    obtain rfl := Except.ok.inj ((make_eq sound).symm.trans made)
    exact (same request).trans (first request)
  · intro same
    exact ⟨_, make_eq sound, fun request => (same request).trans (first request).symm⟩

/-!
Injections.
-/

/-- What no injection changes, apart from what it forgets. -/
structure Keeps (builder later : Builder) : Prop where
  station : later.station = builder.station
  operations : later.operations = builder.operations
  implementations : later.implementations = builder.implementations
  hasDataAt : Calibration.hasDataAt later.calibration = Calibration.hasDataAt builder.calibration
  ready : ∀ place number, later.ready.lookup place = some number → builder.ready.lookup place = some number

namespace Keeps

theorem refl (b : Builder) : Keeps b b := ⟨rfl, rfl, rfl, rfl, fun _ _ => id⟩

theorem trans {last : Builder} (first : Keeps b later) (second : Keeps later last) : Keeps b last where
  station := second.station.trans first.station
  operations := second.operations.trans first.operations
  implementations := second.implementations.trans first.implementations
  hasDataAt := second.hasDataAt.trans first.hasDataAt
  ready place number found := first.ready place number (second.ready place number found)

theorem lookUp_eq (keeps : Keeps b later) (request : Request) : later.lookUp request = b.lookUp request := by
  simp only [lookUp, locate, find, calibratedLocus, keeps.operations, keeps.hasDataAt]

theorem bind {α β : Type} {work : Build α} {next : α → Build β} (first : Keeps b (b.after work))
    (second : ∀ value middle, Keeps middle (middle.after (next value))) : Keeps b (b.after (work >>= next)) := by
  unfold after at first ⊢
  rw [runFrom_bind]
  revert first
  rcases runFrom work b with ⟨outcome, middle⟩
  intro first
  cases outcome with
  | error fault => exact first
  | ok value => exact first.trans (second value middle)

theorem forIn {α : Type} {items : List α} {body : α → PUnit → Build (ForInStep PUnit)}
    (each : ∀ item held, Keeps held (held.after (body item ⟨⟩))) : Keeps b (b.after (forIn items ⟨⟩ body)) := by
  induction items generalizing b with
  | nil => exact .refl b
  | cons item rest ih =>
    rw [List.forIn_cons]
    refine bind (each item b) fun next middle => ?_
    cases next with
    | done => exact .refl middle
    | yield => exact ih

end Keeps

theorem Current.of_spares (current : b.Current) (keeps : Keeps b later) (spares : b.Spares later) :
    later.Current := by
  intro key place number ready
  obtain ⟨op, made, rfl, present, stored, data, request, found⟩ := current _ _ _ (keeps.ready _ _ ready)
  rw [← keeps.operations] at present
  refine ⟨op, made, rfl, present, keeps.implementations ▸ stored, ?_, request, ?_⟩
  · rw [spares op place number present ready, data]
  · rw [keeps.lookUp_eq, found]

/-- Exactly the changes that spare what stays ready leave a faithful builder. -/
theorem Current.faithful_iff (current : b.Current) (sound : Sound b.operations) (keeps : Keeps b later) :
    later.Faithful ↔ b.Spares later := by
  have still : Sound later.operations := keeps.operations ▸ sound
  rw [faithful_iff_firstAnswer still]
  constructor
  · intro same op place number present ready
    obtain ⟨known, made, -, listed, stored, data, request, found⟩ := current _ _ _ (keeps.ready _ _ ready)
    rw [keeps.operations, listed] at present
    obtain rfl := Option.some.inj present
    rw [← keeps.lookUp_eq] at found
    rw [← keeps.implementations] at stored
    have first : later.firstAnswer request = later.dataAt known place := by
      rw [firstAnswer, found, ok_bind]
    rw [← first, ← same, answer_of_ready found ready stored, data]
  · intro spares
    exact (current.of_spares keeps spares).answer_eq still

section place

variable {name impl : String} {locus : List String} {data held fresh : CalibrationData}
  {tree renewed : CalibrationTree}

section Renewed

variable (run : Calibration.renew tree name impl locus data = .ok (held, fresh, renewed))

include run

theorem renew_eq_ok :
    ∃ impls loci, tree.get? name = some impls ∧ impls.get? impl = some loci ∧ loci.get? locus = some held ∧
      renewed = tree.insert name (impls.insert impl (loci.insert locus fresh)) := by
  obtain ⟨impls, first, run⟩ := bind_eq_ok_iff.mp run
  obtain ⟨loci, second, run⟩ := bind_eq_ok_iff.mp run
  obtain ⟨old, third, run⟩ := bind_eq_ok_iff.mp run
  obtain ⟨new, -, run⟩ := bind_eq_ok_iff.mp run
  cases pure_eq_ok_iff.mp run
  exact ⟨impls, loci, requireName_eq_ok_iff.mp first, requireName_eq_ok_iff.mp second,
    require_eq_ok_iff.mp third, rfl⟩

/-- Data are renewed only where there are some. -/
theorem hasDataAt_renew : Calibration.hasDataAt renewed = Calibration.hasDataAt tree := by
  obtain ⟨impls, loci, first, second, third, rfl⟩ := renew_eq_ok run
  funext other otherImplementation otherLocus
  unfold Calibration.hasDataAt
  by_cases sameName : other = name
  · by_cases sameImplementation : otherImplementation = impl
    · by_cases sameLocus : otherLocus = locus
      · simp [sameName, sameImplementation, sameLocus, first, second, third]
      · simp [get?_insert, sameName, sameImplementation, sameLocus, first, second]
    · simp [get?_insert, sameName, sameImplementation, first]
  · simp [get?_insert, sameName]

/-- Data at a locus of their own are read nowhere else. -/
theorem dataAt_renew
    (own : locus ≠ []) {other otherImplementation : String} {otherLocus : List String}
    (unchanged : other = name → otherImplementation = impl → otherLocus = locus → fresh = held) :
    Calibration.dataAt renewed other otherImplementation otherLocus =
      Calibration.dataAt tree other otherImplementation otherLocus := by
  obtain ⟨impls, loci, first, second, third, rfl⟩ := renew_eq_ok run
  unfold Calibration.dataAt
  by_cases sameName : other = name
  · by_cases sameImplementation : otherImplementation = impl
    · have shared data : (loci.insert locus data).getD [] [] = loci.getD [] [] := by
        simp [getD, get?_insert, own.symm]
      by_cases sameLocus : otherLocus = locus
      · simp [sameName, sameImplementation, sameLocus, shared, first, second, third,
          unchanged sameName sameImplementation sameLocus]
      · simp [get?_insert, sameName, sameImplementation, sameLocus, shared, first, second]
    · simp [get?_insert, sameName, sameImplementation, first]
  · simp [get?_insert, sameName]

end Renewed

variable (name impl locus data) in
/-- Data for one place leave the builder as it is, or with the new data and without what is forgotten, which includes
the place itself if the comparison finds a change. -/
theorem after_injectAt :
    b.after (Build.injectAt name impl locus data) = b ∨
      ∃ held fresh tree kept,
        Calibration.renew b.calibration name impl locus data = .ok (held, fresh, tree) ∧
        b.after (Build.injectAt name impl locus data) =
          { b with calibration := tree, ready := kept } ∧
        (∀ place number, kept.lookup place = some number → b.ready.lookup place = some number) ∧
        (Value.differ (.dict held) (.dict fresh) = .ok true → (b.operations.get? name).isSome →
          kept.lookup (name, impl, locus) = none) := by
  unfold after Build.injectAt
  rw [runFrom_bind, show runFrom get b = (.ok b, b) from rfl]
  dsimp only
  cases run : Calibration.renew b.calibration name impl locus data with
  | error fault => exact .inl rfl
  | ok result =>
    obtain ⟨held, fresh, tree⟩ := result
    refine .inr ⟨held, fresh, tree, ?_⟩
    simp only [lift_ok, pure_bind, true_and]
    cases ready : b.ready.lookup (name, impl, locus) with
    | none => exact ⟨b.ready, rfl, fun _ _ => id, fun _ _ => ready⟩
    | some number =>
      cases Value.differ (.dict held) (.dict fresh) with
      | error fault => exact ⟨b.ready, rfl, fun _ _ => id, by simp⟩
      | ok changed =>
        cases changed with
        | false => exact ⟨b.ready, rfl, fun _ _ => id, by simp⟩
        | true =>
          cases b.operations.get? name with
          | none => exact ⟨b.ready, rfl, fun _ _ => id, by simp⟩
          | some known =>
            let isKept (place : String × String × List String) : Bool :=
              !(place.1 == name && place.2.1 == impl &&
                (place.2.2 == locus || (known.isFactorizable && Names.meets place.2.2 locus)))
            have kept place : (b.ready.filter fun e => isKept e.1).lookup place =
                if isKept place then b.ready.lookup place else none :=
              get?_filter_key (t := ⟨b.ready⟩) isKept
            refine ⟨b.ready.filter fun e => isKept e.1, rfl, fun place number found => ?_, fun _ _ => ?_⟩
            · rw [kept] at found
              exact (Option.ite_none_right_eq_some.mp found).2
            · rw [kept]
              simp [isKept]

variable (name impl locus data) in
theorem keeps_injectAt : Keeps b (b.after (Build.injectAt name impl locus data)) := by
  obtain same | ⟨_, _, tree, kept, run, left, fewer, -⟩ := after_injectAt name impl locus data
  · rw [same]
    exact .refl b
  · rw [left]
    exact ⟨rfl, rfl, rfl, hasDataAt_renew run, fewer⟩

/-- Data for a locus of its own spare what stays ready, if the comparison with the old data finds every change. -/
theorem spares_injectAt (own : locus ≠ [])
    (compared : ∀ held fresh tree,
      Calibration.renew b.calibration name impl locus data = .ok (held, fresh, tree) →
        fresh = held ∨ Value.differ (.dict held) (.dict fresh) = .ok true) :
    b.Spares (b.after (Build.injectAt name impl locus data)) := by
  intro op place number present ready
  obtain same | ⟨held, fresh, tree, kept, run, left, -, forgotten⟩ := after_injectAt name impl locus data
  · rw [same]
  rw [left] at present ready ⊢
  have same : Calibration.dataAt tree op.name place.1 place.2 =
      Calibration.dataAt b.calibration op.name place.1 place.2 := by
    refine dataAt_renew run own fun sameName sameImplementation sameLocus => ?_
    refine (compared held fresh tree run).resolve_right fun changed => ?_
    subst sameName sameImplementation sameLocus
    have gone := forgotten changed (by simp [present])
    simp [gone] at ready
  refine dataAt_congr rfl fun design => ?_
  unfold dataFor
  rw [same]

end place

theorem keeps_inject (tree : CalibrationTree) : Keeps b (b.after (Build.inject tree)) := by
  refine .bind ⟨rfl, rfl, rfl, rfl, fun _ _ => id⟩ fun _ _ => ?_
  refine .bind (.forIn fun _ _ => ?_) fun _ middle => .refl middle
  refine .bind (.forIn fun _ _ => ?_) fun _ middle => .refl middle
  refine .bind (.forIn fun _ _ => ?_) fun _ middle => .refl middle
  exact .bind (keeps_injectAt ..) fun _ middle => .refl middle

theorem Reached.current (reached : Reached start b) (current : start.Current) (sound : Sound start.operations) :
    b.Current ∧ b.operations = start.operations := by
  induction reached with
  | start => exact ⟨current, rfl⟩
  | request request _ ih =>
    refine ⟨ih.1.afterRequest (ih.2 ▸ sound) request, ?_⟩
    obtain left | ⟨_, _, _, -, -, left⟩ := after_request request <;> rw [left]
    exacts [ih.2, ih.2]
  | inject tree _ spares ih =>
    exact ⟨ih.1.of_spares (keeps_inject tree) spares, (keeps_inject tree).operations.trans ih.2⟩

/-- Requests are answered as by a new builder. This goes on after an injection exactly if it spares what stays ready,
which data for a locus of their own do if their comparison with the old data finds every change. -/
theorem faithful_of_reached {station : Station} {operations : OperationTable} {calibration : CalibrationTree}
    (made : make station operations calibration = .ok start)
    (keyed : ∀ name operation, operations.get? name = some operation → operation.name = name)
    (reached : Reached start builder) :
    builder.Faithful ∧
      (∀ tree, (builder.after (Build.inject tree)).Faithful ↔ builder.Spares (builder.after (Build.inject tree))) ∧
      ∀ name implementation locus data, locus ≠ [] →
        (∀ held fresh tree,
          Calibration.renew builder.calibration name implementation locus data = .ok (held, fresh, tree) →
            fresh = held ∨ Value.differ (.dict held) (.dict fresh) = .ok true) →
        builder.Spares (builder.after (Build.injectAt name implementation locus data)) := by
  obtain ⟨allowed, same⟩ := (Outcome.unless_eq_ok_iff (by simp)).mp made
  obtain rfl := Outcome.pure_eq_ok_iff.mp same
  have sound : Sound operations := ⟨keyed, Bool.eq_false_iff.mpr allowed⟩
  obtain ⟨current, same⟩ := reached.current (fun _ _ _ ready => by simp at ready) sound
  rw [← show builder.operations = operations from same] at sound
  exact ⟨(current.faithful_iff sound (.refl builder)).mpr fun _ _ _ _ _ => rfl,
    fun tree => current.faithful_iff sound (keeps_inject tree),
    fun _ _ _ _ own compared => spares_injectAt own compared⟩

/-- A gate whose amplitude is the same for all loci. -/
def tunedOperation : Operation where
  name := "tuned"
  arity := 1
  implementations :=
    ⟨[("plain", { name := "Plain", family := .barrier, params := [("amplitude", .item { label := "amplitude" })] })]⟩

def sharedAmplitude (amplitude : Int) : List (List String × CalibrationData) := [([], [("amplitude", .int amplitude)])]

def tunedBuilder : Builder where
  station := { chip := ⟨["QB1"], [], [], [], ∅, ∅, ∅, ∅, ∅⟩, channels := ∅, lines := ∅ }
  operations := ⟨[("tuned", tunedOperation)]⟩
  calibration := ⟨[("tuned", ⟨[("plain", ⟨sharedAmplitude 1 ++ [(["QB1"], [])]⟩)]⟩)]⟩
  shortcuts := ["tuned"]

def tunedRequest : Request := ⟨"tuned", ["QB1"], none, true, false⟩

def retuned : CalibrationTree := ⟨[("tuned", ⟨[("plain", ⟨sharedAmplitude 2⟩)]⟩)]⟩

def amplitude : Outcome CalibrationData → Int
  | .ok [(_, .int value)] => value
  | _ => 0

/-- A new amplitude for all loci does not reach the implementation that is ready. -/
theorem retuned_unfaithful :
    (tunedBuilder.after tunedRequest.implement).Faithful ∧
      ¬((tunedBuilder.after tunedRequest.implement).after (Build.inject retuned)).Faithful := by
  have keyed : ∀ name operation, tunedBuilder.operations.get? name = some operation → operation.name = name := by
    intro name operation found
    obtain ⟨rfl, rfl⟩ : name = "tuned" ∧ operation = tunedOperation := by
      simpa [tunedBuilder] using Table.mem_entries_of_get? found
    rfl
  have sound : Sound tunedBuilder.operations := ⟨keyed, by decide⟩
  obtain ⟨faithful, transparent, -⟩ := faithful_of_reached (make_eq sound) keyed (.request tunedRequest .start)
  refine ⟨faithful, fun still => ?_⟩
  have known : ((tunedBuilder.after tunedRequest.implement).after (Build.inject retuned)).operations.get? "tuned" =
      some tunedOperation := by
    rw [(keeps_inject retuned).operations]
    rfl
  have same := (transparent retuned).mp still tunedOperation ("plain", ["QB1"]) 0 known (by decide +kernel)
  exact absurd (congrArg amplitude same) (by decide +kernel)

end Transmon.Builder
