import Transmon.Settings.Tree

/-!
Assigning to the keys and paths of a tree of settings.
-/

namespace Transmon.Settings.Tree

variable (k : String) (se : Setting)

def putSetting : Change Unit := modify fun t => { t with settings := Table.put k se t.settings }

def assignValue (v : Value) : Change Unit := do
  let t ← get
  match t.settings.lookup k with
  | some s => putSetting k (← s.update v)
  | none =>
    match k, v with
    | "name", .text name => set { t with name }
    | "path", .text path => set { t with path }
    | "align_name", v => set { t with aligned := v.isFilled && !v.equal (.bool false) }
    | _, _ => set { t with extras := Table.put k v t.extras }

variable (a : Assigned)

def assign : Change Unit := do
  let t ← get
  let path := t.pathOf k
  let putSetting (s : Setting) : Tree :=
    { t with
      settings := Table.put k s t.settings
      subtrees := t.subtrees.filter (·.1 != k) }
  match a with
  | .setting s => set (putSetting (s.placed t.aligned path))
  | .param p => set (putSetting { param := if t.aligned then p.renamed path else p, path })
  | .tree subtree =>
    set { t with
      subtrees := Table.put k (subtree.placed path) t.subtrees
      settings := t.settings.filter (·.1 != k) }
  | .value v => assignValue k v

def within {α : Type} (k : String) (change : Change α) : Change α := do
  let t ← get
  let (r, changed) := change.run.run (← require .noAttr (t.subtrees.lookup k))
  set { t with subtrees := Table.put k changed t.subtrees }
  r

def descend (change : Change Unit) (atSetting : Check) : Names → Change Unit
  | [] => change
  | k :: xs => do
    let t ← get
    match t.child? k with
    | some (.tree _) => within k (descend change atSetting xs)
    | some (.setting _) => if xs.isEmpty then atSetting else fail .noAttr
    | none => do
      assign k (.tree { name := k, aligned := t.aligned })
      within k (descend change atSetting xs)

def added (value? : Option Value) (source? : Option Value) : Outcome Assigned := do
  let source (own : Option Value) : Option Value :=
    match source? with
    | some x => if x.isFilled then some x else own
    | none => own
  let value (own : Value) : Value :=
    match value? with
    | some x => if x.isNone then own else x
    | none => own
  match a with
  | .setting s => .setting <$> Setting.make s.param (value s.value) false "" (source s.source)
  | .param p => .setting <$> Setting.make p (value .none) false "" (source none)
  | y => pure y

def assignAt (a : Assigned) : Names → Change Unit
  | [] => pure ()
  | [k] => assign k a
  | k :: xs => do
    let whole := ".".intercalate (k :: xs)
    if (".".intercalate xs).isEmpty then assign whole a
    else
      match (← get).child? k with
      | some (.setting _) => refuse s!"Path '{whole}' is invalid: '{k}' is a setting, not a node."
      | some (.tree _) =>
        tryCatch (within k (assignAt a xs)) fun f =>
          if f.kind = .type then refuse s!"Path '{whole}' is invalid: '{k}' is a setting, not a node."
          else throw f
      | none =>
        match a with
        | .value v =>
          refuse s!"Assigning value {v.plain} to path {whole} cannot be done when this path is not found in self."
        | a => descend (do assign ((k :: xs).getLastD "") (← added a none none)) (fail .type) ((k :: xs).dropLast)

def setPath (p : String) (a : Assigned) := assignAt a (keysOf p)

def delete : Change Unit := do
  let t ← get
  if (t.settings.lookup k).isSome then set { t with settings := t.settings.filter (·.1 != k) }
  else if (t.subtrees.lookup k).isSome then set { t with subtrees := t.subtrees.filter (·.1 != k) }
  else if (t.extras.lookup k).isSome then set { t with extras := t.extras.filter (·.1 != k) }
  else fail .missing

def addBelow (p : String) (ns : Named (String × Assigned)) (vs : Dict) (source? : Option Value) : Change Unit :=
  let made (n : String) (a : Assigned) := added a (vs.lookup n) source?
  let atSetting : Check := match ns with
    | [] => pure ()
    | (_, n, a) :: _ => do
      let _ ← made n a
      fail .type
  descend (ns.forM fun (k, n, a) => do setPath k (← made n a)) atSetting (keysOf p)

def arranged (t : Tree) : Outcome Tree := do
  let placedTrees := t.subtrees.map fun e => (e.1, e.2.placed (t.pathOf e.1))
  let change := do
    t.settings.forM fun e => setPath e.1 (.setting (e.2.placed t.aligned (t.pathOf e.1)))
    if !t.path.isEmpty && t.aligned then assign "name" (.value (.text t.path))
  change.after { t with subtrees := placedTrees }

def make (name : String) (cs : Named Assigned) (path : String := "") (aligned : Bool := true)
    (arrange : Bool := true) : Outcome Tree := do
  let tr : Tree := {
    name, path, aligned
    settings := Table.entries <| .ofList <| cs.filterMap fun
      | (k, .setting s) => some (k, s)
      | (k, .param p) => some (k, { param := p, path := k })
      | _ => none
    subtrees := Table.entries <| .ofList <| cs.filterMap fun
      | (k, .tree t) => some (k, t)
      | _ => none }
  if arrange then tr.arranged else pure tr

def replaceElem (v : Value) : List Int → Value → Outcome Value
  | [], _ => pure v
  | i :: ys, coll => do
    let place (len : Nat) : Outcome Nat :=
      let n := if i < 0 then i + len else i
      if 0 ≤ n ∧ n < len then pure n.toNat else fail .index
    match coll with
    | .list xs =>
      let n ← place xs.length
      return .list (xs.set n (← replaceElem v ys (← require .index (xs[n]?))))
    | .array t (len :: shape) xs =>
      let n ← place len
      let w := Value.sizeOf shape
      if ys.isEmpty then
        return .array t (len :: shape)
          (xs.take (n * w) ++ .replicate w (← v.convertTo t) ++ xs.drop ((n + 1) * w))
      else
        let .array _ _ changed ← replaceElem v ys (.array t shape ((xs.drop (n * w)).take w))
          | fail .type
        return .array t (len :: shape) (xs.take (n * w) ++ changed ++ xs.drop ((n + 1) * w))
    | .array _ [] _ => fail .index
    | _ => fail .type

def broughtBy (c : Child) : Option (Outcome Value) :=
  match se.param.indices, c with
  | none, c => if c.name == se.name then some (pure se.value) else none
  | some is, .setting s =>
    if se.param.parent.map Prod.fst == some s.name && s.param.indices.isNone then
      match s.value with
      | .list _ | .array _ _ _ => some (replaceElem se.value is s.value)
      | _ => some (fail .noAttr)
    else none
  | some _, .tree _ => none

def withinAll {α : Type} (change : Change α) : Names → Change α
  | [] => change
  | k :: xs => within k (withinAll change xs)

def routes (before : Names) (t : Tree) := (before, t) :: t.subtrees.flatMap fun e => routes (before ++ [e.1]) e.2
decreasing_by grind

def updateSetting : Change Unit := do
  let t ← get
  let x := (routes [] t).findSome? fun (r, n) =>
    n.children.findSome? fun e => (broughtBy se e.2).map fun (v : Outcome Value) => (r, e.1, v)
  let some (r, k, v) := x
    | failWith .unknownSetting s!"No Setting with name {se.name} was found in SettingNode \"{t.name}\"."
  withinAll (do setPath k (.value (← v))) r

def assignEntry (strict : Bool) (source : Option Value) (k : String) (v : Value) : Change Unit := do
  let t ← get
  let putUpdated := do putSetting k (← (← require .missing (t.settings.lookup k)).update v source)
  match t.child? k, v with
  | none, _ =>
    if strict then failWith .unknownSetting s!"Tried to set {k} to {v.plain}, but no such node exists in {t.name}."
  | some (.tree _), .dict es => within k (do let _ ← es.mapM fun e => assignEntry false none e.1 e.2)
  | _, .text s =>
    if let .one type := (← require .missing (t.settings.lookup k)).param.data then let _ ← type.cast (.text s)
    fail .noAttr
  | _, _ => putUpdated
decreasing_by grind

def assignTable (strict : Bool) (s : Option Value) (es : Dict) : Change Unit :=
  es.forM fun e => assignEntry strict s e.1 e.2

/-!
Trees of settings put together.
-/

def nameBelow (parent n : String) := n.replace s!"{parent}." ""

def properties (t : Tree) : Dict :=
  [("name", .text t.name), ("path", .text t.path), ("align_name", .bool t.aligned)] ++ t.extras

def overwriteSettings (mergeEmpty aligned : Bool) (ss : Named Setting) : Change Unit :=
  ss.forM fun e => do
    if mergeEmpty || !e.2.value.isNone then if aligned then setPath e.1 (.setting e.2) else putSetting e.1 e.2

def putSubtree (aligned : Bool) (k : String) (subtree : Tree) :=
  if aligned then setPath k (.tree subtree)
  else modify fun t => { t with subtrees := Table.put k subtree t.subtrees }

/-- Writes a tree that is to have a name over the one at hand. Below the top, settings without a value are passed over
and names follow paths. -/
def overwrite (mergeEmpty aligned : Bool) (name : String) (t : Tree) : Change Unit := do
  overwriteSettings mergeEmpty aligned t.settings
  let _ ← t.subtrees.mapM fun e => do
    let renamed := nameBelow name e.2.name
    let some below := (← get).subtrees.lookup e.1 | putSubtree aligned e.1 { e.2 with name := renamed }
    putSubtree aligned e.1 (← (overwrite false true renamed e.2).after below)
  (properties { t with name }).forM fun e => setPath e.1 (.value e.2)
decreasing_by grind

def merge (x y : Tree) (mergeEmpty : Bool := false) (aligned : Bool := true) :=
  (overwrite mergeEmpty aligned x.name x).after y

def fillSettings (prioritize : Bool) (ys : Named Setting) : Change Unit :=
  ys.forM fun e => do
    let some own := (← get).settings.lookup e.1 | pure ()
    if prioritize || own.value.isNone then putSetting e.1 (← Setting.make own.param e.2.value false "" own.source)

def fill (prioritize : Bool) (t : Tree) : Change Unit := do
  fillSettings prioritize t.settings
  let _ ← t.subtrees.mapM fun e => do if ((← get).subtrees.lookup e.1).isSome then within e.1 (fill prioritize e.2)
decreasing_by grind

def superfluous (before : Names) (x t : Tree) :=
  t.subtrees.flatMap fun e =>
    if let some below := x.subtrees.lookup e.1 then superfluous (before ++ [e.1]) below e.2 else [(before, e.1)]
termination_by t
decreasing_by grind

def prune (x : Tree) : Change Unit := do (superfluous [] x (← get)).forM fun (r, k) => withinAll (delete k) r

/-!
Equality and differences of trees of settings.
-/

variable (a b : Named Setting)

def equalSettings := a.length == b.length && a.all fun e => (b.lookup e.1).any (e.2.equal ·)

def equal (t x : Tree) :=
  t.name == x.name && equalSettings t.settings x.settings
    && t.subtrees.length == x.subtrees.length
    && (t.subtrees.map fun e => (x.subtrees.lookup e.1).any (equal e.2)).all id
termination_by t
decreasing_by grind

def stretched : List Nat → List Nat → Outcome (List Nat)
  | [], lengths | lengths, [] => pure lengths
  | m :: ms, n :: ns => do
    if m ≠ n ∧ m ≠ 1 ∧ n ≠ 1 then fail .invalid
    return (if m = 1 then n else m) :: (← stretched ms ns)

def placeIn : (own whole : List Nat) → (place w : Nat) → Nat
  | m :: ms, n :: ns, place, w => (if m = 1 then 0 else place % n * w) + placeIn ms ns (place / n) (w * m)
  | _, _, _, _ => 0

def sameStretched (s t : List Nat) (a b : Values) := do
  let whole ← stretched s.reverse t.reverse
  let (a, b) := (a.toArray, b.toArray)
  return (List.range (Value.sizeOf whole)).all fun k =>
    Value.equal (a.getD (placeIn s.reverse whole k 1) .none) (b.getD (placeIn t.reverse whole k 1) .none)

def valueLine (x y : Value) : Outcome String :=
  match x, y with
  | .array _ s a, .array _ t b => do return if ← sameStretched s t a b then "" else " v: differs"
  | .array _ _ a, y => return if a.all (Value.equal y) then "" else " v: differs"
  | x, .array t s b =>
    match b with
    | [] => pure ""
    | [single] => return if x.equal single then "" else s!" v: {x.plain}/{(Value.array t s b).plain}"
    | _ => fail .invalid
  | x, y => return if x.equal y then "" else s!" v: {x.plain}/{y.plain}"

def propertyLine (tag x y : String) := if x == y then "" else s!" {tag}: {x}/{y}"

def settingLine (a b : Setting) : Outcome String := do
  let x := a.param
  let y := b.param
  let l := k ++ ":" ++ propertyLine "n" x.name y.name ++ propertyLine "l" x.label y.label
    ++ propertyLine "u" x.unit y.unit ++ propertyLine "dt" x.data.shown y.data.shown
    ++ propertyLine "ct" (toString x.collection.code) (toString y.collection.code)
  if x.collection = y.collection then return l ++ (← valueLine a.value b.value) else pure l

def settingLines : Outcome Names := do
  let own ← a.mapM fun e => do
    let some s := b.lookup e.1 | pure [s!"-setting: {e.1}"]
    if e.2.equal s then return [] else pure [← settingLine e.1 e.2 s]
  return own.flatten ++ (b.filter fun e => (a.lookup e.1).isNone).map fun e => s!"+setting: {e.1}"

def diff (p : String) (t x : Tree) : Outcome Names := do
  let ns := if t.name == x.name then [] else [s!"node name: {t.name}/{x.name}"]
  let about ← settingLines t.settings x.settings
  let (own, ys) := (t.subtrees, x.subtrees)
  let missing := (own.filter fun e => (ys.lookup e.1).isNone).map fun e => s!"-subnode: {e.1}"
  let extra := (ys.filter fun e => (own.lookup e.1).isNone).map fun e => s!"+subnode: {e.1}"
  let below ← t.subtrees.mapM fun e => do
    let some x := x.subtrees.lookup e.1 | pure []
    diff (if p.isEmpty then e.1 else p ++ "." ++ e.1) e.2 x
  return (ns ++ about ++ missing ++ extra).map (fun l => s!"{p}: {l}") ++ below.flatten
termination_by t
decreasing_by grind

end Transmon.Settings.Tree
