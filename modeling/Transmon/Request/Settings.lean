import Transmon.Form.Settings

/-!
Requests about parameters, settings and sweeps.
-/

namespace Transmon.Request.Settings

open Form Transmon.Settings SettingSet Wire
open Transmon.Settings (Tree Child Assigned Change)

abbrev Store := Table String Tree

def stored (n : String) : Action Store Tree := do (← get).need n

def changing (n : String) (change : Change Unit) : Action Store Json := do
  let (result, after) := change.run.run (← stored n)
  modify (·.insert n after)
  result
  return tree after

def assigned (s : Json) := do
  let some c := s.field? "child" | .value <$> toTagged (s.get "value")
  toAssigned maxTreeDepth c

def addedNodes (j : Json) : Outcome (Named (String × Assigned)) := do
  let nameOf : Assigned → String
    | .setting s => s.name
    | .param p => p.name
    | .tree t => t.name
    | .value _ => ""
  match j with
  | .object fs =>
    fs.mapM fun e => do
      let node ← toAssigned maxTreeDepth e.2
      pure (e.1, nameOf node, node)
  | y => do
    listOf y fun x => do
      let node ← toAssigned maxTreeDepth x
      pure (((nameOf node).splitOn ".").getLastD "", nameOf node, node)

def isIdentifier (s : String) :=
  match s.toList with
  | [] => false
  | x :: xs => (x.isAlpha || x == '_' || x.toNat ≥ 128) && xs.all fun c => c.isAlphanum || c == '_' || c.toNat ≥ 128

def classAndName (c : Child) : List Json := [c.kindName, c.name]

variable (r : Json)

def start : Outcome Store := .ofList <$> readAll settingsTree (r.get "trees").fields

def step (step : Json) : Action Store Json := do
  let n := textD step "tree" "a"
  let x := textD step "other" "b"
  let locus := needAs step "locus" toSettingsLocus
  let packed := do packTree (boolD step "minimal" false) (← stored n)
  match verb step with
  | "show" => tree <$> stored n
  | "set" =>
    let p ← needText step "path"
    let _ ← stored n
    changing n (Tree.setPath p (← assigned step))
  | "delete" => changing n (Tree.delete (← needText step "path"))
  | "merge" =>
    let first ← stored n
    let z ← stored x
    let m ← first.merge z (boolD step "merge_nones" false) (boolD step "align_name" true)
    if !boolD step "deep_copy" true then
      modify fun store => store.insert x { z with settings := m.settings, subtrees := m.subtrees }
    modify fun store => store.insert (textD step "into" "merged") m
    return tree m
  | "merge_values" => changing n (Tree.fill (boolD step "prioritize" false) (← stored x))
  | "prune" => changing n (Tree.prune (← stored x))
  | "transform" =>
    let changed := (← stored n).withoutPaths
    modify (·.insert n changed)
    return tree changed
  | "set_from_dict" =>
    let vs ← fieldsOf (← need step "values") toTagged
    changing n (Tree.assignTable (boolD step "strict" false) (toSource step) vs)
  | "add" =>
    let ns ← needAs step "nodes" addedNodes
    let vs ← readAll toTagged (step.get "values").fields
    changing n (Tree.addBelow (← needText step "path") ns vs (toSource step))
  | "set_source" => changing n (modify (.sourced (toSource step) (boolD step "ignore_nones" true)))
  | "unpack" => tree <$> unpackTree maxDepth (← packed)
  | "pack" => toJson schema camelCase maxDepth "SettingNode" (← packed)
  | "brief" => brief <$> stored n
  | "get" => child <$> (← stored n).atPath (← needText step "path")
  | "attribute" => child <$> (← stored n).child (← needText step "key")
  | "find" =>
    let some y := (← stored n).find? (← needText step "name") | pure .null
    return .array (classAndName y ++ [.text y.path])
  | "parent" => return (← (← stored n).parentOf (← needText step "name")).name
  | "by_type" =>
    let t ← stored n
    let all := if boolD step "recursive" false then t.everything else t.children.map Prod.snd
    let chosen := match (step.get "type").text? with
      | some "setting" => all.filter (!·.isTree)
      | some "node" => all.filter Child.isTree
      | _ => all
    return .list chosen (classAndName ·)
  | "children" =>
    let t ← stored n
    let ks := t.settings.map Prod.fst ++ t.subtrees.map Prod.fst
    pure [("children", texts (t.children.map Prod.fst)), ("settings", texts (t.settings.map Prod.fst)),
      ("nodes", texts (t.subtrees.map Prod.fst)), ("keys", texts ks), ("dir", texts (ks.filter isIdentifier)),
      ("all", texts (t.allSettings.map Setting.name))]
  | "update_setting" =>
    let _ ← changing n (Tree.updateSetting (← needAs step "setting" toSetting))
    brief <$> stored n
  | "print" => return (← stored n).outline (← intD step "levels" 5)
  | "text" => return (← stored n).shown
  | "equal" => return n == x || (← stored n).equal (← stored x)
  | "diff" => return texts (Text.sorted (← (← stored n).diff (textD step "path" "") (← stored x)))
  | "with_path_name" =>
    let given ← needAs step "setting" toSetting
    let some y := (← stored n).withPathName? given.name | pure .null
    return setting y
  | "default_implementation" => echo <$> (← stored n).defaultImpl (← needText step "gate") (← locus)
  | "gate_node" =>
    return (← (← stored n).gateNode (← needText step "gate") (← locus) (text? step "implementation")).name
  | "gate_properties" =>
    return (← (← stored n).gateProperties (← needText step "gate") (← locus) (text? step "implementation")).name
  | "locus_paths" =>
    texts <$> (← stored n).locusPaths (← needText step "gate") (← given? step "implementations" toTexts)
  | "si" =>
    let (v, unit) := Tree.handyUnit (← toTagged (step.get "value")) (textD step "unit" "")
    pure [tagged (roundedTwelve v), unit]
  | _ => fail .missing

def answer := continuing r (start r) step

def toIndices : Json → Outcome (List Int)
  | .array ys => ys.mapM toInt
  | index => do pure [← toInt index]

def paramValues (j : Json) : Outcome (Param × Values) :=
  return (← needAs j "parameter" toParam, ← needList j "values" toTagged)

def plainArray (name : String) (j : Json) : Outcome NamedArray := do
  let dims ← needTexts j "dims"
  let .array _ shape items ← Value.toArray none (← needAs j "values" toTagged) | fail .invalid
  if dims.length != shape.length then fail .invalid
  return { name, dims, shape, items
           attrs := toPlainEntries (j.get "attrs").fields }

def paramAnswer : Result := do
  let p := needAs r "parameter" toParam
  let s := needAs r "setting" toSetting
  match what r with
  | "make" => param <$> p
  | "validate" =>
    let p ← p
    return .list (← needList r "values" toTagged) (p.admits ·)
  | "set" => setting <$> Setting.make (← p) (← toTagged (r.get "value"))
  | "element" => param <$> (← p).elem (← needAs r "indices" toIndices)
  | "setting" =>
    let s ← s
    let p := s.param
    return (setting s).fields ++ [("name", .text p.name), ("label", .text p.label), ("unit", .text p.unit),
      ("parent_name", optText (p.parent.map Prod.fst)), ("parent_label", optText (p.parent.map Prod.snd)),
      ("indices", opt (.list · .int) p.indices), ("text", s.shown)]
  | "update" => setting <$> (← s).update (← toTagged (r.get "value")) (toSource r)
  | "with_path" => return setting (.withPathName { (← s) with path := ← needText r "path" })
  | "setting_element" => param <$> (← s).param.elem (← needAs r "indices" toIndices)
  | "equal" =>
    let a ← needAs r "a" toSetting
    let b ← needAs r "b" toSetting
    let sameParam := a.param == b.param
    return .array [a.equal b, sameParam, sameParam]
  | "data_array" =>
    let p ← p
    let dims ← given? r "dims" toTexts
    let coords ← (r.get "coords").fields |> readAll fun j => do
      let (q, vs) ← paramValues j
      NamedArray.ofValues q (.list vs) none [] []
    let md := toPlainEntries (r.get "metadata").fields
    let array ← NamedArray.ofValues p (← needAs r "values" toTagged) dims coords md
    return .object (namedArray array ++ [("coord_attrs", .table array.coords fun e => echo (.dict e))])
  | "data_set" =>
    let axes ← needList r "variables" paramValues
    let observed ← needAs r "data" paramValues
    let extra ← r.each "extra" fun
      | .array [.text m, .int n] => (return (m, n.toNat) : Outcome (String × Nat))
      | _ => fail .type
    let set ← Dataset.ofObservation axes observed extra (toPlainEntries (r.get "attributes").fields)
    let shown (a : NamedArray) : Json := namedArray a
    pure [("vars", .list set.arrays (shown ·.2)),
      ("coords", .list set.coords fun e => shown { e.2 with coords := [(e.1, e.2.attrs)] }),
      ("attrs", echo (.dict set.attrs))]
  | "add_data_array" =>
    let arrays ← (← needAs r "dataset" toFields).mapM fun e => do pure (e.1, ← plainArray e.1 e.2)
    let x ← need r "array"
    let set ← Dataset.add { arrays } (← plainArray (textD x "name" "") x) (text? r "name")
    return .list set.arrays fun e => .array [e.1, echo e.2.values, echo (.dict e.2.attrs)]
  | _ => fail .missing

def settingSet (ss : List Setting) : Json :=
  .list (ss.mergeSort fun a b => Text.ordered a.name b.name) fun s => .array [s.name, tagged s.value]

def startSets := do needList r "sets" fun set => do return (← listOf set toSetting).foldl add []

def setStep (step : Json) : Action (List (List Setting)) Json := do
  let x := (← get).getD 0 []
  let z := (← get).getD 1 []
  match verb step with
  | "get" =>
    let some y := get? x (← needText step "name") | pure .null
    return tagged y.value
  | "remove" => pure [settingSet (erase x (← needText step "name")), settingSet x]
  | "replace" =>
    let changes ← needList step "settings" toSetting
    let changes := if boolD step "list" true then changes else changes.take 1
    return settingSet (replace (if boolD step "in" true then x else []) changes)
  | "diff" => settingSet <$> diff x z
  | "merge" =>
    return settingSet (merge (if boolD step "first" true then x else []) (if boolD step "second" true then z else []))
  | _ => fail .missing

def sweepGroups := do Sweep.groups (← needList r "sweeps" toSweepItem)

def groupsJson (gs : List (List Sweep)) : Json := .list gs (·.map sweep)

def sweepAnswer : Result := do
  let minimal := boolD r "minimal" true
  match what r with
  | "make" => sweep <$> needAs r "sweep" toSweep
  | "check" =>
    let _ ← Sweep.check (← needAs r "parameter" toParam) (← needAs r "data" toTagged)
    pure .null
  | "tuples" => groupsJson <$> sweepGroups r
  | "index" => return groupsJson [[← Sweep.ofIndices (← needAs r "parameter" toParam) (← needInt r "length")]]
  | "pack" => toJson Sweep.schema camelCase maxDepth "CartesianSweep" (← Sweep.packAll minimal (← sweepGroups r))
  | "unpack" => groupsJson <$> Sweep.unpackAll (← Sweep.packAll minimal (← sweepGroups r))
  | "decode" => return texts ((← Sweep.readSweeps (← needText r "text")).map Sweep.Decoded.className)
  | "decode_return_parameters" =>
    return .list (← Sweep.readReturned (← needText r "text")) fun e => [param e.1, decoded e.2]
  | "loads" => decoded <$> Sweep.read (← needText r "text")
  | _ => fail .missing

end Transmon.Request.Settings
