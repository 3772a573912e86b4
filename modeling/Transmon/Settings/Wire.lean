import Transmon.Form.Basic
import Transmon.Settings.Assign
import Transmon.Sweep

/-!
Trees of settings as messages.
-/

namespace Transmon.Settings

open Wire Form

open Wire (Msg)

def packSetting (minimal : Bool) (s : Setting) : Outcome Msg := do
  let v ← match s.value.native.pack with
    | .ok packed => pure packed
    | .error f => if f.kind = .invalid then fail .invalid else throw f
  return (if minimal then [(1, .block (ofText s.name))] else nested 2 s.param.pack) ++ nested 3 v

def unpackSetting (m : Msg) := do
  let p ← match m.choice [(1, 2), (2, 2)] with
    | some (2, .block c) => Param.unpack (← decode c)
    | _ => Param.make (← m.text 1) "" "" (.one .anything)
  let .ok value := Value.unpack (← m.nested 3) | fail .noAttr
  Setting.make p value

def packTree (minimal : Bool) (t : Tree) : Outcome Msg := do
  let ss ← t.settings.mapM fun e => do pure (e.1, ← packSetting minimal e.2)
  let ns ← t.subtrees.mapM fun e => do pure (e.1, ← packTree minimal e.2)
  return text 1 t.name ++ table 2 ss ++ table 3 ns
decreasing_by grind

def unpackTree : Nat → Msg → Outcome Tree
  | 0, _ => fail .undecodable
  | fuel + 1, m => do
    let ss ← (← m.table 2).toList.mapM fun e => do pure (e.1, Assigned.setting (← unpackSetting e.2))
    let ns ← (← m.table 3).toList.mapM fun e => do pure (e.1, Assigned.tree (← unpackTree fuel e.2))
    Tree.make (← m.text 1) (ss ++ ns) "" false

def maxDepth := 100

def schema : Schema
  | "SettingNode" =>
    [.one 1 "name" .text, .one 2 "settings" (.table "Setting"), .one 3 "subnodes" (.table "SettingNode")]
  | "Setting" => [.one 1 "parameter_name" .text, .part 2 "parameter" "Parameter", .part 3 "value" "Datum"]
  | "Parameter" => Param.fields
  | t => Value.schema t

/-!
Trees of settings and sweeps as a database keeps them: as JSON texts.
-/

open Form (toPlain toPlainEntries)

def settingOfStored (doc : Json) : Outcome Setting := do
  if !doc.isObject then fail .type
  let .object entries := doc.get "parameter" | fail .noAttr
  Setting.make (← Sweep.paramOf (toPlainEntries entries)) (toPlain (doc.get "value"))
    (boolD doc "read_only" false) (textD doc "path" "") ((present? doc "source").map toPlain)

def storedMembers := ["name", "settings", "subtrees", "path", "align_name", "generate_paths"]

def ofStored : Nat → Json → Outcome Tree
  | 0, _ => fail .type
  | fuel + 1, j => do
    let n := (← require .type (j.field? "name")).shown
    if let some (k, c) := j.fields.find? (!storedMembers.contains ·.1) then
      refuse s!"{k} should be a Parameter, Setting or a SettingNode, not {(toPlain c).shownClass}."
    let ss ← (j.get "settings").fields.mapM fun e => do pure (e.1, Assigned.setting (← settingOfStored e.2))
    let ns ← (j.get "subtrees").fields.mapM fun e => do pure (e.1, Assigned.tree (← ofStored fuel e.2))
    Tree.make n (ss ++ ns) (textD j "path" "") (boolD j "align_name" true) (boolD j "generate_paths" true)

def readStored (s : String) :=
  match Json.read s with
  | .ok j => ofStored (s.length + 1) j
  | .error e => hint .notJson (e.msg s)

end Transmon.Settings
