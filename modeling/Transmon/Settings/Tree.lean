import Transmon.Parameter
import Transmon.Value.Record

/-!
Settings: parameters with their values.
-/

namespace Transmon

structure Setting where
  param : Param
  value : Value := .none
  readOnly : Bool := false
  path : String := ""
  source : Option Value := none

namespace Setting

def make (param : Param) (v : Value) (readOnly : Bool := false) (path : String := "")
    (source : Option Value := none) : Outcome Setting := do
  let v ← v.ofRecord
  let v ← match param.collection with
    | .scalar => pure v
    | coll => coll.cast v
  if !v.isNone && !param.admits v then fail .badValue
  pure { param, value := v, readOnly, path, source }

def name (s : Setting) := s.param.name

def update (s : Setting) (v : Value) (source : Option Value := none) : Outcome Setting := do
  if s.readOnly then refuse s!"Can't update the value of {s.name} to {v.plain} since the setting is read-only."
  let v ← match s.param.collection, v with
    | .array, .list xs => Value.toArray .none (.list xs)
    | _, v => pure v
  make s.param v s.readOnly s.path source

variable (s : Setting)

def withPathName := { s with param := s.param.renamed s.path }

def placed (aligned : Bool) (path : String) :=
  { s with
    path
    param := if aligned then s.param.renamed path else s.param }

def equalValues : Value → Value → Bool
  | .array t s a, .array u r b => Value.equal (.array t s a) (.array u r b)
  | .array _ _ _, _ | _, .array _ _ _ => false
  | a, b => a.equal b

def equal (a b : Setting) := a.param == b.param && equalValues a.value b.value

def shown :=
  let readOnly := if s.readOnly then "True" else "False"
  s!"Setting({s.param.label} = {s.value.plain} {s.param.unit} self.read_only={readOnly})"

end Setting

namespace SettingSet

variable (ss : List Setting)

def get? (n : String) := ss.find? (·.name == n)

def add (s : Setting) := if ss.any (Setting.equal s) then ss else ss ++ [s]

def erase (n : String) :=
  match get? ss n with
  | some found => ss.filter (!found.equal ·)
  | none => ss

def replace (ss changes : List Setting) := changes.foldl (fun kept s => add (erase kept s.name) s) ss

variable (x y : List Setting)

def diff : Outcome (List Setting) := do
  for s in x do
    let .array _ _ (_ :: _ :: _) := s.value | pure ()
    if y.any s.equal then fail .invalid
  return x.filter (!y.any ·.equal)

def merge := y.foldl (fun m s => if (get? m s.name).isSome then m else add m s) x

end SettingSet

/-!
Trees of settings.
-/

namespace Settings

structure Tree where
  name : String
  path : String := ""
  aligned : Bool := true
  settings : List (String × Setting) := []
  subtrees : List (String × Tree) := []
  extras : List (String × Value) := []

instance : Inhabited Tree := ⟨{ name := "" }⟩

inductive Child
  | setting (setting : Setting)
  | tree (tree : Tree)

inductive Assigned
  | setting (setting : Setting)
  | param (param : Param)
  | tree (tree : Tree)
  | value (value : Value)

namespace Child

def name : Child → String
  | .setting s => s.name
  | .tree t => t.name

def path : Child → String
  | .setting s => s.path
  | .tree t => t.path

def kindName : Child → String
  | .setting _ => "Setting"
  | .tree _ => "SettingNode"

def asTree (kind : Fault.Kind := .noAttr) : Child → Outcome Tree
  | .tree t => pure t
  | .setting _ => fail kind

def isTree : Child → Bool
  | .tree _ => true
  | .setting _ => false

end Child

abbrev Change := Work Tree

namespace Tree

variable (tree : Tree)

def children : List (String × Child) :=
  tree.subtrees.foldl (fun es e => Table.put e.1 (.tree e.2) es) (tree.settings.map fun e => (e.1, .setting e.2))

variable (k : String)

def child? : Option Child :=
  if let some s := tree.settings.lookup k then some (.setting s) else (tree.subtrees.lookup k).map .tree

def hasChild := (tree.child? k).isSome

def shown := Text.called "SettingNode" (tree.children.map fun e => (e.1, e.2.kindName))

def child : Outcome Child :=
  match tree.child? k with
  | some y => pure y
  | none =>
    let ks := Text.quotedList (tree.children.map Prod.fst)
    failWith .unknownSetting s!"SettingNode \"{tree.name}\" has no attribute {k}. Children: dict_keys({ks})."

def subtree := do (← tree.child k).asTree

def pathOf := if tree.path.isEmpty then k else tree.path ++ "." ++ k

def keysOf (p : String) := p.splitOn "."

def follow (whole : String) : Names → Tree → Outcome Child
  | [], tr => return .tree tr
  | k :: xs, tr =>
    match tr.child? k, xs with
    | some y, [] => pure y
    | some (.tree t), _ => follow whole xs t
    | some (.setting _), _ => refuse s!"Path '{whole}' is invalid: '{k}' is a setting, not a node."
    | none, _ =>
      failWith .missing s!"Path '{whole}' is invalid: key '{k}' is not found in the preceding node {tr.shown}."

def atPath (p : String) : Outcome Child :=
  match keysOf p with
  | ["settings"] => failWith .noAttr ""
  | [_] => tree.child p
  | ks => follow p ks tree

@[grind →] theorem sizeOf_subtree_lt {tree : Tree} {e : String × Tree} (h : e ∈ tree.subtrees) :
    sizeOf e.2 < sizeOf tree := by
  have := sizeOf_snd_lt h
  cases tree
  simp at this ⊢
  omega

def placed (path : String) (t : Tree) : Tree :=
  { t with
    name := if t.aligned then path else t.name
    path
    settings := t.settings.map fun e => (e.1, e.2.placed t.aligned s!"{path}.{e.1}")
    subtrees := t.subtrees.map fun e => (e.1, placed s!"{path}.{e.1}" e.2) }
decreasing_by grind

def everything (t : Tree) : List Child :=
  .tree t :: t.settings.map (.setting ·.2) ++ t.subtrees.flatMap (everything ·.2)
decreasing_by grind

variable (t : Tree)

def nodes :=
  t.everything.filterMap fun
    | .tree t => some t
    | .setting _ => none

def allSettings :=
  t.everything.filterMap fun
    | .setting s => some s
    | .tree _ => none

variable (name : String)

def find? := t.everything.find? (·.name == name)

def parentOf : Outcome Tree :=
  if let some y := t.nodes.find? fun t => t.children.any fun e => e.2.name == name then pure y
  else failWith .unknownSetting s!"{name} not found inside SettingNode \"{t.name}\"."

def withPathName? : Option Setting := if let some (.setting s) := t.find? name then some s.withPathName else none

def sourced (source : Option Value) (ignoreEmpty : Bool) (t : Tree) : Tree :=
  { t with
    settings := t.settings.map fun e => (e.1, if !ignoreEmpty || !e.2.value.isNone then { e.2 with source } else e.2)
    subtrees := t.subtrees.map fun e => (e.1, sourced source ignoreEmpty e.2) }
decreasing_by grind

def withoutPaths (t : Tree) : Tree :=
  { t with path := "", extras := [], subtrees := t.subtrees.map fun e => (e.1, withoutPaths e.2) }
decreasing_by grind

end Tree

end Settings

/-!
A tree of settings drawn with lines.
-/

namespace Settings.Tree

def outlineValue (s : Setting) :=
  if s.value.isNone then "None (automatic/unspecified)"
  else if s.param.collection = .array then
    s.value.plain.replace "\n" "" ++ " " ++ s.param.unit
  else s.value.plain ++ " " ++ s.param.unit

def closeLast (ls : Names) : Names :=
  if let last :: before := ls.reverse then (last.replace "╠" "╚" :: before).reverse else []

def outlineName (t : Tree) :=
  let aligned := if t.aligned then "True" else "False"
  s!"\"{t.name}: align_name={aligned}\""

mutual

def outlineFrom (levels : Int) (indents : List Bool) (ls : Names) : Tree → Names
  | { name := _, path := _, aligned := _, settings, subtrees, extras := _ } =>
    let indent := String.join (indents.map fun goesOn => if goesOn then " ║  " else "    ")
    if indents.length < levels then
      let ls := ls ++ settings.map fun e => indent ++ s!" ╠─ {e.1}: {e.2.param.label} = {outlineValue e.2}"
      closeLast (outlineAll levels indents indent (if subtrees.isEmpty then ls else ls ++ [indent ++ " ║ "]) subtrees)
    else closeLast ls

def outlineAll (levels : Int) (indents : List Bool) (indent : String) (ls : Names) : Named Tree → Names
  | [] => ls
  | (k, t) :: xs =>
    let l := indent ++ s!" ╠═ {k}: {outlineName t}"
    let l := if xs.isEmpty then l.replace "╠" "╚" else l
    outlineAll levels indents indent (outlineFrom levels (indents ++ [!xs.isEmpty]) (ls ++ [l]) t) xs

end

def outline (t : Tree) (levels : Int := 5) :=
  "\n " ++ "\n".intercalate (outlineFrom levels [] [outlineName t] t) ++ "\n"

def scaledUp : Names → Float → String → Float × String
  | [], x, sign => (x, sign)
  | next :: xs, x, sign => if x.abs <= 10000.0 then (x, sign) else scaledUp xs (x * 0.001) next

def scaledDown : Names → Float → String → Float × String
  | [], x, sign => (x, sign)
  | next :: xs, x, sign => if x.abs < 1.0 && x.abs > 0.0 then scaledDown xs (x * 1000.0) next else (x, sign)

def handyUnit (v : Value) (unit : String) : Value × String :=
  let isReal := if let .scalar .boolean _ := v then false else true
  match if isReal then v.float? else none with
  | some x =>
    if ["Hz", "rad", "s", "V"].contains unit then
      let (x, sign) := scaledUp ["k", "M", "G", "P"] x ""
      let (x, sign) := scaledDown ["m", "μ", "n", "p"] x sign
      (.float x, sign ++ unit)
    else (v, unit)
  | none => (v, unit)

end Settings.Tree

/-!
The parameters of an implementation as a tree of settings.
-/

namespace Param

def namesAt (locus : Names) (n : String) : Names := if n.contains '*' then locus.map fun p => n.replace "*" p else [n]

def Item.toSetting (x : Item) (p : String) : Setting where
  param := {
    name := p, label := if x.label.isEmpty then p else x.label, unit := x.unit, data := .one x.data,
    collection := x.collection }
  value := x.default.getD .none
  path := p

mutual

def childrenAt (locus p : Names) : Named Tree → Named Setting × Named Settings.Tree
  | [] => ([], [])
  | (n, t) :: xs =>
    let (ss, ns) := childrenAt locus p xs
    match t with
    | .item x => ((namesAt locus n).map (fun k => (k, x.toSetting (".".intercalate (p ++ [k])))) ++ ss, ns)
    | .group es => (ss, (namesAt locus n).map (fun k => (k, treeAt locus (p ++ [k]) es)) ++ ns)

def treeAt (locus path : Names) (es : Named Tree) : Settings.Tree :=
  let (settings, subtrees) := childrenAt locus path es
  { name := ".".intercalate path, path := ".".intercalate path, settings, subtrees }

end

end Param

end Transmon
