import Transmon.Value

/-!
Documents of YAML: blocks of lines with the same indent, values in brackets, and scalars.
-/

namespace Transmon.Yaml

open Text

abbrev Read := Except (Option Fault)

def malformed {α : Type} : Read α := throw none

structure Line where
  indent : Nat
  text : Chars

structure Reader where
  lines : List Line
  anchors : Named Value := []

abbrev Parse := StateT Reader Read

variable (cs : Chars)

def Line.isBlank (l : Line) := l.text.head?.all (· == '#')

def linesOf : List Line :=
  (cs.splitOn '\n').map fun l => ⟨(l.takeWhile (· == ' ')).length, trimEnd isPlainBlank (l.dropWhile (· == ' '))⟩

/-- What stands before a comment. -/
def uncommented : Chars → Chars
  | ' ' :: '#' :: _ => []
  | c :: cs => c :: uncommented cs
  | [] => []

def isWordEnd (cs : Chars) := cs.head?.all isPlainBlank

def word? : Option Value :=
  match (String.ofList cs) with
  | "" | "~" | "null" | "Null" | "NULL" => some .none
  | "true" | "True" | "TRUE" => some (.bool true)
  | "false" | "False" | "FALSE" => some (.bool false)
  | ".inf" | ".Inf" | ".INF" | "+.inf" => some (.float (1.0 / 0.0))
  | "-.inf" | "-.Inf" | "-.INF" => some (.float (-1.0 / 0.0))
  | ".nan" | ".NaN" | ".NAN" => some (.float (0.0 / 0.0))
  | _ => none

def based? (base : Nat) (ds : Chars) : Option Int := do
  if ds.isEmpty then none
  let n ← ds.foldlM (fun n c => do
    let d ← hexDigit? c
    if d < base then some (n * base + d) else none) 0
  some (n : Nat)

def number? : Option Value :=
  let cs := cs.filter (· != '_')
  let (sign, ds) := Decimal.signed cs
  let s := String.ofList cs
  match ds with
  | '0' :: 'x' :: ds => (based? 16 ds).map fun n => .int (sign n)
  | '0' :: 'o' :: ds => (based? 8 ds).map fun n => .int (sign n)
  | '0' :: 'b' :: ds => (based? 2 ds).map fun n => .int (sign n)
  | c :: ds => if c.isDigit || (c == '.' && ds.head?.any Char.isDigit) then
      ((Decimal.int? s).map .int).or ((Decimal.float? s).map .float)
    else none
  | [] => none

/-- The value of a scalar without quotes. -/
def plain : Value := (word? cs).getD ((number? cs).getD (.text (.ofList cs)))

def escapes :=
  [('0', '\x00'), ('a', '\x07'), ('b', '\x08'), ('t', '\t'), ('n', '\n'), ('v', '\x0b'), ('f', '\x0c'), ('r', '\r'),
   ('e', '\x1b'), (' ', ' '), ('"', '"'), ('/', '/'), ('\\', '\\'), ('_', ' ')]

/-- A quoted text behind its first mark, and what follows it. -/
def quoted (mark : Char) : Nat → Chars → Read (Chars × Chars)
  | n + 1, c :: cs => do
    if c == mark then
      if mark == '\'' && cs.head? == some '\'' then return (← quoted mark n cs.tail).map ('\'' :: ·) id
      return ([], cs)
    if c != '\\' || mark == '\'' then return (← quoted mark n cs).map (c :: ·) id
    let e :: cs := cs | malformed
    if let some meant := escapes.lookup e then return (← quoted mark n cs).map (meant :: ·) id
    let some size := [('x', 2), ('u', 4), ('U', 8)].lookup e | malformed
    let some code := hexNum? (cs.take size) | malformed
    return (← quoted mark n (cs.drop size)).map (.ofNat code :: ·) id
  | _, _ => malformed

/-- A word without quotes and what follows it. Inside brackets marks end it too. -/
def wordFrom (isInside : Bool) : Chars → Chars × Chars
  | ' ' :: '#' :: cs => ([], ' ' :: '#' :: cs)
  | c :: cs =>
    if (c == ':' && (isWordEnd cs || (isInside && cs.head?.any [',', '[', ']', '{', '}'].contains)))
      || (isInside && [',', '[', ']', '{', '}'].contains c) then ([], c :: cs)
    else (wordFrom isInside cs).map (c :: ·) id
  | [] => ([], [])

def scalar (isInside : Bool) : Read (Value × Chars) := do
  match cs with
  | c :: rest =>
    if c == '\'' || c == '"' then return (← quoted c cs.length rest).map (fun x => .text (.ofList x)) id
    if "!&%@`|>".toList.contains c || ("-?:,]\x7d".toList.contains c && isWordEnd rest) then malformed
    let (w, rest) := wordFrom isInside cs
    let w := stripped w
    if w == ['='] || (w == ['<', '<'] && rest.head? != some ':') then malformed
    return (plain w, rest)
  | [] => return (.none, [])

def nameOf := (cs.takeWhile fun c => !(isPlainBlank c || [',', ']', '}'].contains c), cs.dropWhile fun c =>
  !(isPlainBlank c || [',', ']', '}'].contains c))

def put (es : Named Value) (k v : Value) : Read (Named Value) :=
  if es.any (·.1 == k.plain) then malformed else return es ++ [(k.plain, v)]

/-- The entries of a table that is merged come before the others, which replace them. -/
def merged (es : Named Value) : Value :=
  match es.lookup "<<" with
  | some (.dict new) => .dict ((es.filter (·.1 != "<<")).foldl (fun t e => Table.put e.1 e.2 t) new)
  | _ => .dict es

mutual

/-- A value inside a line, and what follows it. -/
def inline (n : Nat) (isInside : Bool) (cs : Chars) : Parse (Value × Chars) := do
  let n + 1 := n | malformed
  match cs.dropWhile isPlainBlank with
  | '[' :: cs => (·.map .list id) <$> items n cs
  | '{' :: cs => (·.map .dict id) <$> pairs n [] cs
  | '*' :: cs =>
    let (m, cs) := nameOf cs
    let some v := (← get).anchors.lookup (.ofList m) | malformed
    pure (v, cs)
  | cs => scalar cs isInside

def items (n : Nat) (cs : Chars) : Parse (Values × Chars) := do
  let n + 1 := n | malformed
  if let ']' :: cs := cs.dropWhile isPlainBlank then return ([], cs)
  let (v, cs) ← inline n true cs
  match cs.dropWhile isPlainBlank with
  | ',' :: cs => return (← items n cs).map (v :: ·) id
  | ']' :: cs => pure ([v], cs)
  | _ => malformed

def pairs (n : Nat) (es : Named Value) (cs : Chars) : Parse (Named Value × Chars) := do
  let n + 1 := n | malformed
  if let '}' :: cs := cs.dropWhile isPlainBlank then return (es, cs)
  let (k, cs) ← inline n true cs
  let (v, cs) ← match cs.dropWhile isPlainBlank with
    | ':' :: cs => inline n true cs
    | cs => pure (.none, cs)
  let es ← put es k v
  match cs.dropWhile isPlainBlank with
  | ',' :: cs => pairs n es cs
  | '}' :: cs => pure (es, cs)
  | _ => malformed

end

/-- The key of an entry, if the line has one, and what follows it. -/
def key? : Option (Value × Chars) := do
  if cs.head?.any ['[', '{', '#'].contains then none
  let (k, ':' :: rest) ← (scalar (uncommented cs) false).toOption | none
  if isWordEnd rest then some (k, cs.drop ((uncommented cs).length - rest.length)) else none

def isDash := cs.head? == some '-' && isWordEnd cs.tail

def content : Parse (Option Line) := do
  modify fun r => { r with lines := r.lines.dropWhile Line.isBlank }
  let l := (← get).lines.head?
  if l.any (·.text.head? == some '\t') then malformed
  pure l

def take : Parse Unit := modify fun r => { r with lines := r.lines.tail }

def hasOpen (cs : Chars) : Bool := cs.countP ['[', '{'].contains > cs.countP [']', '}'].contains

/-- A text and the lines below it that continue it. -/
def continued (depth : Int) : Nat → Chars → Parse Chars
  | n + 1, cs => do
    let breaks := ((← get).lines.takeWhile (·.text.isEmpty)).length
    let some l ← content | pure cs
    if l.indent ≤ depth && !hasOpen cs then return cs
    take
    let gap : Chars := if breaks = 0 || hasOpen cs then [' '] else .replicate breaks '\n'
    continued depth n (cs ++ gap ++ uncommented l.text)
  | 0, _ => malformed

/-- Lines whose breaks stay, or become blanks between lines with text. -/
def joined (isLiteral : Bool) : List Chars → Chars
  | a :: b :: ls =>
    let gap : Chars := if isLiteral || b.isEmpty then ['\n'] else if a.isEmpty then [] else [' ']
    a ++ gap ++ joined isLiteral (b :: ls)
  | [a] => a
  | [] => []

def blockText (header : Chars) (depth : Int) : Parse Value := do
  let mark :: chomp := uncommented header | malformed
  if ! ["", "-", "+"].contains (.ofList chomp) then malformed
  let r ← get
  let own := r.lines.takeWhile fun l => l.text.isEmpty || depth < l.indent
  set { r with lines := r.lines.drop own.length }
  let base := ((own.find? (!·.text.isEmpty)).map Line.indent).getD 0
  let ls := own.map fun l => (List.replicate (l.indent - base) ' ' ++ l.text : Chars)
  let body := trimEnd List.isEmpty ls
  let left := if chomp == ['+'] then ls.length - body.length else if chomp.isEmpty && !body.isEmpty then 1 else 0
  return .text (.ofList (joined (mark == '|') body ++ List.replicate left '\n'))

mutual

/-- What stands in lines with at least so much indent. -/
def block (n : Nat) (least : Nat) : Parse Value := do
  let n + 1 := n | malformed
  let some l ← content | return .none
  if l.indent < least then return .none
  if isDash l.text then return .list (← dashes n l.indent)
  if (key? l.text).isSome then return merged (← entries n l.indent [])
  take
  value n (least - 1) l.text

def dashes (n : Nat) (depth : Nat) : Parse Values := do
  let n + 1 := n | malformed
  let some l ← content | return []
  if depth < l.indent then malformed
  if l.indent < depth || !isDash l.text then return []
  let after := l.text.tail.dropWhile isPlainBlank
  take
  modify fun r => { r with lines := ⟨depth + l.text.length - after.length, after⟩ :: r.lines }
  let v ← block n (depth + 1)
  return v :: (← dashes n depth)

def entries (n : Nat) (depth : Nat) (es : Named Value) : Parse (Named Value) := do
  let n + 1 := n | malformed
  let some l ← content | return es
  if depth < l.indent then malformed
  if l.indent < depth then return es
  let some (k, after) := key? l.text | malformed
  take
  entries n depth (← put es k (← value n depth (after.dropWhile isPlainBlank)))

/-- What a line ends with, or the block below it. -/
def value (n : Nat) (depth : Int) (cs : Chars) : Parse Value := do
  let n + 1 := n | malformed
  match cs with
  | '&' :: cs =>
    let (m, cs) := nameOf cs
    let v ← value n depth (cs.dropWhile isPlainBlank)
    modify fun r => { r with anchors := (.ofList m, v) :: r.anchors }
    pure v
  | '|' :: _ | '>' :: _ => blockText cs depth
  | [] | '#' :: _ =>
    match ← content with
    | some l => if l.indent = depth && isDash l.text then .list <$> dashes n l.indent else block n (depth + 1).toNat
    | none => pure .none
  | cs =>
    let text ← continued depth n cs
    let (v, rest) ← inline (text.length + 1) false text
    if (uncommented (' ' :: rest)).any (!isPlainBlank ·) then malformed
    pure v

end

def read (s : String) : Read Value := do
  let cs := plainLines s.toList
  if cs.any fun c => c < ' ' && c != '\n' && c != '\t' then malformed
  let ls := linesOf cs
  let isMark (m : String) (l : Line) : Bool := l.indent = 0 && String.ofList l.text == m
  let ls := ls.dropWhile fun l => l.isBlank || l.text.head? == some '%'
  let ls := if ls.head?.any (isMark "---") then ls.tail else ls
  let ls := ls.takeWhile (!isMark "..." ·)
  let n := cs.length + ls.length + 8
  let (v, r) ← (block n 0).run { lines := ls }
  if r.lines.any (!·.isBlank) then malformed
  pure v

mutual

def stored : Value → Outcome Value
  | .list xs | .tuple xs => .list <$> storedItems xs
  | .dict es => .dict <$> storedEntries es
  | .array .. | .scalar .. | .complex .. => fail (.other "RepresenterError")
  | v => pure v

def storedItems : Values → Outcome Values
  | [] => pure []
  | x :: xs => do return (← stored x) :: (← storedItems xs)

def storedEntries : List (String × Value) → Outcome (List (String × Value))
  | [] => pure []
  | (n, v) :: xs => do return (n, ← stored v) :: (← storedEntries xs)

end

end Transmon.Yaml
