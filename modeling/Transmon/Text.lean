/-!
How values are quoted and listed in messages.
-/

namespace Transmon

abbrev Chars := List Char

abbrev Floats := List Float

namespace Text

def hexByte (n : Nat) : String := .ofList [Nat.digitChar (n / 16 % 16), Nat.digitChar (n % 16)]

def hexDigit? (c : Char) :=
  if c.isDigit then some (c.toNat - 48)
  else if 'a' ≤ c && c ≤ 'f' then some (c.toNat - 87)
  else if 'A' ≤ c && c ≤ 'F' then some (c.toNat - 55)
  else none

def hexNum? (cs : Chars) := cs.foldlM (fun n c => (hexDigit? c).map (n * 16 + ·)) 0

def number (cs : Chars) := cs.foldl (fun n c => n * 10 + (c.toNat - 48)) 0

def trimEnd {α : Type} (isDropped : α → Bool) (xs : List α) := (xs.reverse.dropWhile isDropped).reverse

def plainLines : Chars → Chars
  | '\r' :: '\n' :: ys | '\r' :: ys => '\n' :: plainLines ys
  | c :: ys => c :: plainLines ys
  | [] => []

def after? (w : String) (cs : Chars) : Option Chars :=
  if w.toList.isPrefixOf cs then some (cs.drop w.length) else none

def escape (quote : Char) (c : Char) : String :=
  if c == quote || c == '\\' then .ofList ['\\', c]
  else if c == '\n' then "\\n"
  else if c == '\r' then "\\r"
  else if c == '\t' then "\\t"
  else if c.toNat < 32 || (127 ≤ c.toNat && c.toNat < 161) || c.toNat == 173 then "\\x" ++ hexByte c.toNat
  else c.toString

def quoted (s : String) :=
  let quote := if s.contains '\'' && !s.contains '"' then '"' else '\''
  s.foldl (fun out c => out ++ escape quote c) quote.toString ++ quote.toString

variable (xs : List String)

def commaSeparated := ", ".intercalate xs

def listed := s!"[{commaSeparated xs}]"

def tupled : List String → String
  | [x] => s!"({x},)"
  | xs => s!"({commaSeparated xs})"

def mapped (es : List (String × String)) := "\x7b" ++ commaSeparated (es.map fun e => e.1 ++ ": " ++ e.2) ++ "\x7d"

/-- A value as the call that makes it. -/
def called (n : String) (fs : List (String × String)) :=
  n ++ "(" ++ commaSeparated (fs.map fun e => e.1 ++ "=" ++ e.2) ++ ")"

def ordered (a b : String) : Bool := a ≤ b

def sorted := xs.mergeSort ordered

def gathered := if xs.isEmpty then "set()" else s!"\x7b{commaSeparated (sorted xs)}\x7d"

variable (ns : List String)

def quotedTuple := tupled (ns.map quoted)

def quotedList := listed (ns.map quoted)

def quotedSet := gathered (ns.map quoted)

variable (s : String)

def padRight (w : Nat) := s ++ "".pushn ' ' (w - s.length)

def padLeft (w : Nat) (filler : Char := ' ') := "".pushn filler (w - s.length) ++ s

/-!
Blanks and digits of all scripts.
-/

def blanks :=
  [0x9, 0xA, 0xB, 0xC, 0xD, 0x1C, 0x1D, 0x1E, 0x1F, 0x20, 0x85, 0xA0, 0x1680, 0x2000, 0x2001, 0x2002, 0x2003,
   0x2004, 0x2005, 0x2006, 0x2007, 0x2008, 0x2009, 0x200A, 0x2028, 0x2029, 0x202F, 0x205F, 0x3000]

variable (c : Char)

def isBlank := blanks.contains c.toNat

def isPlainBlank := c == ' ' || (9 ≤ c.toNat && c.toNat ≤ 13)

def plainlyStripped (cs : Chars) : Chars := trimEnd isPlainBlank (cs.dropWhile isPlainBlank)

def stripped (cs : Chars) : Chars := trimEnd isBlank (cs.dropWhile isBlank)

def strip : String := .ofList (stripped s.toList)

def zeros :=
  [0x30, 0x660, 0x6F0, 0x7C0, 0x966, 0x9E6, 0xA66, 0xAE6, 0xB66, 0xBE6, 0xC66, 0xCE6, 0xD66, 0xDE6, 0xE50, 0xED0,
   0xF20, 0x1040, 0x1090, 0x17E0, 0x1810, 0x1946, 0x19D0, 0x1A80, 0x1A90, 0x1B50, 0x1BB0, 0x1C40, 0x1C50, 0xA620,
   0xA8D0, 0xA900, 0xA9D0, 0xA9F0, 0xAA50, 0xABF0, 0xFF10, 0x104A0, 0x10D30, 0x11066, 0x110F0, 0x11136, 0x111D0,
   0x112F0, 0x11450, 0x114D0, 0x11650, 0x116C0, 0x11730, 0x118E0, 0x11950, 0x11C50, 0x11D50, 0x11DA0, 0x16A60,
   0x16AC0, 0x16B50, 0x1D7CE, 0x1D7D8, 0x1D7E2, 0x1D7EC, 0x1D7F6, 0x1E140, 0x1E2F0, 0x1E950, 0x1FBF0]

def digit? := (zeros.find? fun x => x ≤ c.toNat && c.toNat < x + 10).map fun x => c.toNat - x

def plainNumeral :=
  if c.toNat < 128 then c
  else if isBlank c then ' '
  else if let some x := digit? c then Nat.digitChar x else c

/-!
Dates of the calendar.
-/

def isLeapYear (year : Nat) := year % 4 == 0 && (year % 100 != 0 || year % 400 == 0)

def daysInMonth (year month : Nat) :=
  match month with
  | 2 => if isLeapYear year then 29 else 28
  | 4 | 6 | 9 | 11 => 30
  | _ => 31

def isDate (year month day : Nat) := 1 ≤ year && 1 ≤ month && month ≤ 12 && 1 ≤ day && day ≤ daysInMonth year month

def plainNum? (least most : Nat) (s : String) :=
  if least ≤ s.length && s.length ≤ most && s.toList.all Char.isDigit then some (number s.toList) else none

def isDottedDate : Bool :=
  match s.splitOn "." with
  | [day, month, year] =>
    let day := if day.length = 2 && day.startsWith " " then (day.drop 1).toString else day
    match plainNum? 1 2 day, plainNum? 1 2 month, plainNum? 4 4 year with
    | some day, some month, some year => isDate year month day
    | _, _, _ => false
  | _ => false

/-!
Orders of names in which the numbers inside a name count by their value.
-/

def numsFrom : Option Nat → Chars → List Nat
  | none, [] => []
  | some n, [] => [n]
  | now, c :: ys =>
    match digit? c, now with
    | some d, _ => numsFrom (some (now.getD 0 * 10 + d)) ys
    | none, some n => n :: numsFrom none ys
    | none, none => numsFrom none ys

variable (n : String)

def numsIn := numsFrom none n.toList

def letters : String := .ofList (n.toList.filter fun c => ('a' ≤ c && c ≤ 'z') || ('A' ≤ c && c ≤ 'Z'))

/-- By letters, then by the first number, then as a whole. -/
def ordering (precedes atMost : String → String → Bool) (a b : String) : Bool :=
  let na := (numsIn a).headD 0
  let nb := (numsIn b).headD 0
  if letters a != letters b then precedes (letters a) (letters b) else if na != nb then na < nb else atMost a b

def componentOrdered := ordering (fun a b => b < a) (fun a b => b ≤ a)

variable (ns : List String)

def sortComponents := ns.mergeSort componentOrdered

def elemOrdered := ordering (fun a b => a < b) (fun a b => a ≤ b)

/-- By the first entries that differ; a list is behind its beginnings. -/
def lexically {α : Type} [BEq α] (atMost : α → α → Bool) : List α → List α → Bool
  | [], _ => true
  | _ :: _, [] => false
  | a :: zs, b :: ys => if a == b then lexically atMost zs ys else atMost a b

def lexical {α : Type} [BEq α] [LE α] [DecidableLE α] : List α → List α → Bool := lexically (· ≤ ·)

def sortCouplers := ns.mergeSort fun a b => lexical (numsIn a) (numsIn b)

inductive NamePart
  | word (text : String)
  | number (value : Nat)

def partsFrom : Chars → Option Nat → Chars → List NamePart
  | w, none, [] => [.word (.ofList w.reverse)]
  | _, some n, [] => [.number n, .word ""]
  | w, now, c :: ys =>
    match now, digit? c with
    | none, some d => .word (.ofList w.reverse) :: partsFrom [] (some d) ys
    | none, none => partsFrom (c :: w) none ys
    | some n, some d => partsFrom [] (some (n * 10 + d)) ys
    | some n, none => .number n :: partsFrom [c] none ys

def partsOrdered : List NamePart → List NamePart → Bool
  | [], _ => true
  | _ :: _, [] => false
  | .word a :: zs, .word b :: ys => a < b || (a == b && partsOrdered zs ys)
  | .number a :: zs, .number b :: ys => a < b || (a == b && partsOrdered zs ys)
  | .word _ :: _, .number _ :: _ => false
  | .number _ :: _, .word _ :: _ => true

def small (c : Char) : Char :=
  let n := c.toNat
  let isNext := (0x100 ≤ n ∧ n < 0x138 ∧ n ≠ 0x130 ∨ 0x14A ≤ n ∧ n < 0x178) ∧ n % 2 = 0
    ∨ (0x139 ≤ n ∧ n < 0x149 ∨ 0x179 ≤ n ∧ n < 0x17F) ∧ n % 2 = 1
  if n < 128 then c.toLower
  else if 0xC0 ≤ n ∧ n < 0xDF ∧ n ≠ 0xD7 ∨ 0x391 ≤ n ∧ n < 0x3AA ∧ n ≠ 0x3A2 ∨ 0x410 ≤ n ∧ n < 0x430 then
    .ofNat (n + 32)
  else if 0x400 ≤ n ∧ n < 0x410 then .ofNat (n + 80)
  else if isNext then .ofNat (n + 1)
  else c

def naturalParts := partsFrom [] none (n.toList.map small)

def sortNaturally := ns.mergeSort fun a b => partsOrdered (naturalParts a) (naturalParts b)

/-!
Which words are close to a given one.
-/

def commonLength : Chars → Chars → Nat
  | a :: as, b :: bs => if a = b then commonLength as bs + 1 else 0
  | _, _ => 0

structure Block where
  (first second size : Nat)

def longestBlock (a b : Chars) : Block :=
  (List.range a.length).foldl (fun best i =>
    (List.range b.length).foldl (fun best j =>
      let size := commonLength (a.drop i) (b.drop j)
      if best.size < size then ⟨i, j, size⟩ else best) best) ⟨0, 0, 0⟩

def matchedWithin : Nat → Chars → Chars → Nat
  | 0, _, _ => 0
  | fuel + 1, a, b =>
    let block := longestBlock a b
    if block.size = 0 then 0
    else
      block.size + matchedWithin fuel (a.take block.first) (b.take block.second)
        + matchedWithin fuel (a.drop (block.first + block.size)) (b.drop (block.second + block.size))

def matched (a b : Chars) := matchedWithin (a.length + 1) a b

def likeness (a b : String) :=
  let total := a.length + b.length
  if total = 0 then 1.0 else 2.0 * (matched a.toList b.toList).toFloat / total.toFloat

def closest (w : String) (ws : List String) :=
  let good := (ws.map fun other => (likeness other w, other)).filter fun e => 0.6 ≤ e.1
  ((good.mergeSort fun x y => if x.1 == y.1 then y.2 ≤ x.2 else y.1 < x.1).take 3).map Prod.snd

/-!
Versions of releases: numbers with dots, perhaps a pre-release, a later issue or a state of development.
-/

/-- A version. The parts after the release are compared in this order: a state of development stands before a
pre-release, that before the release, and that before a later issue. -/
structure Version where
  epoch : Nat := 0
  release : List Nat
  pre : Option (String × Nat) := none
  post : Option Nat := none
  dev : Option Nat := none
  build : List String := []
deriving DecidableEq

namespace Version

def digits? (cs : Chars) : Option (Nat × Chars) :=
  match cs.span Char.isDigit with
  | ([], _) => none
  | (ds, ys) => some (number ds, ys)

def skipSeparator : Chars → Chars
  | '.' :: ys | '-' :: ys | '_' :: ys => ys
  | cs => cs

def releaseFrom (count : Nat) (cs : Chars) : Option (List Nat × Chars) := do
  let count + 1 := count | none
  let (n, ys) ← digits? cs
  let '.' :: more := ys | some ([n], ys)
  if more.head?.any Char.isDigit then
    let (ns, ys) ← releaseFrom count more
    some (n :: ns, ys)
  else some ([n], ys)

def labelled (ws : List (String × String)) (cs : Chars) :=
  ws.findSome? fun (w, l) => do
    let ys ← after? w (skipSeparator cs)
    let some (n, ys) := digits? (skipSeparator ys) | some ((l, 0), ys)
    some ((l, n), ys)

/-- What is read, if it is there. -/
def opt {α : Type} (read : Chars → Option (α × Chars)) (cs : Chars) :=
  if let some (x, ys) := read cs then (some x, ys) else (none, cs)

def plainPart (part : String) := if let some (n, []) := digits? part.toList then toString n else part

def ofString? (s : String) : Option Version := do
  let cs := stripped (s.toList.map .toLower)
  let cs := match cs with
    | 'v' :: ys => ys
    | cs => cs
  let (epoch, cs) := if let some (n, '!' :: ys) := digits? cs then (n, ys) else (0, cs)
  let (release, cs) ← releaseFrom cs.length cs
  let (pre, cs) := opt (labelled [("alpha", "a"), ("beta", "b"), ("preview", "rc"), ("pre", "rc"), ("rc", "rc"),
    ("a", "a"), ("b", "b"), ("c", "rc")]) cs
  let (post, cs) := opt (fun cs => labelled [("post", ""), ("rev", ""), ("r", "")] cs <|> do
    let (n, ys) ← digits? (← after? "-" cs)
    pure (("", n), ys)) cs
  let (dev, cs) := opt (labelled [("dev", "")]) cs
  let version := { epoch, release, pre, post := post.map Prod.snd, dev := dev.map Prod.snd }
  match cs with
  | [] => some version
  | '+' :: ys =>
    let ps := (String.ofList (ys.map fun c => if c == '-' || c == '_' then '.' else c)).splitOn "."
    if ps.all fun p => !p.isEmpty && p.toList.all Char.isAlphanum then
      some { version with build := ps.map plainPart }
    else none
  | _ => none

variable (v : Version)

def shown :=
  (if v.epoch = 0 then "" else s!"{v.epoch}!") ++ ".".intercalate (v.release.map toString)
    ++ (if let some (l, n) := v.pre then l ++ toString n else "")
    ++ (if let some n := v.post then ".post" ++ toString n else "")
    ++ (if let some n := v.dev then ".dev" ++ toString n else "")
    ++ if v.build.isEmpty then "" else "+" ++ ".".intercalate v.build

def trimmed (release : List Nat) := trimEnd (· == 0) release

def major := v.release.headD 0

def minor := v.release.getD 1 0

def stage : List Nat :=
  let pre := match v.pre, v.post, v.dev with
    | some ("a", n), _, _ => [1, 0, n]
    | some ("b", n), _, _ => [1, 1, n]
    | some (_, n), _, _ => [1, 2, n]
    | none, none, some _ => [0, 0, 0]
    | none, _, _ => [2, 0, 0]
  let post := if let some n := v.post then [1, n] else [0, 0]
  let dev := if let some n := v.dev then [0, n] else [1, 0]
  pre ++ post ++ dev

def buildBefore : List String → List String → Bool
  | _, [] => false
  | [], _ :: _ => true
  | a :: zs, b :: ys =>
    if a = b then buildBefore zs ys
    else match digits? a.toList, digits? b.toList with
      | some (m, []), some (n, []) => m < n
      | some (_, []), _ => false
      | _, some (_, []) => true
      | _, _ => a < b

def before (a b : Version) : Bool :=
  if a.epoch != b.epoch then a.epoch < b.epoch
  else if trimmed a.release != trimmed b.release then trimmed a.release < trimmed b.release
  else if a.stage != b.stage then a.stage < b.stage
  else buildBefore a.build b.build

end Version

end Text

end Transmon
