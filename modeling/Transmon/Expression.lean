import Transmon.Value

/-!
The smallest parts of expressions: numbers, quoted texts, names and marks.
-/

namespace Transmon.Expression

inductive Token
  | value (value : Value)
  | name (name : String)
  | mark (mark : String)

def signs :=
  [(0x80, 0xA9), (0xAB, 0xB4), (0xB6, 0xB6), (0xB8, 0xB9), (0xBB, 0xBF), (0xD7, 0xD7), (0xF7, 0xF7), (0x2000, 0x203E),
   (0x2041, 0x2053), (0x2055, 0x2070), (0x20A0, 0x20CF), (0x2190, 0x2BFF), (0x3000, 0x3004), (0x3008, 0x3020),
   (0xD800, 0xF8FF), (0xFEFF, 0xFEFF), (0xFFF9, 0xFFFF), (0x1F000, 0x1FAFF)]

def isNameChar (c : Char) :=
  c.isAlphanum || c == '_' || (127 < c.toNat && !(signs.any fun e => e.1 ≤ c.toNat && c.toNat ≤ e.2))

def digitRun (isDigit : Char → Bool) : Chars → Bool → Chars × Chars
  | '_' :: c :: xs, afterDigit =>
    if afterDigit && isDigit c then (digitRun isDigit xs true).map (c :: ·) id else ([], '_' :: c :: xs)
  | c :: xs, _ => if isDigit c then (digitRun isDigit xs true).map (c :: ·) id else ([], c :: xs)
  | [], _ => ([], [])

def based (base : Nat) (cs : Chars) : Option (Value × Chars) :=
  let start := match cs with
    | '_' :: xs | xs => xs
  let (ds, xs) := digitRun (fun c => (Text.hexDigit? c).any (· < base)) start false
  if ds.isEmpty then none
  else some (.int ((ds.filterMap Text.hexDigit?).foldl (fun n d => n * base + d) 0 : Nat), xs)

def whole? (ds : Chars) : Option Value :=
  if ds.head? == some '0' then if ds.any (· != '0') then none else some (.int 0)
  else if Decimal.maxDigits < ds.length then none
  else some (.int (Text.number ds))

def decimal (cs : Chars) : Option (Value × Chars) :=
  let (whole, xs) := digitRun Char.isDigit cs false
  let (hasPoint, frac, xs) := match xs with
    | '.' :: more =>
      let (frac, more) := digitRun Char.isDigit more false
      (true, frac, more)
    | _ => (false, [], xs)
  let (power, xs) := match xs with
    | 'e' :: more | 'E' :: more =>
      let (sign, ds) := Decimal.signed more
      let (ds, after) := digitRun Char.isDigit ds false
      if ds.isEmpty then (none, xs) else (some (sign (Text.number ds) : Int), after)
    | _ => (none, xs)
  let x := Decimal.scaled (Text.number (whole ++ frac)) (power.getD 0 - frac.length)
  match xs with
  | 'j' :: xs | 'J' :: xs => some (.complex 0.0 x, xs)
  | xs => if hasPoint || power.isSome then some (.float x, xs) else (whole? whole).map (·, xs)

def joiningWords := ["and", "else", "for", "if", "in", "is", "not", "or"]

def number (cs : Chars) : Option (Value × Chars) := do
  let (v, xs) ← match cs with
    | '0' :: 'x' :: xs | '0' :: 'X' :: xs => based 16 xs
    | '0' :: 'o' :: xs | '0' :: 'O' :: xs => based 8 xs
    | '0' :: 'b' :: xs | '0' :: 'B' :: xs => based 2 xs
    | _ => decimal cs
  let after := xs.takeWhile isNameChar
  if after.isEmpty || joiningWords.any fun w => w.toList.isPrefixOf after then some (v, xs) else none

def hexDigits (n : Nat) (cs : Chars) : Option (Nat × Chars) :=
  if (cs.take n).length = n then (Text.hexNum? (cs.take n)).map (·, cs.drop n) else none

def greekLetters :=
  "ALPHA BETA GAMMA DELTA EPSILON ZETA ETA THETA IOTA KAPPA LAMDA MU NU XI OMICRON PI RHO - SIGMA TAU "
    ++ "UPSILON PHI CHI PSI OMEGA"

/-- Signs that are often written by their names. -/
def namedSigns :=
  [("SPACE", 0x20), ("NO-BREAK SPACE", 0xA0), ("DEGREE SIGN", 0xB0), ("PLUS-MINUS SIGN", 0xB1), ("SUPERSCRIPT TWO", 0xB2),
   ("MICRO SIGN", 0xB5), ("LATIN SMALL LETTER E WITH ACUTE", 0xE9), ("EN DASH", 0x2013), ("EM DASH", 0x2014),
   ("BULLET", 0x2022), ("HORIZONTAL ELLIPSIS", 0x2026), ("EURO SIGN", 0x20AC), ("OHM SIGN", 0x2126), ("RIGHTWARDS ARROW", 0x2192),
   ("INFINITY", 0x221E), ("CHECK MARK", 0x2713), ("SNOWMAN", 0x2603), ("ROCKET", 0x1F680), ("GRINNING FACE", 0x1F600)]

/-- The character with a name: a letter of two alphabets, or a sign that is known. -/
def charNamed? (n : String) : Option Nat :=
  let n := n.toUpper
  let letter (capital small : Nat) (letters : Names) (size l : String) : Option Nat := do
    let i ← letters.idxOf? l
    if size == "SMALL" then some (small + i) else if size == "CAPITAL" then some (capital + i) else none
  match n.splitOn " " with
  | ["LATIN", size, "LETTER", l] => letter 0x41 0x61 ("ABCDEFGHIJKLMNOPQRSTUVWXYZ".toList.map toString) size l
  | ["GREEK", size, "LETTER", l] => letter 0x391 0x3B1 (greekLetters.splitOn " ") size l
  | _ => namedSigns.lookup n

def namedChar : Chars → Option (Nat × Chars)
  | '\x7b' :: xs =>
    let n := xs.takeWhile (· != '\x7d')
    if let _ :: after := xs.dropWhile (· != '\x7d') then (charNamed? (.ofList n)).map (·, after) else none
  | _ => none

def plainEscapes := [('a', 7), ('b', 8), ('f', 12), ('n', 10), ('r', 13), ('t', 9), ('v', 11)]

def escape (isBytes : Bool) (cs : Chars) : Option (List Nat × Chars) :=
  let one (x : Option (Nat × Chars)) := x.map fun e => ([e.1], e.2)
  match cs with
  | '\n' :: xs => some ([], xs)
  | 'x' :: xs => one (hexDigits 2 xs)
  | c :: xs =>
    if let some n := plainEscapes.lookup c then some ([n], xs)
    else if c == '\\' || c == '\'' || c == '"' then some ([c.toNat], xs)
    else if '0' ≤ c && c ≤ '7' then
      let ds := (c :: xs.take 2).takeWhile fun d => '0' ≤ d && d ≤ '7'
      let n := ds.foldl (fun n d => n * 8 + (d.toNat - 48)) 0
      some ([if isBytes then n % 256 else n], (c :: xs).drop ds.length)
    else if isBytes then some (['\\'.toNat, c.toNat], xs)
    else match c with
      | 'u' => one (hexDigits 4 xs)
      | 'U' => one ((hexDigits 8 xs).filter (·.1 < 0x110000))
      | 'N' => one (namedChar xs)
      | c => some (['\\'.toNat, c.toNat], xs)
  | [] => none

structure Quoting where
  (isRaw isBytes isTriple : Bool)
  quote : Char

def quotedRest (q : Quoting) : Nat → List Nat → Chars → Option (List Nat × Chars)
  | 0, _, _ | _, _, [] => none
  | n + 1, seen, '\\' :: rest =>
    if q.isBytes && rest.head?.any fun c => 127 < c.toNat then none
    else if q.isRaw then
      if let c :: rest := rest then quotedRest q n (c.toNat :: '\\'.toNat :: seen) rest else none
    else do
      let (cs, rest) ← escape q.isBytes rest
      quotedRest q n (cs.reverse ++ seen) rest
  | n + 1, seen, c :: rest =>
    if c == q.quote then
      if !q.isTriple then some (seen.reverse, rest)
      else match rest with
        | d :: e :: more =>
          if d == c && e == c then some (seen.reverse, more) else quotedRest q n (c.toNat :: seen) rest
        | _ => none
    else if (c == '\n' && !q.isTriple) || (q.isBytes && 127 < c.toNat) then none
    else quotedRest q n (c.toNat :: seen) rest

def characters : List Nat → Chars
  | high :: low :: xs =>
    if 0xD800 ≤ high && high < 0xDC00 && 0xDC00 ≤ low && low < 0xE000 then
      .ofNat (0x10000 + (high - 0xD800) * 0x400 + (low - 0xDC00)) :: characters xs
    else .ofNat high :: characters (low :: xs)
  | [n] => [.ofNat n]
  | [] => []

def quotedToken (letters : Chars) (cs : Chars) : Option (Token × Chars) := do
  let lower := letters.map .toLower
  let isBytes := lower.contains 'b'
  let (quote, isTriple, xs) ← match cs with
    | '\'' :: '\'' :: '\'' :: xs => some ('\'', true, xs)
    | '"' :: '"' :: '"' :: xs => some ('"', true, xs)
    | '\'' :: xs => some ('\'', false, xs)
    | '"' :: xs => some ('"', false, xs)
    | _ => none
  let (c, xs) ← quotedRest ⟨lower.contains 'r', isBytes, isTriple, quote⟩ xs.length [] xs
  if isBytes then some (.value (.bytes (c.map (·.toUInt8))), xs)
  else if lower.contains 'f' then some (.name "f", xs)
  else some (.value (.text (.ofList (characters c))), xs)

def quoteLetters := ["", "r", "u", "b", "br", "rb", "f", "fr", "rf"]

def longMarks := ["...", "**", "//", "<<", ">>", "==", "!=", "<=", ">=", "->", ":="]

def maxDepth := 200

def indent : Nat → Chars → Nat × Chars
  | col, ' ' :: xs => indent (col + 1) xs
  | col, '\t' :: xs => indent ((col / 8 + 1) * 8) xs
  | col, c :: xs => if c.toNat = 12 then indent 0 xs else (col, c :: xs)
  | col, [] => (col, [])

def firstLine (n : Nat) (cs : Chars) : Option Chars := do
  let n + 1 := n | none
  match indent 0 cs with
  | (_, '\n' :: xs) => firstLine n xs
  | (_, '#' :: xs) => firstLine n ((xs.dropWhile (· != '\n')).drop 1)
  | (col, xs) => if col = 0 then some xs else none

def isQuote (c : Char) := c == '\'' || c == '"'

def token (c : Char) (xs : Chars) : Option (Token × Chars) :=
  let cs := c :: xs
  if c.isDigit || (c == '.' && xs.head?.any Char.isDigit) then (number cs).map (.map .value id)
  else if isQuote c then quotedToken [] cs
  else if isNameChar c && (Text.digit? c).isNone then
    let letters := cs.takeWhile isNameChar
    let after := cs.dropWhile isNameChar
    if after.head?.any isQuote && quoteLetters.contains (.ofList (letters.map .toLower)) then
      quotedToken letters after
    else some (.name (.ofList letters), after)
  else if let some mark := longMarks.find? (·.toList.isPrefixOf cs) then some (.mark mark, cs.drop mark.length)
  else if "+-*/%@&|^~<>()[]\x7b\x7d,:.=;".toList.contains c then some (.mark c.toString, xs) else none

def tokens : Nat → Nat → Chars → Option (List Token)
  | _, depth, [] => if depth = 0 then some [] else none
  | 0, _, _ => none
  | n + 1, depth, c :: xs =>
    if c == ' ' || c == '\t' || c.toNat == 12 then tokens n depth xs
    else if c == '#' then tokens n depth (xs.dropWhile (· != '\n'))
    else if c == '\n' then
      if depth ≠ 0 then tokens n depth xs else if let some [] := firstLine (n + 1) xs then some [] else none
    else if c == '\\' then
      match xs with
      | '\n' :: d :: more => tokens n depth (d :: more)
      | _ => none
    else do
      let opens := "([\x7b".toList.contains c
      let closes := ")]\x7d".toList.contains c
      if (opens && maxDepth ≤ depth) || (closes && depth = 0) then none
      let (token, xs) ← token c xs
      return token :: (← tokens n (if opens then depth + 1 else if closes then depth - 1 else depth) xs)

def scan? (cs : Chars) := do
  let cs := Text.plainLines cs
  tokens cs.length 0 (← firstLine (cs.length + 1) cs)

/-!
The values of expressions, as far as these are literals.
-/

inductive Refusal
  | notExpression | notLiteral | badKey | tooLarge
deriving DecidableEq

/-- What an expression stands for, and how far it is from a number: not at all, by its sign, or more. -/
structure Node where
  value : Except Refusal Value := .error .notLiteral
  distance : Nat := 2

namespace Node

def ofValue (v : Value) : Node := ⟨.ok v, if v matches .int _ | .float _ | .complex .. then 0 else 2⟩

def negated : Value → Value
  | .int n => .int (-n)
  | .float x => .float (-x)
  | .complex re im => .complex (-re) (-im)
  | v => v

def signed (neg : Bool) (x : Node) : Node :=
  if x.distance = 0 then ⟨if neg then negated <$> x.value else x.value, 1⟩ else {}

def total (neg : Bool) (left : Value) (re im : Float) : Except Refusal Value := do
  let some n := left.number? | throw .notLiteral
  let x := n.toFloat
  if n matches .int _ then if x.isInf then throw .tooLarge
  return if neg then .complex (x - re) (0.0 - im) else .complex (x + re) (0.0 + im)

/-- The sum of a number and an imaginary one is a complex number. -/
def sum (neg : Bool) (x y : Node) : Node :=
  match x.value, y.value with
  | .ok v, .ok (.complex re im) => if x.distance ≤ 1 && y.distance = 0 then { value := total neg v re im } else {}
  | _, _ => {}

def sequence (make : Values → Value) (xs : List Node) : Node := { value := make <$> xs.mapM value }

def isKey : Value → Bool
  | .list _ | .dict _ => false
  | .tuple xs => (xs.map isKey).all id
  | _ => true

def keyed (make : List (Value × Value) → Value) (es : List (Node × Node)) : Node :=
  { value := make <$> es.foldlM (fun t e => do
      let k ← e.1.value
      let v ← e.2.value
      if isKey k then return Table.put k v t else throw .badKey) [] }

def keyName : Value → String
  | .text s => s
  | v => v.shown

def table := keyed fun es => .dict (es.foldl (fun t e => Table.put (keyName e.1) e.2 t) [])

def set (xs : List Node) :=
  keyed (fun es => .list ((es.map Prod.fst).mergeSort fun a b => a.plain ≤ b.plain)) (xs.map fun x => (x, x))

end Node

abbrev Parser := StateT (List Token) Option

namespace Parser

variable (wanted : String)

/-- Takes the next token, if it is one of those. -/
def taken (isNext : Token → Bool) : Parser Bool := do
  let t :: rest ← get | pure false
  if isNext t then set rest; pure true else pure false

def mark := taken fun t => if let .mark m := t then m == wanted else false

def word := taken fun t => if let .name m := t then m == wanted else false

def expect : Parser Unit := do if !(← mark wanted) then failure

/-- Whether a list ends here: with a mark, or with a comma and the mark. -/
def ends := mark wanted <||> expect "," *> mark wanted

end Parser

open Expression.Parser

def keywords : Names :=
  ["None", "True", "False", "and", "as", "assert", "async", "await", "break", "class", "continue", "def", "del", "elif",
   "else", "except", "finally", "for", "from", "global", "if", "import", "in", "is", "lambda", "nonlocal", "not", "or",
   "pass", "raise", "return", "try", "while", "with", "yield"]

def identifier : Parser Unit := do
  let .name n :: rest ← get | failure
  if keywords.contains n then failure else set rest

def operators :=
  ["+", "-", "*", "/", "//", "%", "@", "<<", ">>", "&", "|", "^", "<", ">", "==", ">=", "<=", "!=", "and", "or", "in", "is"]

def operator? : Parser (Option String) := do
  match ← get with
  | .name "not" :: .name "in" :: xs | .name "is" :: .name "not" :: xs => set xs; return some "is"
  | .mark m :: xs | .name m :: xs => if operators.contains m then set xs; return some m else pure none
  | _ => pure none

def adjacent : Value → List Token → Option (Value × List Token)
  | .text s, .value (.text t) :: xs => adjacent (.text (s ++ t)) xs
  | .bytes s, .value (.bytes t) :: xs => adjacent (.bytes (s ++ t)) xs
  | _, .value _ :: _ => none
  | v, xs => some (v, xs)

/-!
The rules of the grammar. At most `n` of them apply inside each other. What is no literal needs no more of its structure
than tells it from what is no expression.
-/

mutual

def expr (n : Nat) : Parser Node := do
  let n + 1 := n | failure
  let left ← factor n
  if ← word "if" then
    let _ ← expr n
    if ← word "else" then let _ ← expr n
    return {}
  let some m ← operator? | pure left
  let right ← expr n
  return if m == "+" || m == "-" then .sum (m == "-") left right else {}

def factor (n : Nat) : Parser Node := do
  let n + 1 := n | failure
  if ← mark "-" then return .signed true (← factor n)
  if ← mark "+" then return .signed false (← factor n)
  if ← mark "~" <||> word "not" then return ← factor n *> pure {}
  if ← word "lambda" then
    if !(← mark ":") then let _ ← expr n *> others n ":"
    return ← expr n *> pure {}
  let base ← trailers n (← atom n)
  if ← mark "**" then return ← factor n *> pure {}
  pure base

def trailers (n : Nat) (v : Node) : Parser Node := do
  let n + 1 := n | failure
  if ← mark "." then return ← identifier *> trailers n {}
  if ← mark "(" then
    if !(← mark ")") then let _ ← argument n *> others n ")"
    return ← trailers n {}
  if ← mark "[" then return ← expr n *> others n "]" *> trailers n {}
  pure v

def argument (n : Nat) : Parser Node := do
  let n + 1 := n | failure
  if let .name _ :: .mark "=" :: xs ← get then set xs
  expr n

def atom (n : Nat) : Parser Node := do
  let n + 1 := n | failure
  match ← get with
  | .value v :: xs =>
    let (v, xs) ← adjacent v xs
    set xs
    return .ofValue v
  | .name "None" :: xs => set xs; return .ofValue .none
  | .name "True" :: xs => set xs; return .ofValue (.bool true)
  | .name "False" :: xs => set xs; return .ofValue (.bool false)
  | .name "set" :: .mark "(" :: .mark ")" :: xs => set xs; return .set []
  | .name _ :: _ => identifier; return {}
  | .mark "..." :: xs => set xs; return {}
  | .mark "(" :: .mark ")" :: xs => set xs; return .sequence .tuple []
  | .mark "(" :: xs =>
    set xs
    let x ← expr n
    if ← mark ")" then return x
    return .sequence .tuple (x :: (← others n ")"))
  | .mark "[" :: .mark "]" :: xs => set xs; return .sequence .list []
  | .mark "[" :: xs => set xs; return .sequence .list ((← expr n) :: (← others n "]"))
  | .mark "\x7b" :: .mark "\x7d" :: xs => set xs; return .table []
  | .mark "\x7b" :: xs =>
    set xs
    let x ← expr n
    if ← mark ":" then return .table ((x, ← expr n) :: (← entries n))
    return .set (x :: (← others n "\x7d"))
  | _ => failure

def others (n : Nat) (close : String) : Parser (List Node) := do
  let n + 1 := n | failure
  if ← word "for" then return [← expr n] ++ (← others n close)
  if ← ends close then return []
  return (← argument n) :: (← others n close)

def entries (n : Nat) : Parser (List (Node × Node)) := do
  let n + 1 := n | failure
  if ← ends "\x7d" then return []
  let k ← expr n
  expect ":"
  return (k, ← expr n) :: (← entries n)

end

def further (n : Nat) : Parser (List Node) := do
  let n + 1 := n | failure
  if (← get).isEmpty then return []
  expect ","
  if (← get).isEmpty then return []
  return (← expr n) :: (← further n)

def whole (n : Nat) := do
  let x ← expr n
  if (← get).isEmpty then return x
  return .sequence .tuple (x :: (← further n))

def read? (s : String) := do
  let ts ← scan? s.toList
  let (n, _) ← whole (16 * ts.length + 16) ts
  some n

end Transmon.Expression

def Transmon.Literal.ofText (s : String) : Except Expression.Refusal Value :=
  let cs := s.toList.dropWhile fun c => c == ' ' || c == '\t'
  if cs.any fun c => c.toNat = 0 then .error .notLiteral
  else if let some n := Expression.read? (.ofList cs) then n.value else .error .notExpression
