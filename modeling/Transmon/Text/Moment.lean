import Transmon.Fault

/-!
Universally unique identifiers: numbers of 128 bits, written as hexadecimal digits in groups.
-/

namespace Transmon

structure Uuid where
  value : Nat
deriving DecidableEq

namespace Uuid

def hexDigits (w : Nat) (n : Nat) : Chars :=
  let ds := Nat.toDigits 16 n
  .replicate (w - ds.length) '0' ++ ds

def toText (u : Uuid) : String :=
  let ds := hexDigits 32 u.value
  let group (start n : Nat) : String := .ofList ((ds.drop start).take n)
  "-".intercalate [group 0 8, group 8 4, group 12 4, group 16 4, group 20 12]

def isBrace (c : Char) := c = '\x7b' || c = '\x7d'

def ofText? (s : String) : Option Uuid :=
  let bare := ((s.replace "urn:" "").replace "uuid:" "").toList
  let ds := (Text.trimEnd isBrace (bare.dropWhile isBrace)).filter (· != '-')
  if ds.length = 32 then (Text.hexNum? ds).map .mk else none

def ofText (s : String) : Outcome Uuid :=
  if let some uuid := ofText? s then pure uuid
  else hint .invalid "badly formed hexadecimal UUID string"

end Uuid

/-!
Moments: a day of the calendar, a time of day and perhaps an offset from universal time.
-/

namespace Text

structure Moment where
  (year month day : Nat)
  hour : Nat := 0
  minute : Nat := 0
  second : Nat := 0
  micro : Nat := 0
  offset : Option Int := none
deriving DecidableEq

namespace Moment

def daysBeforeMonth (year month : Nat) :=
  (List.range (month - 1)).foldl (fun total m => total + daysInMonth year (m + 1)) 0

def daysBeforeYear (year : Nat) :=
  let past := year - 1
  past * 365 + past / 4 - past / 100 + past / 400

def ordinal (year month day : Nat) := daysBeforeYear year + daysBeforeMonth year month + day

def monthOf (year : Nat) : Nat → Nat → Nat → Nat × Nat
  | 0, month, xs => (month, xs + 1)
  | fuel + 1, month, xs =>
    if xs < daysInMonth year month then (month, xs + 1)
    else monthOf year fuel (month + 1) (xs - daysInMonth year month)

def ofOrdinal (n : Nat) : Nat × Nat × Nat :=
  let xs := n - 1
  let cycles := xs / 146097
  let xs := xs % 146097
  let centuries := min (xs / 36524) 3
  let xs := xs - centuries * 36524
  let fours := xs / 1461
  let xs := xs % 1461
  let years := min (xs / 365) 3
  let year := cycles * 400 + centuries * 100 + fours * 4 + years + 1
  let (month, day) := monthOf year 11 1 (xs - years * 365)
  (year, month, day)

def ofSeconds (secs : Int) : Moment :=
  let day := secs / 86400
  let time := (secs % 86400).toNat
  let (year, month, date) := ofOrdinal (719163 + day).toNat
  { year, month, day := date, hour := time / 3600, minute := time / 60 % 60, second := time % 60 }

variable (m : Moment)

def universal : Moment :=
  let days : Int := ordinal m.year m.month m.day
  let secs := (days - 719163) * 86400 + (m.hour * 3600 + m.minute * 60 + m.second : Nat)
  let micros := secs * 1000000 + m.micro - m.offset.getD 0
  { ofSeconds (micros / 1000000) with micro := (micros % 1000000).toNat }

def padded (w n : Nat) := padLeft (toString n) w '0'

def date := s!"{padded 4 m.year}-{padded 2 m.month}-{padded 2 m.day}"

def clock (hour minute y micro : Nat) :=
  s!"{padded 2 hour}:{padded 2 minute}:{padded 2 y}" ++ if micro = 0 then "" else "." ++ padded 6 micro

def offsetText : Option Int → String
  | none => ""
  | some off =>
    let size := off.natAbs
    let secs := size / 1000000
    let sign := if off < 0 then "-" else "+"
    let short := s!"{sign}{padded 2 (secs / 3600)}:{padded 2 (secs / 60 % 60)}"
    if secs % 60 = 0 && size % 1000000 = 0 then short
    else short ++ s!":{padded 2 (secs % 60)}" ++ if size % 1000000 = 0 then "" else "." ++ padded 6 (size % 1000000)

def written (between : String := "T") :=
  m.date ++ between ++ clock m.hour m.minute m.second m.micro ++ offsetText m.offset

def writtenFully :=
  m.date ++ "T" ++ clock m.hour m.minute m.second 0 ++ "." ++ padded 6 m.micro ++ offsetText m.offset

def brief := s!"{padded 2 m.month}/{padded 2 m.day}/{padded 4 m.year} {clock m.hour m.minute m.second 0}"

def digits? (n : Nat) (cs : Chars) : Option (Nat × Chars) :=
  let front := cs.take n
  if front.length = n && front.all Char.isDigit then some (number front, cs.drop n) else none

variable (cs : Chars)

/-- A day of the calendar, with or without marks between its parts. -/
def date? : Option (Nat × Nat × Nat) := do
  let (year, xs) ← digits? 4 cs
  let spaced := xs.head? = some '-'
  let (month, xs) ← digits? 2 (if spaced then xs.drop 1 else xs)
  if spaced && xs.head? ≠ some '-' then none
  let (day, xs) ← digits? 2 (if spaced then xs.drop 1 else xs)
  if xs.isEmpty && isDate year month day then some (year, month, day) else none

def fraction? : Option Nat := do
  let count := min cs.length 6
  let (v, xs) ← digits? count cs
  if count = 0 || !xs.all Char.isDigit then none
  some (v * .pow 10 (6 - count))

def timeRest? : Nat → Bool → List Nat → Chars → Option (List Nat × Nat)
  | _, _, ps, [] => some (ps, 0)
  | 0, _, ps, c :: xs => if c == '.' || c == ',' then do pure (ps, ← fraction? xs) else none
  | fuel + 1, spaced, ps, c :: xs =>
    if c == '.' || c == ',' then do pure (ps, ← fraction? xs)
    else do
      let (n, xs) ← digits? 2 (← if spaced then if c == ':' then some xs else none else some (c :: xs))
      timeRest? fuel spaced (ps ++ [n]) xs

def time? := do
  let (hour, xs) ← digits? 2 cs
  let (ps, micro) ← timeRest? 2 (xs.head? = some ':') [] xs
  some (hour, ps.getD 0 0, ps.getD 1 0, micro)

def startsOffset (c : Char) := c == '+' || c == '-' || c == 'Z'

def offset? : Chars → Option (Option Int)
  | [] => some none
  | ['Z'] => some (some 0)
  | 'Z' :: _ => none
  | sign :: xs => do
    let (hour, minute, y, micro) ← time? xs
    let size : Int := ((hour * 3600 + minute * 60 + y) * 1000000 + micro : Nat)
    if size ≥ 86400000000 then none
    some (some (if sign == '-' then -size else size))

def read? (s : String) : Option Moment := do
  let cs := s.toList
  if cs.length < 7 then none
  let split := if cs[4]? = some '-' then 10 else 8
  let (year, month, day) ← date? (cs.take split)
  let _ :: rest := cs.drop split | some { year, month, day }
  let (hour, minute, second, micro) ← time? (rest.takeWhile (!startsOffset ·))
  let offset ← offset? (rest.dropWhile (!startsOffset ·))
  if hour < 24 && minute < 60 && second < 60 then some { year, month, day, hour, minute, second, micro, offset }
  else none

def read (s : String) := require .invalid (read? s)

end Moment

end Text

end Transmon
