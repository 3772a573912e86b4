import Transmon.Host

/-!
A terminal at which commands are typed.
-/

namespace Transmon.Command

open Text

structure Terminal where
  host : Host
  typed : Names := []
  printed : String := ""
  (directory home : String)
  running : List Int := []
  started : Named Int := []
  isWindows : Bool := false

inductive Ending
  | finished
  | misuse (reason : String) (showsUsage : Bool)
  | complaint (reason : String)
  | aborted
  | fault (fault : Fault)

abbrev Dialogue := ExceptT Ending (StateM Terminal)

namespace Dialogue

def print (s : String) : Dialogue Unit := modify fun t => { t with printed := t.printed ++ s }

def say (l : String) := print s!"{l}\n"

variable {α : Type}

def misuse (reason : String) : Dialogue α := throw (.misuse reason true)

def complain (reason : String) : Dialogue α := throw (.complaint reason)

variable (work : Work Host α)

def attempt : Dialogue (Outcome α) := do
  let tty ← get
  let (r, host) := work.run.run tty.host
  set { tty with host }
  return r

instance : MonadLift (Except Fault) Dialogue := ⟨fun outcome => .mk (pure (outcome.mapError .fault))⟩

def onHost := do ← attempt work

variable (question : String)

def readLine (isHidden : Bool := false) : Dialogue String := do
  print s!"{question}: "
  if isHidden then print "\n"
  let tty ← get
  match tty.typed with
  | [] =>
    if isHidden then print "\n"
    throw .aborted
  | l :: xs =>
    set { tty with typed := xs }
    if !isHidden then print s!"{l}\n"
    pure l

def patience : Dialogue Nat := return (← get).typed.length + 1

def askWith (q : String) (default : Option String) (isHidden : Bool) (accept : String → Dialogue α) : Nat → Dialogue α
  | 0 => throw .aborted
  | fuel + 1 => do
    let l ← readLine q isHidden
    let some a := if l.isEmpty then default else some l | askWith q default isHidden accept fuel
    tryCatch (accept a) fun ending => do
      match ending with
      | .misuse reason _ =>
        say (if isHidden then "Error: The value you entered was invalid." else s!"Error: {reason}")
        askWith q default isHidden accept fuel
      | x => throw x

def ask (default : Option String) (isHidden : Bool) (accept : String → Dialogue α) : Dialogue α := do
  let s := if let some v := default then s!"{question} [{v}]" else question
  askWith s default isHidden accept (← patience)

def askText (isHidden : Bool := false) := ask question none isHidden pure

def confirmWithin (q : String) (default : Option Bool) : Nat → Dialogue Bool
  | 0 => throw .aborted
  | fuel + 1 => do
    match (strip (← readLine q).toLower), default with
    | "y", _ | "yes", _ => pure true
    | "n", _ | "no", _ => pure false
    | "", some a => pure a
    | _, _ =>
      say "Error: invalid input"
      confirmWithin q default fuel

def confirm (default : Option Bool := none) : Dialogue Bool := do
  let choices := match default with
    | none => "y/n"
    | some true => "Y/n"
    | some false => "y/N"
  confirmWithin s!"{question} [{choices}]" default (← patience)

end Dialogue

inductive Colour
  | red | green | yellow

def Colour.paint (c : Colour) (s : String) :=
  let code := match c with
    | .red => "31"
    | .green => "32"
    | .yellow => "33"
  s!"\x1b[{code}m{s}\x1b[0m"

variable (p : String)

def pathParts : Names := (p.splitOn "/").filter fun part => !part.isEmpty && part != "."

def pathOf (ps : Names) := (if p.startsWith "/" then "/" else "") ++ "/".intercalate ps

def tidyPath :=
  let whole := pathOf p (pathParts p)
  if whole.isEmpty then "." else whole

def resolvedPath := pathOf p ((pathParts p).foldl (fun done p => if p = ".." then done.dropLast else done ++ [p]) [])

def parentPath := pathOf p (pathParts p).dropLast

namespace Terminal

variable (tty : Terminal)

def absolute :=
  if p.startsWith "/" || p.startsWith tty.directory || p.startsWith tty.home then tidyPath p
  else tidyPath s!"{tty.directory}/{p}"

def isFile := tty.host.isFile (tty.absolute p)

def isDir :=
  let whole := tty.absolute p
  whole = "/" || whole = tty.directory || whole = tty.home || tty.host.isDir whole

end Terminal

def Dialogue.writeFile (p c : String) : Dialogue (Option String) := do
  let tty ← get
  let whole := tty.absolute p
  let parent := parentPath whole
  let s := quoted (parentPath (tidyPath p))
  let above := (List.range (pathParts parent).length).map fun n => "/".intercalate ((pathParts parent).take n)
  if tty.host.isFile parent then return some s!"[Errno 17] File exists: {s}"
  if above.any tty.host.isFile then return some s!"[Errno 20] Not a directory: {s}"
  if tty.isDir whole then return some s!"[Errno 21] Is a directory: {quoted (tidyPath p)}"
  onHost (Host.write whole c)
  pure none

def Dialogue.readJson : Dialogue Json := do
  let tty ← get
  match tty.host.file (tty.absolute p) with
  | .error reason =>
    throw (.fault (.hinted (if tty.isDir p then .other "IsADirectoryError" else .noFile) reason))
  | .ok c =>
    match Json.read c with
    | .ok j => pure j
    | .error e => throw (.fault (.hinted .notJson (e.msg c)))

def Dialogue.removeFile := do onHost (Host.remove ((← get).absolute p))

/-!
Commands, their options, and how they are typed.
-/

inductive OptionKind
  | flag | text | integer
  | file (isThere : Bool)
  | help
  | version
deriving DecidableEq

abbrev Values := Table String String

structure OptionSpec where
  name : String
  spellings : Names := ["--" ++ name.replace "_" "-"]
  kind : OptionKind := .text
  help : String := ""
  default : Option String := none
  showsDefault : Bool := false
  question : Option String := none
  isAskedOnlyBare : Bool := false
  isFirst : Bool := false
  accept : Values → Bool → String → Dialogue String := fun _ _ value => pure value

structure CommandSpec where
  (name help : String)
  opts : List OptionSpec := []
  members : Named String := []
  isGroup : Bool := false
  hintsAtHelp : Bool := true

namespace OptionSpec

variable (o : OptionSpec)

def takesValue :=
  match o.kind with
  | .flag | .help | .version => false
  | _ => true

def valueWord :=
  match o.kind with
  | .text => " TEXT"
  | .integer => " INTEGER"
  | .file _ => " FILE"
  | _ => ""

def shown := commaSeparated o.spellings ++ o.valueWord

def shownHelp :=
  match o.showsDefault, o.default with
  | true, some v => s!"{o.help}  [default: {v}]"
  | _, _ => o.help

def hint := " / ".intercalate (o.spellings.map quoted)

def helpOption : OptionSpec := { name := "help", kind := .help, help := "Show this message and exit.", isFirst := true }

def versionOption : OptionSpec :=
  { name := "version", kind := .version, help := "Show the version and exit.", isFirst := true }

end OptionSpec

def chunksFrom : Chars → Chars → Names
  | now, [] => if now.isEmpty then [] else [.ofList now.reverse]
  | [], c :: xs => chunksFrom [c] xs
  | d :: now, c :: xs =>
    if isBlank c == isBlank d then chunksFrom (c :: d :: now) xs
    else .ofList (d :: now).reverse :: chunksFrom [c] xs

def isBlankChunk (chunk : String) := chunk.toList.all isBlank

def unpadded (l : String) : String := .ofList (trimEnd isBlank l.toList)

def wrapFrom (w : Nat) : String → Names → Names
  | l, [] => if isBlankChunk l then [] else [unpadded l]
  | l, chunk :: xs =>
    if l.isEmpty && isBlankChunk chunk then wrapFrom w l xs
    else if l.isEmpty || l.length + chunk.length ≤ w then wrapFrom w (l ++ chunk) xs
    else unpadded l :: wrapFrom w (if isBlankChunk chunk then "" else chunk) xs

def wrapped (w : Nat) (s : String) := wrapFrom w "" (chunksFrom [] s.toList)

def helpWidth := 80

def columnLimit := 30

def helpTable (rs : Named String) : String :=
  let col := min ((rs.map (·.1.length)).foldl max 0) columnLimit + 2
  .join (rs.map fun (x, y) =>
    let start := "  " ++ x
    if y.isEmpty then start ++ "\n"
    else
      let margin := "\n" ++ "".pushn ' ' (col + 2)
      let gap := if x.length + 2 ≤ col then "".pushn ' ' (col - x.length) else margin
      start ++ gap ++ margin.intercalate (wrapped (max (helpWidth - col - 2) 10) y) ++ "\n")

def fittingWords (limit : Nat) (ws : Names) : Nat → Nat
  | 0 => 0
  | n + 1 => if (" ".intercalate (ws.take (n + 1))).length + 3 ≤ limit then n + 1 else fittingWords limit ws n

def shortHelp (limit : Nat) (help : String) :=
  let ws := (help.splitOn " ").filter (!·.isEmpty)
  let sentence := if let some i := ws.findIdx? fun w => w.endsWith "." then ws.take (i + 1) else ws
  let whole := " ".intercalate sentence
  if whole.length ≤ limit then whole
  else " ".intercalate (ws.take (fittingWords limit ws ws.length)) ++ "..."

namespace CommandSpec

variable (cmd : CommandSpec)

def allOptions : List OptionSpec :=
  if cmd.opts.any fun o => o.kind = .help then cmd.opts
  else cmd.opts ++ [.helpOption]

def usage (p : String) := s!"Usage: {p} [OPTIONS]" ++ if cmd.isGroup then " COMMAND [ARGS]..." else ""

def helpText (p : String) :=
  let about := String.join ((wrapped (helpWidth - 2) cmd.help).map ("  " ++ · ++ "\n"))
  let limit := helpWidth - 6 - ((cmd.members.map (·.1.length)).foldl max 0)
  cmd.usage p ++ "\n\n" ++ about ++ "\nOptions:\n" ++ (helpTable (cmd.allOptions.map fun o => (o.shown, o.shownHelp)))
    ++ if cmd.isGroup then "\nCommands:\n" ++ helpTable (cmd.members.map fun e => (e.1, shortHelp limit e.2)) else ""

end CommandSpec

inductive Given
  | flag
  | value (text : String)
  | bare

structure Typed where
  opts : Named Given := []
  words : Names := []

def noSuchOption (spelling : String) (ys : Names) : Ending :=
  let advice := match sorted (closest spelling ys) with
    | [] => ""
    | [one] => s!" Did you mean {one}?"
    | several => s!" (Possible options: {commaSeparated several})"
  .misuse s!"No such option: {spelling}{advice}" true

def looksLikeOption (w : String) := w.startsWith "-" && 1 < w.length

def isShort (spelling : String) : Bool := spelling.length = 2

def takeValue (o : OptionSpec) (spelling : String) (xs : Names) : Except Ending (Given × Names) :=
  match xs with
  | [] =>
    if o.isAskedOnlyBare then .ok (.bare, [])
    else .error (.misuse s!"Option {quoted spelling} requires an argument." false)
  | w :: later => if o.isAskedOnlyBare && looksLikeOption w then .ok (.bare, xs) else .ok (.value w, later)

def takeShort (opts : List OptionSpec) (start : String) : Chars → Except Ending (Named Given)
  | [] => .ok []
  | c :: xs => do
    let spelling := start ++ .ofList [c]
    let some o := opts.find? fun o => o.spellings.any fun s => isShort s && s = spelling
      | throw (.misuse s!"No such option: {spelling}" true)
    return (o.name, .flag) :: (← takeShort opts start xs)

def takeOption (opts : List OptionSpec) (w : String) (xs : Names) : Except Ending (Named Given × Names) := do
  let (spelling, inline) : String × Option String := match w.splitOn "=" with
    | x :: z :: more => (x, some ("=".intercalate (z :: more)))
    | _ => (w, none)
  let isLong (s : String) := !isShort s
  match opts.find? fun o => o.spellings.any fun s => isLong s && s = spelling with
  | some o =>
    if o.takesValue then
      let (y, xs) ← takeValue o spelling (inline.toList ++ xs)
      pure ([(o.name, y)], xs)
    else if inline.isSome then throw (.misuse s!"Option {quoted spelling} does not take a value." false)
    else pure ([(o.name, .flag)], xs)
  | none =>
    if w.startsWith "--" then throw (noSuchOption spelling (opts.flatMap (·.spellings.filter isLong)))
    pure (← takeShort opts "-" (w.toList.drop 1), xs)

def readTyped (o : List OptionSpec) (isGroup : Bool) : Nat → Typed → Names → Except Ending Typed
  | 0, typed, ws => .ok { typed with words := typed.words ++ ws }
  | _ + 1, typed, [] => .ok typed
  | fuel + 1, typed, w :: xs =>
    if w = "--" then .ok { typed with words := typed.words ++ xs }
    else if looksLikeOption w then do
      let (x, xs) ← takeOption o w xs
      readTyped o isGroup fuel { typed with opts := typed.opts ++ x } xs
    else if isGroup then .ok { typed with words := typed.words ++ w :: xs }
    else readTyped o isGroup fuel { typed with words := typed.words ++ [w] } xs

namespace Dialogue

def formed (k : OptionKind) (v : String) : Dialogue String := do
  match k with
  | .integer =>
    let some n := Decimal.int? v | misuse s!"{quoted v} is not a valid integer."
    return toString n
  | .file isThere =>
    let tty ← get
    let whole := tty.absolute v
    let s := quoted whole
    let p := resolvedPath whole
    if tty.isDir p then misuse s!"File {s} is a directory."
    if isThere && !tty.isFile p then misuse s!"File {s} does not exist."
    pure p
  | _ => pure v

def blaming {α : Type} (o : OptionSpec) (work : Dialogue α) :=
  tryCatch work fun
    | .misuse reason showsUsage => throw (.misuse s!"Invalid value for {o.hint}: {reason}" showsUsage)
    | x => throw x

def askOption (o : OptionSpec) (q : String) (vs : Values) :=
  ask q o.default false fun a => do o.accept vs false (← formed o.kind a)

variable (cmd : CommandSpec) (p ver : String)

def process (t : Typed) (vs : Values) (o : OptionSpec) : Dialogue Values := do
  let accepted (isGiven : Bool) (s : String) : Dialogue Values :=
    return vs.insert o.name (← o.accept vs isGiven (← blaming o (formed o.kind s)))
  match o.kind, t.opts.reverse.lookup o.name with
  | .help, some _ =>
    print (cmd.helpText p)
    throw .finished
  | .version, some _ =>
    say s!"{p}, version {ver}"
    throw .finished
  | .flag, some _ => return vs.insert o.name "yes"
  | .help, none | .version, none | .flag, none => pure vs
  | _, some (.value s) => accepted true s
  | _, x =>
    match o.question, x.isSome || !o.isAskedOnlyBare with
    | some q, true => return vs.insert o.name (← askOption o q vs)
    | _, _ =>
      let some s := o.default | pure vs
      accepted false s

def processOrder (t : Typed) :=
  let place (o : OptionSpec) : Nat := (t.opts.map Prod.fst).idxOf o.name
  let sorted := cmd.allOptions.mergeSort fun a b => place a ≤ place b
  sorted.filter (·.isFirst) ++ sorted.filter (!·.isFirst)

def readWords (ws : Names) : Dialogue (Values × Names) := do
  let typed ← MonadExcept.ofExcept (readTyped cmd.allOptions cmd.isGroup (ws.length * 2 + 1) {} ws)
  pure (← (processOrder cmd typed).foldlM (process cmd p ver typed) ∅, typed.words)

def tell (p : String) : Ending → StateM Terminal (Int × Option Fault)
  | .finished => pure (0, none)
  | .fault f => pure (1, some f)
  | .aborted => do
    let _ ← (say "Aborted!").run
    pure (1, none)
  | .complaint reason => do
    let _ ← (say s!"Error: {reason}").run
    pure (1, none)
  | .misuse reason showsUsage => do
    let usage := if !showsUsage then "" else
      cmd.usage p ++ "\n" ++ (if cmd.hintsAtHelp then s!"Try '{p} --help' for help.\n" else "") ++ "\n"
    let _ ← (print s!"{usage}Error: {reason}\n").run
    pure (2, none)

end Dialogue

end Transmon.Command
