import Transmon.Json

/-!
The configuration of loggers: which messages they pass on, and where those go.
-/

namespace Transmon.Logging

def levels : Named Nat :=
  [("CRITICAL", 50), ("FATAL", 50), ("ERROR", 40), ("WARN", 30), ("WARNING", 30), ("INFO", 20), ("DEBUG", 10),
    ("NOTSET", 0)]

def levelName : Nat → String
  | 50 => "CRITICAL"
  | 40 => "ERROR"
  | 30 => "WARNING"
  | 20 => "INFO"
  | 10 => "DEBUG"
  | 0 => "NOTSET"
  | n => s!"Level {n}"

def isInformation (level : Int) := level == 10 || level == 20

def configuration (loggers : Named (Outcome (Option String))) (defaultLevel : String) (verbose : Bool) :
    Outcome Fields := do
  let own ← loggers.mapM fun (m, level) => do
    let level := match ← level with
      | some level => if level.isEmpty then defaultLevel else level
      | none => defaultLevel
    let level := level.toUpper
    let some n := levels.lookup level | refuse s!"Logger name '{m}' has an incorrect level value '{level}'."
    pure (m, level, n)
  let lowest := own.foldl (fun least e => min least e.2.2) 50
  let es := own.map fun (m, level, _) =>
    (m, .object [("level", level), ("handlers", .array ["stdout", "stderr"]), ("propagate", false)])
  let es := if (es.lookup "").isSome then es
    else es ++ [("", .object [("level", "WARNING"), ("handlers", .array ["stderr"])])]
  let style := if verbose then "verbose" else "brief"
  let handler (level stream : String) (more : Fields) : Json :=
    .object ([("level", .text level), ("class", .text "logging.StreamHandler"), ("formatter", .text style),
      ("stream", .text stream)] ++ more)
  return [("loggers", .object (Table.ofList es).toList),
    ("handlers", [
      ("stdout", handler (levelName lowest) "ext://sys.stdout" [("filters", .array ["infofilter"])]),
      ("stderr", handler (if 30 < lowest then levelName lowest else "WARNING") "ext://sys.stderr" [])])]

end Transmon.Logging

/-!
Notices to callers.
-/

namespace Transmon.Notice

def deprecation (subject : String) (new : Option String) (since : String) : Outcome String := do
  if !Text.isDottedDate since then fail .invalid
  let start := s!"{subject} is deprecated since {since}, it can be be removed from the codebase in the next major release."
  let some x := new.filter fun s => !s.isEmpty | pure start
  return s!"{start} Use {x} instead."

end Transmon.Notice
