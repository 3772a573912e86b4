import Std.Time.DateTime.Timestamp
import Transmon.Command.Account

/-!
The command line.
-/

open Transmon Command

def readTyped (input : IO.FS.Stream) : Nat → IO Names
  | 0 => return []
  | fuel + 1 => do
    let l ← input.getLine
    if l.isEmpty then return []
    return (l.dropEndWhile fun c => c == '\n' || c == '\r').toString :: (← readTyped input fuel)

def readFiles (paths : Names) : IO (Named String) := do
  let x ← paths.mapM fun (p : String) => do try return some (p, ← IO.FS.readFile p) catch _ => return none
  return x.filterMap id

def tokensFileOf (c : String) := do
  let .ok doc := Json.read c | none
  (doc.field? "tokens_file").bind Json.text?

def typedLimit := 1000

def main (ws : List String) : IO UInt32 := do
  let home := (← .getEnv "HOME").getD ""
  let files ← readFiles (configPath home :: tokensPath home :: ws)
  let x := Table.ofList (files ++ (← readFiles (files.filterMap (tokensFileOf ·.2))))
  let needsLines := ws.contains "init" || ws.contains "login"
  let typed ← if needsLines then readTyped (← .getStdin) typedLimit else pure []
  let now ← Std.Time.Timestamp.now
  let tty : Terminal :=
    { host :=
        { now := now.toSecondsSinceUnixEpoch.val, files := x, version := programVersion
          line := { replies := .replicate typedLimit (.broken ⟨"ConnectionError", "There is no connection."⟩) } }
      typed, directory := "", home }
  let ((code, f), tty) := (runProgram ws).run tty
  let output ← .getStdout
  output.putStr tty.printed
  if let some s := f.bind Fault.msg then output.putStrLn s else pure ()
  for (p, c) in tty.host.files.entries do
    if x.get? p != some c then
      let folder := "/".intercalate (p.splitOn "/").dropLast
      unless folder.isEmpty do IO.FS.createDirAll folder
      IO.FS.writeFile p c
  for p in x.keys do if !tty.host.files.contains p then IO.FS.removeFile p
  pure code.toNat.toUInt32
