import Transmon.Command.Terminal
import Transmon.Form.Basic
import Transmon.Token

/-!
The commands with which a user manages sessions: one writes the configuration, the others open a session, show how it
stands, and end it. A keeper of tokens can renew the session until it is stopped.
-/

namespace Transmon.Command

open Dialogue Colour

def programVersion := "20.1.0"

def programName := "iqmclient"

def ownProcess : Int := 4242

structure Config where
  realm : Token.Realm
  username : String := ""
  tokensFile : String

variable (fs : Fields)

def hasMembers (ns : Names) := ns.all fun n => (fs.lookup n).isSome

def memberText (n : String) :=
  match fs.lookup n with
  | some .null | none => ""
  | some x => x.shown

def configMembers := ["auth_server_url", "realm", "client_id", "tokens_file"]

def tokensMembers := ["timestamp", "access_token", "refresh_token", "auth_server_url"]

def Config.ofFields : Config :=
  { realm := ⟨memberText fs "auth_server_url", memberText fs "realm", memberText fs "client_id"⟩
    username := memberText fs "username"
    tokensFile := tidyPath (memberText fs "tokens_file") }

def unopened (p reason : String) := s!"Could not open file {Text.quoted p}: {reason}"

variable (p : String)

def readDoc :=
  tryCatch (readJson p) fun ending => do
    if let .fault fault := ending then
      if fault.kind = .noFile then complain (unopened p "file not found")
      if fault.kind = .notJson then complain (unopened p s!"file is not a valid JSON file: {fault.text}")
    throw ending

def readMembers (p what remedy : String) (ns : Names) : Dialogue Fields := do
  let .object fs ← readDoc p | fail .type
  if !hasMembers fs ns then
    complain (unopened p (s!"Provided {what} file is valid JSON, but does not satisfy IQM Client CLI format. "
      ++ s!"Possible reasons:\n- IQM Client CLI was upgraded and {what} file format is changed. Check the changelog."
      ++ s!"\n- {what.capitalize} file was manually edited by someone.\n\nRe-generate a valid {what} file by running "
      ++ s!"'{remedy}'.\n\nFull validation error:\nfield required"))
  return fs

def readConfig : Dialogue Config := do .ofFields <$> readMembers p "config" "iqmclient init" configMembers

def readTokens := do
  let fs ← readMembers p "tokens" "iqmclient auth login" tokensMembers
  let some (.text s) := fs.lookup "timestamp" | fail .type
  pure (fs, ← Text.Moment.read s)

def readTokens? :=
  tryCatch (some <$> readTokens p) fun
    | .complaint _ => pure none
    | x => throw x

def mentions (n : String) : Json → Outcome Bool
  | .object fs => return (fs.lookup n).isSome
  | .array xs => return xs.any (·.text? = some n)
  | .text s => return 1 < (s.splitOn n).length
  | _ => fail .type

def keeper := do
  let j ← readJson p
  if !(← mentions "pid" j) then return none
  let .object fs := j | fail .type
  let some (.int n) := fs.lookup "pid" | pure none
  return if n ≠ 0 && (← get).running.contains n then some n else none

def stop (process : Int) : Dialogue Unit := modify fun t => { t with running := t.running.filter (· != process) }

def clockTime : Dialogue Text.Moment := return .ofSeconds (← get).host.now

def saveTokens (ts : Fields) (s : String) : Dialogue Unit := do
  let j := Json.object (("timestamp", .text (← clockTime).written) :: ts ++ [("auth_server_url", .text s)])
  let some reason ← writeFile p j.spaced | return
  complain s!"Error writing tokens file, {reason}"

structure Renewal where
  tokens : Option Fields
  isNew : Bool
  pause : Int

variable (c : Config)

def renewTokens (now : Json) (cycle : Int) : Dialogue Renewal := do
  let .object fs := now | fail .noAttr
  let token (n : String) : Json := (fs.lookup n).getD ("")
  let o ← attempt (c.realm.renew (token "refresh_token"))
  let time := (← clockTime).brief
  match o with
  | .ok ts =>
    say s!"{time}: Tokens refreshed successfully."
    pure { tokens := some ts, isNew := true, pause := cycle }
  | .error f =>
    if f.isDisconnection || f.isLateness then
      say s!"{time}: No response from auth server: {f.text}"
      pure {
        tokens := some (Token.Realm.tokenNames.map fun n => (n, token n)), isNew := false
        pause := if f.isDisconnection then Token.Realm.patience else 1 }
    else if f.kind = .authentication then
      say s!"{time}: Failed to authenticate with auth server: {f.text}"
      pure { tokens := none, isNew := false, pause := cycle }
    else throw (.fault f)

def keepTokens (cfg : Config) (cycle : Int) (isSingle : Bool) : Nat → Dialogue Unit
  | 0 => throw (.fault (.bare .exhausted))
  | fuel + 1 => do
    let renewal ← renewTokens cfg (← readJson cfg.tokensFile) cycle
    let some ts := renewal.tokens | return
    let j := Json.object ([("pid", .int ownProcess), ("timestamp", .text (← clockTime).written),
      ("refresh_status", .text (if renewal.isNew then "SUCCESS" else "FAILED"))] ++ ts
      ++ [("auth_server_url", .text cfg.realm.server)])
    if let some reason ← writeFile cfg.tokensFile j.spaced then say s!"Error writing tokens file {reason}"
    if isSingle then return
    onHost (Host.sleep renewal.pause)
    keepTokens cfg cycle isSingle fuel

def keepSession (cycle : Int) (isSingle : Bool) : Dialogue Unit := do
  keepTokens c cycle isSingle ((← get).host.line.replies.length + 2)
  say ((← clockTime).brief ++ ": Token manager stopped")

def startKeeper (cycle : Int) (isForeground : Bool) : Dialogue Unit := do
  let k := if isForeground then "foreground" else "daemon"
  modify fun t => { t with started := t.started ++ [(k, cycle)] }
  if isForeground then keepSession c cycle true

def unchecked (spelling v : String) : Dialogue String := do
  say (yellow.paint s!"Skipping validation of \"{spelling}\", using the provided value \"{v}\" as is")
  pure v

def acceptPathWithin (p : String) : Nat → Dialogue String
  | 0 => throw .aborted
  | fuel + 1 => do
    if ← confirm (red.paint "File at given path already exists. Overwrite?") then return p
    let x ← ask "New file path" none false (formed (.file false))
    if x = p then acceptPathWithin p fuel else pure x

def acceptPath (spelling : String) (_ : Values) (isGiven : Bool) (p : String) := do
  if isGiven then return ← unchecked spelling p
  if !(← get).isFile p then return p
  acceptPathWithin p (← patience)

def isReachable (url : String) : Dialogue Bool := do
  let work := do
    let r ← Host.send { method := "get", url, timeout := some (Token.Realm.patience) }
    if r.status ≠ 200 then return false
    mentions "public_key" (← r.json)
  match ← attempt work with
  | .ok isThere => pure isThere
  | .error f =>
    if f.isDisconnection || f.kind = .notJson || Http.Break.addressNames.any (f.kind = .other ·) then return false
    throw (.fault f)

def acceptReachable (what q : String) (urls : String → String × String) : Nat → String → Dialogue String
  | 0, _ => throw .aborted
  | fuel + 1, v => do
    let (tried, s) := urls v
    if ← isReachable tried then return v
    say s!"No auth {what} could be accessed with URL {s}"
    if ← confirm "Do you still want to use it?" (some false) then return v
    acceptReachable what q urls fuel (← askText q)

def serverQuestion := "Authentication server URL"

def realmQuestion := "Realm on IQM auth server"

def acceptServer (_ : Values) (isGiven : Bool) (url : String) := do
  if isGiven then return ← unchecked "--auth-server-url" url
  acceptReachable "server" serverQuestion (fun url => (s!"{url}/realms/master", url)) (← patience) url

variable (vs : Values)

def acceptRealm (isGiven : Bool) (realm : String) := do
  if isGiven then return ← unchecked "--realm" realm
  let s := vs.getD "auth_server_url" ""
  acceptReachable "realm" realmQuestion (fun realm => let url := s!"{s}/realms/{realm}"; (url, url)) (← patience) realm

def verboseOption : OptionSpec :=
  { name := "verbose", spellings := ["-v", "--verbose"], kind := .flag, help := "Print extra information." }

variable (home : String)

def configPath := home ++ "/.config/iqm-client-cli/config.json"

def tokensPath := home ++ "/.cache/iqm-client-cli/tokens.json"

def configurationOption (home help : String) : OptionSpec :=
  { name := "config_file", kind := .file true, help, default := some (configPath home) }

def configurationHelp := "Location of the configuration file to be used."

def initCommand : CommandSpec :=
  { name := "init", help := "Initialize configuration and authentication.", hintsAtHelp := false
    opts := [
      .helpOption,
      { name := "config_file", kind := .file false, isFirst := true
        help := "Location where the configuration file will be saved.", question := some "Where to save config"
        default := some (configPath home), accept := acceptPath "--config-file" },
      { name := "tokens_file", kind := .file false, isFirst := true
        help := "Location where the tokens file will be saved.", question := some "Where to save auth tokens"
        default := some (tokensPath home), accept := acceptPath "--tokens-file" },
      { name := "auth_server_url", isFirst := true
        help := "Authentication server URL.", question := some serverQuestion, accept := acceptServer },
      { name := "realm", isAskedOnlyBare := true, showsDefault := true
        help := "Name of the realm on the IQM authentication server.", question := some realmQuestion
        default := some "cortex", accept := acceptRealm },
      { name := "client_id", isAskedOnlyBare := true, showsDefault := true
        help := "Client ID on the IQM authentication server.", question := some "Client ID"
        default := some "iqm_client" },
      { name := "username", help := "Username. If not provided, it will be asked for at login."
        question := some "Username (optional)", default := some "" },
      verboseOption] }

def statusCommand : CommandSpec :=
  { name := "status", help := "Check status of authentication."
    opts := [configurationOption home configurationHelp, verboseOption] }

def loginCommand : CommandSpec :=
  { name := "login"
    help := "Authenticate on the IQM server, and optionally start a token manager to maintain the session."
    opts := [
      configurationOption home configurationHelp,
      { name := "username", help := "Username for authentication." },
      { name := "password", help := "Password for authentication." },
      { name := "refresh_period", kind := .integer, default := some "180"
        showsDefault := true, help := "How often to refresh tokens (in seconds)." },
      { name := "no_daemon", kind := .flag, help := "Start token manager in foreground, not as daemon." },
      { name := "no_refresh", kind := .flag, help := "Login, but do not start token manager to refresh tokens." },
      verboseOption] }

def logoutCommand : CommandSpec :=
  { name := "logout"
    help := "Either logout completely, or just stop token manager while keeping tokens file."
    opts := [
      configurationOption home "",
      { name := "keep_tokens", kind := .flag, help := "Don't delete tokens file, but kill token manager." },
      { name := "force", spellings := ["-f", "--force"], kind := .flag, help := "Don't ask for confirmation." }] }

def authGroup : CommandSpec :=
  { name := "auth", help := "Manage authentication.", isGroup := true
    members := [loginCommand home, logoutCommand home, statusCommand home].map fun cmd => (cmd.name, cmd.help) }

def program : CommandSpec :=
  { name := programName
    help := "IQM Client CLI for managing user authentication when using IQM quantum computers", isGroup := true
    opts := [.versionOption]
    members := [authGroup home, initCommand home].map fun cmd => (cmd.name, cmd.help) }

def laidOut :=
  "\x7b\n" ++ ",\n".intercalate (fs.map fun e => s!"  {(Json.text e.1).spaced}: {e.2.spaced}") ++ "\n\x7d"

def initialise : Dialogue Unit := do
  let p := vs.getD "config_file" ""
  let tokensFile := vs.getD "tokens_file" ""
  let j := laidOut (["auth_server_url", "realm", "client_id", "username", "tokens_file"].map fun n =>
    (n, vs.getD n ""))
  if (← get).isFile tokensFile then
    if let some process ← keeper tokensFile then
      say s!"Active token manager (PID {process}) will be killed."
      stop process
    removeFile tokensFile
  if let some reason ← writeFile p j then complain s!"Error writing configuration file, {reason}"
  if vs.contains "verbose" then say s!"Saved configuration file: {p}"
  say "IQM Client CLI initialized successfully. Login and start the token manager with 'iqmclient auth login'."

def shownSpan (secs : Nat) : String :=
  let days := match secs / 86400 with
    | 0 => ""
    | 1 => "1 day, "
    | n => s!"{n} days, "
  let xs := secs % 86400
  let two (n : Nat) : String := if n < 10 then s!"0{n}" else toString n
  days ++ toString (xs / 3600) ++ ":" ++ two (xs / 60 % 60) ++ ":" ++ two (xs % 60)

def isSaid (n : String) := (fs.lookup n).any Form.toBool

def showStatus : Dialogue Unit := do
  let p := vs.getD "config_file" ""
  if vs.contains "verbose" then say s!"Using configuration file: {p}"
  let file := (← readConfig p).tokensFile
  if !(← get).isFile file then
    say "Not logged in. Use \"iqmclient auth login\" to login."
    return
  let some (fs, m) ← readTokens? file
    | say "Provided tokens.json file is invalid. Use \"iqmclient auth login\" to generate new tokens."
  say s!"Tokens file: {file}"
  if !isSaid fs "pid" then
    say ("Tokens file doesn't contain PID. Probably, 'iqmclient auth login' was launched with '--no-refresh'\n")
  let status := if isSaid fs "refresh_status" then memberText fs "refresh_status" else "SUCCESS"
  let painted := (if status = "SUCCESS" then green else red).paint status
  say (s!"Last refresh: {m.brief} from " ++ memberText fs "auth_server_url" ++ " " ++ painted)
  for kind in ["access", "refresh"] do
    let secs := (← onHost (Token.Realm.left ((fs.lookup s!"{kind}_token").getD .null))).toNat
    if 999999999 < secs / 86400 then fail .overflow
    say s!"Time left on {kind} token (hh:mm:ss): {shownSpan secs}"
  say ("Token manager: " ++ match (← keeper file) with
    | some process => green.paint "RUNNING" ++ s!" (PID {process})"
    | none => red.paint "NOT RUNNING")

def isUnanswered (f : Fault) := f.isDisconnection || f.isLateness || f.kind = .authentication

/-- Starts a keeper as asked for, unless none is wanted, and says so. -/
def startAsked (cycle : Int) (isForeground isOnce : Bool) (unstarted foreground daemon : String) : Dialogue Unit := do
  if isOnce then say s!"{unstarted}Token manager not started due to '--no-refresh' flag."
  else
    say (if isForeground then foreground else daemon)
    startKeeper c cycle isForeground

def resume (cycle : Int) (isForeground isOnce isVerbose : Bool) : Dialogue Bool := do
  let file := c.tokensFile
  match ← readTokens? file with
  | none =>
    say "Provided tokens.json file is invalid, continuing with login with username and password."
    removeFile file
    pure false
  | some (fs, _) =>
    if isVerbose then say s!"Attempting to refresh tokens by using existing refresh token from file: {file}"
    match ← attempt (c.realm.renew ((fs.lookup "refresh_token").getD .null)) with
    | .error f =>
      if isUnanswered f then
        say "Failed to refresh tokens by using existing token. Switching to username/password."
        pure false
      else throw (.fault f)
    | .ok ts =>
      saveTokens file ts c.realm.server
      if isVerbose then say s!"Saved new tokens file: {file}"
      let used := "Existing token was used to refresh the auth session. Token manager "
      startAsked c cycle isForeground isOnce "Existing token used to refresh session. "
        s!"{used}started in foreground..." s!"{used}daemon started."
      pure true

def refusal (r : Token.Realm) (f : Fault) : Ending :=
  if f.isDisconnection then .complaint s!"Authentication server at {r.server} is not accessible"
  else if f.isLateness then .complaint s!"Authentication server at {r.server} is not responding"
  else if f.kind = .authentication then .complaint s!"Failed to authenticate, {f.text}"
  else if f.kind = .unfinishedAccount then
    let url := Token.joined r.server s!"realms/{r.name}/account"
    .complaint ("\nFailed to authenticate, because your account is not fully set up yet.\n"
      ++ s!"Please update your password at {url}\n")
  else .fault f

def openSession (vs : Values) (cycle : Int) (isForeground isOnce : Bool) : Dialogue Unit := do
  let file := c.tokensFile
  let given := vs.getD "username" ""
  let user ← if !given.isEmpty then pure given
    else if !c.username.isEmpty then pure c.username else askText "Username"
  if !c.username.isEmpty then say s!"Username: {user}"
  let typed := vs.getD "password" ""
  match ← attempt (c.realm.logIn (user) (← if !typed.isEmpty then pure typed else askText "Password" true)) with
  | .error f => throw (refusal c.realm f)
  | .ok ts =>
    say s!"Logged in successfully as {user}"
    saveTokens file ts c.realm.server
    let verb := if (← get).isWindows then "set" else "export"
    say ("\nTo use the tokens file with IQM Client or IQM Client-based software, set the environment variable:\n\n"
      ++ s!"{verb} IQM_TOKENS_FILE={file}\n\n"
      ++ "Refer to IQM Client documentation for details: https://docs.meetiqm.com/iqm-client/\n")
    startAsked c cycle isForeground isOnce "" "Starting token manager in foreground..."
      "Starting token manager daemon..."

def logIn : Dialogue Unit := do
  let isOnce := vs.contains "no_refresh"
  let mustStay := (← get).isWindows && !isOnce && !vs.contains "no_daemon"
  if mustStay then
    say (yellow.paint "Warning" ++
      ": Daemonizing is not supported on Windows, and the application has started in foreground mode; "
      ++ "please keep this terminal session open in order for IQM Client CLI to keep refreshing the tokens and "
      ++ "maintaining the authentication.\n")
  let isForeground := mustStay || vs.contains "no_daemon"
  if isOnce && isForeground then
    misuse "Cannot request a non-daemonic (foreground) token manager when using '--no-refresh'."
  let cfg ← readConfig (vs.getD "config_file" "")
  let cycle := (Decimal.int? (vs.getD "refresh_period" "")).getD 0
  if (← get).isFile cfg.tokensFile then
    if (← keeper cfg.tokensFile).isSome then
      say "Login aborted, because token manager is already running. See 'iqmclient auth status'."
      return
    if ← resume cfg cycle isForeground isOnce (vs.contains "verbose") then return
  openSession cfg vs cycle isForeground isOnce

def endSession (t : Json) : Dialogue Unit := do
  let .error f ← attempt (c.realm.logOut t) | return
  if isUnanswered f then
    say s!"Failed to revoke tokens due to error when connecting to authentication server: {f.text}"
  else throw (.fault f)

def logOut : Dialogue Unit := do
  let cfg ← readConfig (vs.getD "config_file" "")
  let file := cfg.tokensFile
  let keepsTokens := vs.contains "keep_tokens"
  if !(← get).isFile file then
    say "Not logged in."
    return
  let some (fs, _) ← readTokens? file | say "Found invalid tokens.json, cannot perform any logout steps."
  let manager ← keeper file
  if keepsTokens && manager.isNone then
    say "Token manager is not running, and you chose to keep tokens. Nothing to do, exiting."
    return
  let q := if keepsTokens then "Keep tokens file and kill token manager. OK?"
    else if manager.isSome then "Logout from server, delete tokens and kill token manager. OK?"
    else "Logout from server and delete tokens. OK?"
  if !(← if vs.contains "force" then pure true else confirm q) then
    say "Logout aborted."
    return
  if !keepsTokens then endSession cfg ((fs.lookup "refresh_token").getD .null)
  manager.forM stop
  if keepsTokens then say "Token manager killed."
  else
    removeFile file
    say "Tokens file deleted. Logged out."

/-- What runs some words to the end: with a status, and a fault if one ended it. -/
abbrev Run := Names → StateM Terminal (Int × Option Fault)

def runCommand (cmd : CommandSpec) (p : String) (work : Values → Dialogue Unit) : Run := fun ws => do
  let all := do
    let (vs, xs) ← readWords cmd p programVersion ws
    match xs with
    | [] => work vs
    | [w] => misuse s!"Got unexpected extra argument ({w})"
    | several => misuse ("Got unexpected extra arguments (" ++ " ".intercalate several ++ ")")
  let .error ending ← all.run | pure (0, none)
  tell cmd p ending

def isSign (c : Char) := c.toNat < 128 && !c.isAlphanum

def runGroup (g : CommandSpec) (p : String) (ms : Named Run) : Run := fun ws => do
  let showHelp := do
    print (g.helpText p)
    throw .finished
  let choose : Dialogue (StateM Terminal (Int × Option Fault)) := do
    if ws.isEmpty then showHelp
    let (_, xs) ← readWords g p programVersion ws
    let n :: later := xs | misuse "Missing command."
    if let some run := ms.lookup n then return run later
    if n.toList.head?.any isSign then
      if later.isEmpty then showHelp
      discard (readWords g p programVersion later)
    misuse s!"No such command {Text.quoted n}."
  match ← choose.run with
  | .ok run => run
  | .error ending => tell g p ending

def runProgram : Run := fun ws => do
  let home := (← get).home
  let member (p : String) (cmd : CommandSpec) (work : Values → Dialogue Unit) : String × Run :=
    (cmd.name, runCommand cmd s!"{p} {cmd.name}" work)
  let authPath := programName ++ " auth"
  let auth := runGroup (authGroup home) authPath [member authPath (loginCommand home) logIn,
    member authPath (logoutCommand home) logOut, member authPath (statusCommand home) showStatus]
  runGroup (program home) programName [member programName (initCommand home) initialise, ("auth", auth)] ws

end Transmon.Command
