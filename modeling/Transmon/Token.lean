import Transmon.Host

/-!
How long a token is still good.
-/

namespace Transmon.Token

def middle? (t : String) := do
  let _ :: body :: _ :: _ := t.splitOn "." | none
  some body

def filled (body : String) := body ++ "".pushn '=' ((4 - body.length % 4) % 4)

/-- The text of a part, which is read as UTF-8. -/
def decoded (body : String) : Outcome String := do
  if body.toList.any (128 ≤ ·.toNat) then fail .invalid
  let bs ← require .notBase64 (Wire.Base64.decode? body)
  let bs := if let 0xEF :: 0xBB :: 0xBF :: rest := bs then rest else bs
  require .badEncoding (Wire.text? bs)

def second : Json → Outcome Int
  | .int n => .ok n
  | .bool b => .ok (if b then 1 else 0)
  | .float x =>
    if x.isNaN then fail .invalid
    else if x.isInf then fail .overflow
    else .ok (Decimal.truncate x)
  | .text s => require .invalid (Decimal.int? s)
  | _ => fail .type

def ending (t : String) := do
  match Json.read (← decoded (filled (← require .invalid (middle? t)))) with
  | .error _ => fail .notJson
  | .ok (.object fs) => second ((fs.lookup "exp").getD (.int 0))
  | .ok _ => fail .noAttr

def left (now : Int) (t : String) := return max 0 ((← ending t) - now)

def leftOf (now : Int) : Json → Outcome Int
  | .text t =>
    match left now t with
    | .error f => if f.kind matches .overflow | .noAttr then .error f else .ok 0
    | .ok secs => .ok secs
  | _ => .ok 0

/-!
Sessions at an authentication server: they are opened with a password, renewed with a token, and ended.
-/

structure Realm where
  (server name client : String)

def joined (a b : String) :=
  .ofList (Text.trimEnd (· == '/') a.toList) ++ "/" ++ .ofList (b.toList.dropWhile (· == '/'))

namespace Realm

def margin : Int := 15

def patience : Int := 20

variable (re : Realm)

def address (service : String) := joined re.server s!"realms/{re.name}/protocol/openid-connect/{service}"

def send (service : String) (fs : Fields) : Work Host Http.Response :=
  Host.send {
    method := "post", url := re.address service
    payload := some (.form ((("client_id", .text re.client) :: fs).filter (!·.2.isNull)))
    timeout := some (patience) }

def tokenNames := ["access_token", "refresh_token"]

def tokensIn : Json → Outcome Fields
  | .object fs => return tokenNames.map fun n => (n, (fs.lookup n).getD (""))
  | _ => fail .noAttr

def unfinished := "Account is not fully set up"

def logIn (user password : Json) : Work Host Fields := do
  let r ← re.send "token" [("grant_type", "password"), ("username", user), ("password", password)]
  if r.status = 404 then failWith .authentication s!"token endpoint is not available at {re.server}"
  if r.status = 400 then
    let .object fs ← r.json | fail .noAttr
    if (fs.lookup "error_description").bind Json.text? = some unfinished then failWith .unfinishedAccount unfinished
  if r.status ≠ 200 then failWith .authentication "invalid username and/or password"
  tokensIn (← r.json)

variable (t : Json)

def left := do
  let .text t := t | fail .noAttr
  Token.left (← Host.look).now t

def isGood : Work Host Bool := return margin < (← left t)

def hasTokens : Json → Outcome Bool
  | .object fs => return tokenNames.all fun m => (fs.lookup m).isSome
  | .int n => if n = 0 then pure false else fail .type
  | .float x => if x == 0.0 then pure false else fail .type
  | .bool b => if b then fail .type else pure false
  | .array xs => return tokenNames.all fun m => xs.any fun y => y.text? = some m
  | .text s => return tokenNames.all fun m => 1 < (s.splitOn m).length
  | .null => pure false

def renew : Work Host Fields := do
  if !(← isGood t) then failWith .authentication "Refresh token has expired"
  let r ← re.send "token" [("grant_type", "refresh_token"), ("refresh_token", t)]
  if r.status ≠ 200 then failWith .authentication s!"Failed to update tokens, {r.text}"
  let j ← r.json
  if !(← hasTokens j) then failWith .authentication "Failed to get new tokens"
  tokensIn j

def logOut : Work Host Unit := do
  let r ← re.send "logout" [("refresh_token", t)]
  if r.status ≠ 204 then failWith .authentication s!"Failed to logout, {r.text}"

end Realm

/-!
Where a client gets its tokens from.
-/

structure Account where
  (server username password : String)

inductive Provider
  | external (t : Option String)
  | file (path : Option String)
  | server (account : Account) (renewal : Option String)

structure Manager where
  provider : Option Provider := none
  access : Option String := none

structure Desk where
  host : Host
  manager : Manager := {}

def params : Named String :=
  [("token", "IQM_TOKEN"), ("tokens_file", "IQM_TOKENS_FILE"), ("auth_server_url", "IQM_AUTH_SERVER"),
   ("username", "IQM_AUTH_USERNAME"), ("password", "IQM_AUTH_PASSWORD")]

def named (ns : Names) := Text.commaSeparated (ns.map ("\"" ++ · ++ "\""))

def Provider.choose (x : Named String) : Outcome (Option Provider) :=
  let value (n : String) : String := (x.lookup n).getD ""
  match x.map Prod.fst with
  | [] => pure none
  | ["token"] => return some (.external (some (value "token")))
  | ["tokens_file"] => return some (.file (some (value "tokens_file")))
  | ["auth_server_url", "username", "password"] =>
    return some (.server ⟨value "auth_server_url", value "username", value "password"⟩ none)
  | ns =>
    failWith .configuration (s!"Invalid combination of authentication parameters specified: {Text.quotedList ns},\n" ++
      "                Use either ['token'] or ['username', 'password'].")

/-- Opens a manager. The parameters are given directly or as variables, never both; empty ones do not count. -/
def Manager.open (h : Host) (direct : Named String) : Outcome Manager := do
  let given := params.filterMap fun e => (direct.lookup e.1).bind fun v => if v.isEmpty then none else some (e.1, v)
  let assigned := params.filterMap fun e => (h.valueOf? e.2).bind fun v => if v.isEmpty then none else some (e, v)
  if !given.isEmpty && !assigned.isEmpty then
    let args := named (given.map Prod.fst)
    let ns := named (assigned.map (·.1.2))
    failWith .configuration ("Authentication parameters given both as initialisation args and as environment " ++
      s!"variables: initialisation args {args}, environment variables {ns}. Parameter sources must not be mixed.")
  let chosen := if assigned.isEmpty then given else assigned.map fun e => (e.1.1, e.2)
  pure { provider := ← Provider.choose chosen }

def margin : Int := 60

def patience : Number := .float 60.0

variable (a : Account)

def Account.call (service : String) (fs : Fields) : Http.Call :=
  { method := "post", url := s!"{a.server}/realms/cortex/protocol/openid-connect/{service}"
    payload := some (.form (("client_id", "iqm_client") :: fs)), timeout := some patience }

def Account.renewal (t : String) := a.call "token" [("grant_type", "refresh_token"), ("refresh_token", t)]

def Account.logIn := a.call "token" [("grant_type", "password"), ("username", a.username), ("password", a.password)]

abbrev Management := Work Desk

namespace Management

def onHost {α : Type} (work : Work Host α) : Management α :=
  .within Desk.host (fun host desk => { desk with host }) work

def keep (provider : Option Provider) : Management Unit := modify ({ · with manager.provider := provider })

def left (t : Json) : Management Int := do leftOf (← onHost Host.look).now t

def good? (t : Json) := return if 0 < (← left t) then t.text? else none

def refused {α : Type} (reason : String) : Management α := failWith .authentication reason

def orRefused (reason : String) : Option String → Management String
  | some x => pure x
  | none => refused reason

def member (n : String) : Json → Outcome Json
  | .object fs => .ok ((fs.lookup n).getD .null)
  | _ => fail .noAttr

def access? (ts : Json) : Management (Option String) := do good? (← member "access_token" ts)

variable (a : Account)

def keepRenewal (ts : Json) : Management Unit := do
  let renewal ← member "refresh_token" ts
  keep (some (.server a renewal.text?))
  keep (some (.server a (← good? renewal)))

def granted (r : Http.Response) : Management (Option String) := do
  if r.status ≠ 200 then return none
  let ts ← r.json
  keepRenewal a ts
  access? ts

def fetch (c : Http.Call) : Management (Option String) := do granted a (← onHost (Host.send c))

def document (h : Host) (p : String) : Except String Json := do
  let c ← h.file p
  (Json.read c).mapError (·.msg c)

def readFile (p : String) : Management String := do
  match document (← onHost Host.look) p with
  | .error reason => refused s!"Failed to read access token from file '{p}': {reason}"
  | .ok j => orRefused "Access token in file has expired or is not valid" (← access? j)

variable (renewal : Option String)

def renewed : Management (Option String) := do
  if margin < (← left (renewal.elim .null .text)) then fetch a (a.renewal (renewal.getD "")) else pure none

def issued : Management (Option String) := do
  let x ← renewed a renewal
  if x.isSome then pure x else fetch a a.logIn

def fromProvider : Provider → Management String
  | .external t => orRefused "No external token available" t
  | .file p => do readFile (← orRefused "No tokens file available" p)
  | .server a renewal => do orRefused "Getting access token from auth server failed" (← issued a renewal)

def keptLeft : Management Int := do left ((← get).manager.access.elim .null .text)

/-- The header of a call: the kept token if it is good, else one from the provider, or what follows its refusal. -/
def bearerOr (again : Fault → Management (Option String)) : Management (Option String) := do
  let some provider := (← get).manager.provider | pure none
  if margin < (← keptLeft) then return (← get).manager.access.map ("Bearer " ++ ·)
  match ← .attempt (fromProvider provider) with
  | .ok t =>
    modify ({ · with manager.access := some t })
    return some s!"Bearer {t}"
  | .error f => again f

/-- The header of a call; a provider that refuses is asked again so many times. -/
def bearer : Nat → Management (Option String)
  | 0 => bearerOr throw
  | retries + 1 => bearerOr fun f => if f.kind = .authentication then bearer retries else throw f

def closeProvider : Provider → Management Unit
  | .external _ => do
    keep (some (.external none))
    refused "Can not close externally managed auth session"
  | .file _ => do
    keep (some (.file none))
    refused "Can not close externally managed auth session"
  | .server _ none => refused "No auth session active"
  | .server a (some t) => do
    keep (some (.server a none))
    let r ← onHost (Host.send (a.call "logout" [("refresh_token", t)]))
    if r.status ≠ 200 ∧ r.status ≠ 204 then refused s!"Logout failed, {r.text}"

def close : Management Bool := do
  let some provider := (← get).manager.provider | pure false
  closeProvider provider
  keep none
  pure true

end Management

end Transmon.Token
