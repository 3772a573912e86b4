import Transmon.Number
import Transmon.Wire

/-!
Failures that a server reports by status.
-/

namespace Transmon

namespace Http

inductive Failure
  | badRequest | unauthorized | forbidden | notFound | conflict | validation | internal | badGateway
  | unavailable | gatewayTimeout
deriving DecidableEq

namespace Failure

def table : List (Failure × Int × String) :=
  [(.badRequest, 400, "BadRequestError"), (.unauthorized, 401, "UnauthorizedError"), (.forbidden, 403, "ForbiddenError"),
   (.notFound, 404, "NotFoundError"), (.conflict, 409, "ConflictError"), (.validation, 422, "ValidationError"),
   (.internal, 500, "InternalServerError"), (.badGateway, 502, "BadGatewayError"),
   (.unavailable, 503, "ServiceUnavailableError"), (.gatewayTimeout, 504, "GatewayTimeoutError")]

def code (f : Failure) := ((table.lookup f).map Prod.fst).getD 500

def name (f : Failure) := ((table.lookup f).map Prod.snd).getD ""

def ofCode (status : Int) := ((table.find? (·.2.1 == status)).map Prod.fst).getD .internal

def ofName? (n : String) := (table.find? (·.2.2 == n)).map Prod.fst

def raise {α : Type} (f : Failure) (reason : String) : Outcome α := failWith (.other f.name) reason

end Failure

/-!
Calls to servers and their answers.
-/

inductive Payload
  | form (fields : Fields)
  | text (content : String)
  | bytes (content : Wire.Bytes)

structure Call where
  (method url : String)
  headers : Named (Option String) := []
  query : Fields := []
  payload : Option Payload := none
  timeout : Option Number := none

inductive Content
  | text (content : String)
  | bytes (content : Wire.Bytes)

structure Response where
  status : Int := 200
  content : Content := .text ""
  history : List Int := []

structure Break where
  name : String
  reason : String := ""

inductive Reply
  | answer (r : Response)
  | broken (trouble : Break)

inductive Act
  | call (call : Call)
  | sleep (seconds : Number)

structure Exchange where
  replies : List Reply := []
  acts : List Act := []

namespace Response

variable (r : Response)

def isOk := r.status < 400 || 600 ≤ r.status

def text :=
  match r.content with
  | .text c => c
  | .bytes c => (Wire.text? c).getD ""

def bytes :=
  match r.content with
  | .text c => Wire.ofText c
  | .bytes c => c

def json : Outcome Json :=
  match Json.read r.text with
  | .ok j => .ok j
  | .error error => hint .notJson (error.msg r.text)

def checkStatus : Check := if r.isOk then .ok () else fail .http

def exhausted : Response := { status := 599, content := .text "no more answers" }

end Response

namespace Break

def connectionNames := ["ConnectionError", "ConnectTimeout", "SSLError", "ProxyError"]

def timeoutNames := ["Timeout", "ConnectTimeout", "ReadTimeout"]

def addressNames : Names :=
  ["InvalidURL", "MissingSchema", "InvalidSchema", "InvalidHeader", "InvalidProxyURL", "URLRequired"]

def fault (trouble : Break) : Fault :=
  .hinted (if trouble.name = "KeyboardInterrupt" then .interrupted else .other trouble.name) trouble.reason

end Break

end Http

def Fault.isDisconnection (f : Fault) := Http.Break.connectionNames.any (f.kind = .other ·)

def Fault.isLateness (f : Fault) := Http.Break.timeoutNames.any (f.kind = .other ·)

namespace Http.Exchange

variable (e : Exchange)

def note (act : Act) := { e with acts := e.acts ++ [act] }

def send (c : Call) : Outcome Response × Exchange :=
  let noted := e.note (.call c)
  match e.replies with
  | [] => (.ok .exhausted, noted)
  | .answer r :: xs => (.ok r, { noted with replies := xs })
  | .broken trouble :: xs => (.error trouble.fault, { noted with replies := xs })

def drained := (e.acts, { e with acts := [] })

end Http.Exchange

/-!
What a client runs on: a clock, variables, files, a line to servers, and places for warnings and notes. The clock and
the files may be others at each look: `ahead` has the seconds that pass until then, and the files that are there then.
-/

structure Host where
  now : Int := 0
  ahead : List (Nat × Table String String) := []
  environment : Table String String := ∅
  files : Table String String := ∅
  line : Http.Exchange := {}
  warnings : Names := []
  notes : Named String := []
  version : String := ""

namespace Host

variable (h : Host)

def valueOf? (n : String) := h.environment.get? n

variable (p : String)

def isDir :=
  let inside := if p.endsWith "/" then p else p ++ "/"
  h.files.keys.any (·.startsWith inside)

def isFile := (h.files.get? p).isSome

def file : Except String String :=
  match h.files.get? p with
  | some c => .ok c
  | none =>
    let s := Text.quoted p
    if h.isDir p then .error s!"[Errno 21] Is a directory: {s}"
    else .error s!"[Errno 2] No such file or directory: {s}"

def looked :=
  match h.ahead with
  | [] => h
  | (secs, files) :: ahead => { h with now := h.now + secs, files, ahead }

def look : Work Host Host := do
  modify looked
  get

def send (c : Http.Call) : Work Host Http.Response := do
  let h ← get
  let (reply, line) := h.line.send c
  set { h with line }
  reply

def sleep (secs : Int) : Work Host Unit :=
  modify fun h => { h with now := h.now + secs, line := h.line.note (.sleep (secs)) }

def warn (s : String) : Work Host Unit := modify fun h => { h with warnings := h.warnings ++ [s] }

def note (level s : String) : Work Host Unit := modify fun h => { h with notes := h.notes ++ [(level, s)] }

def write (p c : String) : Work Host Unit := modify fun h => { h with files := h.files.insert p c }

def remove : Work Host Unit := modify fun h => { h with files := h.files.erase p }

end Host

end Transmon
