import Transmon.Proofs.Basic
import Transmon.Token

/-!
# Fresh tokens

A manager hands out the token it keeps as long as that has more than the margin left, and else asks its provider. The
clock and the files may change at every look, and a server may reply anything. Main statement: whatever happens, a
header has a token that was checked or given in this call, the provider is asked once more than there are retries at
most, and a server is sent no more than a renewal that can succeed and a login that is needed.
-/

namespace Transmon.Token

open Work

variable {token : String} {now later seconds : Int} {doc : Json}

/-- The token is good for more than so many seconds from now. -/
def Lasts (token : String) (now seconds : Int) : Prop := ∃ last, ending token = .ok last ∧ now + seconds < last

theorem Lasts.earlier (lasts : Lasts token later seconds) (before : now ≤ later) : Lasts token now seconds := by
  obtain ⟨last, ends, after⟩ := lasts
  exact ⟨last, ends, by omega⟩

theorem lt_left_iff {left : Int} (counted : leftOf now doc = .ok left) (least : 0 ≤ seconds) :
    seconds < left ↔ ∃ token, doc = .text token ∧ Lasts token now seconds := by
  cases doc with
  | text token =>
    unfold leftOf at counted
    cases ends : ending token with
    | error fault =>
      have lost : Token.left now token = .error fault := by simp [Token.left, ends]
      have spent : left = 0 := by grind
      simp [Lasts, ends, spent, least]
    | ok last =>
      obtain rfl : max 0 (last - now) = left := by simpa [Token.left, ends] using counted
      simp [Lasts, ends]
      omega
  | _ =>
    cases counted
    simp [least]

/-- Counting what is left of a token never fails for want of authentication. -/
theorem leftOf_fault {fault : Fault} (failed : leftOf now doc = .error fault) : fault.kind ≠ .authentication := by
  unfold leftOf at failed
  grind

theorem eq_some_of_elim {found : Option String} (held : found.elim .null .text = Json.text token) :
    found = some token := by
  cases found <;> simp_all

/-- The reply has an access token that is good now. -/
def Grants (resp : Http.Response) (token : String) (now : Int) : Prop :=
  resp.status = 200 ∧ ∃ fields, resp.json = .ok (.object fields) ∧
    fields.lookup "access_token" = some (.text token) ∧ Lasts token now 0

/-- A desk at the next look at its host. -/
def Desk.looked (desk : Desk) : Desk := { desk with host := desk.host.looked }

namespace Management

variable {α β : Type} {desk last : Desk} {account : Account} {call : Http.Call} {found : Option String}

theorem runFrom_left (doc : Json) (desk : Desk) :
    (left doc).runFrom desk = (leftOf desk.looked.host.now doc, desk.looked) := rfl

theorem good_returns (returned : (good? doc).Returns desk found last) :
    found = some token ↔ doc = .text token ∧ Lasts token last.host.now 0 := by
  obtain ⟨left, _, measured, returned⟩ := returns_bind_iff.mp returned
  obtain ⟨rfl, rfl⟩ := returns_pure_iff.mp returned
  obtain ⟨counted, rfl⟩ := Prod.mk.inj measured
  have long := lt_left_iff counted (Int.le_refl 0)
  by_cases positive : 0 < left
  · obtain ⟨given, rfl, lasts⟩ := long.mp positive
    rw [if_pos positive]
    constructor
    · rintro ⟨⟩
      exact ⟨rfl, lasts⟩
    · rintro ⟨⟨⟩, -⟩
      rfl
  · rw [if_neg positive]
    exact ⟨nofun, fun good => absurd (long.mpr ⟨token, good⟩) positive⟩

theorem access_returns (returned : (access? doc).Returns desk found last) : found = some token ↔
    ∃ fields, doc = .object fields ∧ fields.lookup "access_token" = some (.text token) ∧ Lasts token last.host.now 0 := by
  obtain ⟨access, _, read, returned⟩ := returns_bind_iff.mp returned
  obtain ⟨listed, rfl⟩ := returns_lift_iff.mp read
  rw [good_returns returned]
  cases doc with
  | object fields =>
    cases listed
    cases e : fields.lookup "access_token" <;> simp [e]
  | _ => cases listed

/-- What a server gives is the good token of its reply. -/
theorem fetch_returns (returned : (fetch account call).Returns desk found last) :
    ∃ resp, (desk.host.line.send call).1 = .ok resp ∧ ∀ token, found = some token ↔ Grants resp token last.host.now := by
  obtain ⟨resp, _, sent, returned⟩ := returns_bind_iff.mp returned
  refine ⟨resp, congrArg Prod.fst sent, fun token => ?_⟩
  unfold Grants
  unfold granted at returned
  split at returned
  · rename_i unanswered
    obtain ⟨rfl, -⟩ := returns_pure_iff.mp returned
    simp [unanswered]
  · rename_i answered
    obtain ⟨doc, _, read, returned⟩ := returns_bind_iff.mp returned
    obtain ⟨_, _, _, returned⟩ := returns_bind_iff.mp returned
    rw [access_returns returned]
    simp [(returns_lift_iff.mp read).1, not_not.mp answered]

theorem orRefused_returns {reason : String} (returned : (orRefused reason found).Returns desk token last) :
    found = some token ∧ desk = last := by
  cases found with
  | none => cases returned
  | some _ =>
    obtain ⟨rfl, rfl⟩ := returns_pure_iff.mp returned
    exact ⟨rfl, rfl⟩

/-- A provider that does not just hold its token gives one that is good at the last look. -/
theorem lasts_of_returns {provider : Provider} (returned : (fromProvider provider).Returns desk token last) :
    (∃ held, provider = .external held) ∨ Lasts token last.host.now 0 := by
  have fetched {account desk call} (returned : (fetch account call).Returns desk (some token) last) :
      Lasts token last.host.now 0 := by
    obtain ⟨_, -, granted⟩ := fetch_returns returned
    obtain ⟨-, _, -, -, lasts⟩ := (granted token).mp rfl
    exact lasts
  cases provider with
  | external held => exact .inl ⟨held, rfl⟩
  | file path =>
    obtain ⟨_, _, -, returned⟩ := returns_bind_iff.mp returned
    obtain ⟨_, _, -, returned⟩ := returns_bind_iff.mp returned
    split at returned
    · cases returned
    · obtain ⟨_, _, first, returned⟩ := returns_bind_iff.mp returned
      obtain ⟨rfl, rfl⟩ := orRefused_returns returned
      obtain ⟨_, -, -, lasts⟩ := (access_returns first).mp rfl
      exact .inr lasts
  | server account renewal =>
    rw [fromProvider] at returned
    obtain ⟨_, _, first, returned⟩ := returns_bind_iff.mp returned
    obtain ⟨rfl, rfl⟩ := orRefused_returns returned
    obtain ⟨_, _, renewed, returned⟩ := returns_bind_iff.mp first
    split at returned
    · obtain ⟨rfl, rfl⟩ := returns_pure_iff.mp returned
      obtain ⟨_, _, -, renewed⟩ := returns_bind_iff.mp renewed
      split at renewed
      · exact .inr (fetched renewed)
      · exact nomatch (returns_pure_iff.mp renewed).1
    · exact .inr (fetched returned)

/-- Work that sends nothing. -/
def Silent (work : Management α) : Prop := ∀ desk, (work.runFrom desk).2.host.line = desk.host.line

theorem Silent.bind {work : Management α} {next : α → Management β} (first : Silent work)
    (second : ∀ value, Silent (next value)) : Silent (work >>= next) := by
  intro desk
  have before := first desk
  rw [runFrom_bind]
  rcases run : work.runFrom desk with ⟨_ | value, middle⟩ <;> rw [run] at before
  · exact before
  · exact (second value middle).trans before

theorem silent_lift (outcome : Outcome α) : Silent (liftM outcome) := fun _ => rfl

theorem silent_left (doc : Json) : Silent (left doc) := by
  intro desk
  rw [runFrom_left]
  unfold Desk.looked Host.looked
  split <;> rfl

theorem silent_good (doc : Json) : Silent (good? doc) := .bind (silent_left doc) fun _ => silent_lift (.ok _)

variable (account : Account)

theorem silent_granted (resp : Http.Response) : Silent (granted account resp) := by
  have kept (tokens : Json) : Silent (keepRenewal account tokens) :=
    .bind (silent_lift _) fun _ => .bind (fun _ => rfl) fun _ => .bind (silent_good _) fun _ _ => rfl
  unfold granted
  split
  · exact silent_lift (.ok none)
  · exact .bind (silent_lift _) fun tokens => .bind (kept tokens) fun _ => .bind (silent_lift _) fun _ => silent_good _

/-- Whatever the reply, one call is made. -/
theorem fetch_acts (call : Http.Call) (desk : Desk) :
    ((fetch account call).runFrom desk).2.host.line.acts = desk.host.line.acts ++ [.call call] := by
  have noted : (desk.host.line.send call).2.acts = desk.host.line.acts ++ [.call call] := by
    unfold Http.Exchange.send
    split <;> rfl
  have sent : (onHost (Host.send call)).runFrom desk = ((desk.host.line.send call).1,
      { desk with host := { desk.host with line := (desk.host.line.send call).2 } }) := rfl
  unfold fetch
  rw [runFrom_bind, sent, ← noted]
  cases (desk.host.line.send call).1 with
  | error fault => rfl
  | ok resp => exact congrArg _ (silent_granted account resp _)

/-- What is sent for a token: a renewal only if the old one lasts, a login only if there was none or it gave nothing. -/
inductive Errand (account : Account) (renewal : Option String) (desk : Desk) : List Http.Act → Prop
  | idle : Errand account renewal desk []
  | login (spent : ∀ token, renewal = some token → ¬ Lasts token desk.looked.host.now margin) :
      Errand account renewal desk [.call account.logIn]
  | renewal {token : String} (held : renewal = some token) (lasts : Lasts token desk.looked.host.now margin) :
      Errand account renewal desk [.call (account.renewal token)]
  | both {token : String} {last : Desk} (held : renewal = some token) (lasts : Lasts token desk.looked.host.now margin)
      (vain : (fetch account (account.renewal token)).Returns desk.looked none last) :
      Errand account renewal desk [.call (account.renewal token), .call account.logIn]

theorem errand_of_issued (renewal : Option String) (desk : Desk) : ∃ sent, Errand account renewal desk sent ∧
      ((issued account renewal).runFrom desk).2.host.line.acts = desk.host.line.acts ++ sent := by
  have same : desk.looked.host.line = desk.host.line := silent_left .null desk
  rw [← same]
  unfold issued renewed
  rw [runFrom_bind, runFrom_bind, runFrom_left]
  cases counted : leftOf desk.looked.host.now (renewal.elim .null .text) with
  | error fault => exact ⟨[], .idle, (List.append_nil _).symm⟩
  | ok left =>
    have long := lt_left_iff counted (by decide : 0 ≤ margin)
    by_cases good : margin < left
    · obtain ⟨token, held, lasts⟩ := long.mp good
      obtain rfl := eq_some_of_elim held
      have sent := fetch_acts account (account.renewal token) desk.looked
      simp only [good, if_true, Option.getD_some]
      rcases first : (fetch account (account.renewal token)).runFrom desk.looked with ⟨_ | _ | _, middle⟩ <;>
        rw [first] at sent
      · exact ⟨_, .renewal rfl lasts, sent⟩
      · have login := fetch_acts account account.logIn middle
        rw [sent, List.append_assoc] at login
        exact ⟨_, .both rfl lasts first, login⟩
      · exact ⟨_, .renewal rfl lasts, sent⟩
    · simp only [good, if_false]
      refine ⟨_, .login fun token held lasts => good (long.mpr ⟨token, ?_, lasts⟩), fetch_acts account account.logIn _⟩
      rw [held, Option.elim_some]

/-- The provider is asked time after time, each time after a look at the kept token. -/
inductive Asked : Desk → List (Outcome String) → Desk → Prop
  | never (desk : Desk) : Asked desk [] desk
  | again {desk next last : Desk} {provider : Provider} {answer : Outcome String} {answers : List (Outcome String)}
      (manages : desk.manager.provider = some provider)
      (asks : (fromProvider provider).runFrom desk.looked = (answer, next)) (rest : Asked next answers last) :
      Asked desk (answer :: answers) last

/-- A call in which the provider gives these answers: it is asked once more than there are retries at most, the call
is refused for want of authentication only if it was so each time, and a header has the kept token or one of the
answers. -/
structure Served (retries : Nat) (desk : Desk) (run : Outcome (Option String) × Desk) (answers : List (Outcome String))
    (asked : Desk) : Prop where
  asks : Asked desk answers asked
  few : answers.length ≤ retries + 1
  ends : run.2.host = asked.host ∨ run.2.host = asked.host.looked
  refused : ∀ fault, run.1 = .error fault → fault.kind = .authentication → answers.length = retries + 1 ∧
    ∀ answer ∈ answers, ∃ refusal, answer = .error refusal ∧ refusal.kind = .authentication
  fresh : ∀ header, run.1 = .ok (some header) → ∃ token, header = "Bearer " ++ token ∧
    (asked.manager.access = some token ∧ Lasts token asked.looked.host.now margin ∨ .ok token ∈ answers)

section

variable {retries : Nat}

theorem served_of_refused {provider : Provider} {fault : Fault} (manages : desk.manager.provider = some provider)
    (asks : (fromProvider provider).runFrom desk.looked = (.error fault, last))
    (final : fault.kind = .authentication → retries = 0) :
    Served retries desk (.error fault, last) [.error fault] last where
  asks := .again manages asks (.never _)
  few := by simp
  ends := .inl rfl
  refused _ same unknown := by
    cases same
    simp [final unknown, unknown]
  fresh := nofun

theorem served_bearerOr {again : Fault → Management (Option String)}
    (later : ∀ provider fault next, desk.manager.provider = some provider →
      (fromProvider provider).runFrom desk.looked = (.error fault, next) →
        ∃ answers asked, Served retries desk ((again fault).runFrom next) answers asked) :
    ∃ answers asked, Served retries desk ((bearerOr again).runFrom desk) answers asked := by
  have read : runFrom get desk = (.ok desk, desk) := rfl
  have kept : keptLeft.runFrom desk =
    (leftOf desk.looked.host.now (desk.manager.access.elim .null .text), desk.looked) := rfl
  have tried (provider : Provider) : (attempt (fromProvider provider)).runFrom desk.looked =
    (.ok ((fromProvider provider).runFrom desk.looked).1, ((fromProvider provider).runFrom desk.looked).2) := rfl
  unfold bearerOr
  rw [runFrom_bind, read]
  cases manages : desk.manager.provider with
  | none =>
    simp only [manages]
    exact ⟨[], desk, .never _, Nat.zero_le _, .inl rfl, nofun, nofun⟩
  | some provider =>
    simp only [manages, runFrom_bind, kept]
    cases counted : leftOf desk.looked.host.now (desk.manager.access.elim .null .text) with
    | error fault =>
      refine ⟨[], desk, .never _, Nat.zero_le _, .inr rfl, fun _ same unknown => ?_, nofun⟩
      cases same
      exact absurd unknown (leftOf_fault counted)
    | ok left =>
      by_cases good : margin < left
      · obtain ⟨token, held, lasts⟩ := (lt_left_iff counted (by decide)).mp good
        have present := eq_some_of_elim held
        simp only [good, if_true]
        refine ⟨[], desk, .never _, Nat.zero_le _, .inr rfl, nofun, fun _ same => ⟨token, ?_, .inl ⟨present, lasts⟩⟩⟩
        cases same.symm.trans (congrArg (Except.ok ∘ Option.map ("Bearer " ++ ·)) present)
        rfl
      · simp only [good, if_false, runFrom_bind, tried]
        rcases asks : (fromProvider provider).runFrom desk.looked with ⟨fault | token, next⟩
        · exact later provider fault next manages asks
        · refine ⟨[.ok token], next, .again manages asks (.never _), by simp, .inl rfl, nofun,
            fun _ same => ⟨token, ?_, ?_⟩⟩
          · cases same
            rfl
          · exact .inr (.head _)

theorem served_bearer (desk : Desk) :
    ∃ answers asked, Served retries desk ((bearer retries).runFrom desk) answers asked := by
  induction retries generalizing desk with
  | zero => exact served_bearerOr fun _ _ _ manages asks => ⟨_, _, served_of_refused manages asks fun _ => rfl⟩
  | succ retries ih =>
    refine served_bearerOr fun provider fault next manages asks => ?_
    split
    · rename_i unknown
      obtain ⟨answers, asked, served⟩ := ih next
      refine ⟨.error fault :: answers, asked, .again manages asks served.asks, Nat.succ_le_succ served.few, served.ends,
        fun _ same kind => ?_, fun _ same => ?_⟩
      · obtain ⟨count, all⟩ := served.refused _ same kind
        exact ⟨congrArg Nat.succ count, List.forall_mem_cons.mpr ⟨⟨fault, rfl, unknown⟩, all⟩⟩
      · obtain ⟨token, shown, source⟩ := served.fresh _ same
        exact ⟨token, shown, source.imp_right (.tail _)⟩
    · exact ⟨_, _, served_of_refused manages asks fun unknown => absurd unknown ‹_›⟩

end

/-- A header has the kept token, if this has more than the margin left, or one that the provider gave in this call. A
file or a server gives only tokens that are good when they come, and no more is sent or asked than is needed. -/
theorem bearer_fresh (retries : Nat) (desk : Desk) :
    (∃ answers asked, Served retries desk ((bearer retries).runFrom desk) answers asked) ∧
    (∀ provider desk token last, (fromProvider provider).Returns desk token last →
      (∃ held, provider = .external held) ∨ ∀ now ≤ last.host.now, Lasts token now 0) ∧
    (∀ account renewal desk, ∃ sent, Errand account renewal desk sent ∧
      ((fromProvider (.server account renewal)).runFrom desk).2.host.line.acts = desk.host.line.acts ++ sent) ∧
    (∀ account call desk found last, (fetch account call).Returns desk found last →
      ∃ resp, (desk.host.line.send call).1 = .ok resp ∧ ∀ token, found = some token ↔ Grants resp token last.host.now) := by
  refine ⟨served_bearer desk, fun _ _ _ _ returned => ?_, fun account renewal desk => ?_,
    fun _ _ _ _ _ => fetch_returns⟩
  · exact (lasts_of_returns returned).imp_right fun lasts _ before => lasts.earlier before
  · have same : ((fromProvider (.server account renewal)).runFrom desk).2 = ((issued account renewal).runFrom desk).2 := by
      unfold fromProvider
      rw [runFrom_bind]
      rcases (issued account renewal).runFrom desk with ⟨_ | _ | _, _⟩ <;> rfl
    exact same ▸ errand_of_issued account renewal desk

end Management

end Transmon.Token
