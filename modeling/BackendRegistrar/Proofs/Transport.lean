import BackendRegistrar.Cloud.Client
import BackendRegistrar.Proofs.Redirect

/-! Requests over the network. Each question to the service is asked by a signed request, which the
question and the second of signing determine. Unless its reply makes the client go on elsewhere, no
other request follows, and the reply alone determines the answer. -/

namespace BackendRegistrar.Cloud
open Program
open Http (Sending sendings)

namespace Request

def method : Request → String
  | getSet _ _ | workRequest _ => "GET"
  | updateSet _ _ _ => "PUT"

def body : Request → Option (List UInt8)
  | getSet _ _ | workRequest _ => none
  | updateSet _ _ update => some (Text.octets update.encode.text)

end Request

namespace Client

variable {c : Client} {r : Request} {url : Url} {trace : Trace Http.network}

def address (c : Client) : Request → String
  | .getSet id name | .updateSet id name _ => c.setUrl id name
  | .workRequest id => c.workRequestUrl id

/-- What a reply tells, if it is a response of success. -/
def judge (read : Http.Response → Except CloudError α) : Except String Http.Response → Except CloudError α
  | .error detail => .error (.http detail)
  | .ok response => if response.succeeded then read response else .error (refusal response)

def shownSet (c : Client) (reply : Except String Http.Response) : Except CloudError BackendSet :=
  judge (document (BackendSet.decode c.kind)) reply

/-- An accepted update may name its work. -/
def acceptedWork (reply : Except String Http.Response) : Except CloudError (Option String) :=
  judge (fun response => .ok (response.header? "opc-work-request-id")) reply

def shownStatus (reply : Except String Http.Response) : Except CloudError OperationStatus :=
  judge (document OperationStatus.ofWorkRequest.decode) reply

/-- The answer to a question, by the reply to its request. -/
def answer (c : Client) : (r : Request) → Except String Http.Response → Except CloudError r.Value
  | .getSet _ _, reply => c.shownSet reply
  | .updateSet _ _ _, reply => acceptedWork reply
  | .workRequest _, reply => shownStatus reply

theorem judge_succeeds {read : Http.Response → Except CloudError α} {s : Sending} {value : α}
    (told : judge read s.reply = .ok value) : s.Succeeds := by
  obtain ⟨request, detail | response⟩ := s
  · cases told
  · by_cases succeeded : response.succeeded = true
    · exact ⟨response, rfl, succeeded⟩
    · rw [judge, if_neg succeeded] at told
      cases told

theorem answer_of_not_succeeds {s : Sending} (failed : ¬ s.Succeeds) : (c.answer r s.reply).toOption = none := by
  cases told : c.answer r s.reply with
  | error e => rfl
  | ok value =>
    refine absurd ?_ failed
    cases r with
    | getSet _ _ | updateSet _ _ _ | workRequest _ => exact judge_succeeds told

/-- A request that is signed at a second. -/
def sealed (c : Client) (method : String) (url : Url) (body : Option (List UInt8)) (second : Int) :
    Except CloudError Http.Request :=
  match Http.date? second with
  | none => .error (.signing "no date for this time")
  | some date => (c.signer.sign method url body date).map fun headers => ⟨method, url, headers, body⟩

private theorem send_run {method address : String} {body : Option (List UInt8)}
    (parsed : Url.parse address = .ok url) :
    (c.send method address body).run =
      .ask (I := Http.network) .now fun second =>
        match c.sealed method url body second with
        | .error e => .done (.error e)
        | .ok request =>
          (c.redirects.fetch Http.Redirects.longestChain request).bind fun reply => .done (judge .ok reply) := by
  unfold send
  rw [parsed]
  change Program.ask _ _ = _
  congr 1
  funext second
  dsimp only [done_bind, Function.comp, ExceptT.bindCont]
  unfold sealed
  cases Http.date? second with
  | none => rfl
  | some date =>
    dsimp only
    rw [LawfulMonad.pure_bind]
    cases c.signer.sign method url body date with
    | error e => rfl
    | ok headers =>
      change Program.bind (Program.bind _ _) _ = _
      rw [bind_assoc]
      dsimp only [Except.map]
      congr 1
      funext reply
      cases reply with
      | error detail => rfl
      | ok response =>
        dsimp only [done_bind, Function.comp, ExceptT.bindCont, judge]
        split <;> rfl

private theorem send_read_run {method address : String} {body : Option (List UInt8)}
    (parsed : Url.parse address = .ok url) (read : Http.Response → Except CloudError α) :
    (c.send method address body >>= fun response => ExceptT.mk (pure (read response))).run =
      .ask (I := Http.network) .now fun second =>
        match c.sealed method url body second with
        | .error e => .done (.error e)
        | .ok request =>
          (c.redirects.fetch Http.Redirects.longestChain request).bind fun reply => .done (judge read reply) := by
  rw [run_attempt_bind, send_run parsed, ask_bind]
  congr 1
  funext second
  cases c.sealed method url body second with
  | error e => rfl
  | ok request =>
    dsimp only
    rw [bind_assoc]
    congr 1
    funext reply
    cases reply with
    | error detail => rfl
    | ok response =>
      dsimp only [done_bind, judge]
      cases response.succeeded <;> rfl

/-- A question asks for the time and then for a reply, unless nothing can be signed at that time. -/
theorem perform_run (parsed : Url.parse (c.address r) = .ok url) :
    (c.perform r).run =
      .ask (I := Http.network) .now fun second =>
        match c.sealed r.method url r.body second with
        | .error e => .done (.error e)
        | .ok request =>
          (c.redirects.fetch Http.Redirects.longestChain request).bind fun reply => .done (c.answer r reply) := by
  cases r with
  | getSet id name => exact send_read_run parsed (document (BackendSet.decode c.kind))
  | updateSet id name update => exact send_read_run parsed fun response => .ok (response.header? "opc-work-request-id")
  | workRequest id => exact send_read_run parsed (document OperationStatus.ofWorkRequest.decode)

private theorem send_run_unparsed {method address : String} {body : Option (List UInt8)} {e : Url.ParseError}
    (unparsed : Url.parse address = .error e) :
    (c.send method address body).run = .done (.error (.request ("invalid URL " ++ address ++ ": " ++ e.message))) := by
  unfold send
  rw [unparsed]
  rfl

theorem perform_run_unparsed {e : Url.ParseError} (unparsed : Url.parse (c.address r) = .error e) :
    (c.perform r).run = .done (.error (.request ("invalid URL " ++ c.address r ++ ": " ++ e.message))) := by
  cases r with
  | getSet id name | updateSet id name update | workRequest id =>
    unfold address at unparsed
    unfold perform
    rw [run_attempt_bind, send_run_unparsed unparsed]
    rfl

/-- How a question is asked: not at all at an address that does not parse, not over the network if nothing
can be signed, and otherwise by one chain of requests. -/
inductive Performed (c : Client) (r : Request) : Trace Http.network → Except CloudError r.Value → Prop
  | unparsed {e : Url.ParseError} (fails : Url.parse (c.address r) = .error e) :
      Performed c r [] (.error (.request ("invalid URL " ++ c.address r ++ ": " ++ e.message)))
  | unsigned {url : Url} {second : Int} {e : CloudError} (parsed : Url.parse (c.address r) = .ok url)
      (fails : c.sealed r.method url r.body second = .error e) : Performed c r [⟨.now, second⟩] (.error e)
  | sent {url : Url} {second : Int} {request : Http.Request} {ss : List Sending} {reply : Except String Http.Response}
      (parsed : Url.parse (c.address r) = .ok url) (made : c.sealed r.method url r.body second = .ok request)
      (chain : c.redirects.Chain Http.Redirects.longestChain request ss reply) :
      Performed c r (⟨.now, second⟩ :: ss.map Sending.exchange) (c.answer r reply)

theorem perform_completes {result : Except CloudError r.Value} :
    (c.perform r).run.Completes trace result ↔ c.Performed r trace result := by
  constructor
  · intro completes
    cases parsed : Url.parse (c.address r) with
    | error e =>
      rw [perform_run_unparsed parsed] at completes
      obtain ⟨rfl, rfl⟩ := completes_done.mp completes
      exact .unparsed parsed
    | ok url =>
      rw [perform_run parsed] at completes
      obtain ⟨second, later, rfl, rest⟩ := completes_ask.mp completes
      cases made : c.sealed r.method url r.body second with
      | error e =>
        rw [made] at rest
        obtain ⟨rfl, rfl⟩ := completes_done.mp rest
        exact .unsigned parsed made
      | ok request =>
        rw [made] at rest
        obtain ⟨first, last, reply, rfl, fetched, ending⟩ := completes_bind.mp rest
        obtain ⟨rfl, rfl⟩ := completes_done.mp ending
        obtain ⟨ss, rfl, chain⟩ := Http.Redirects.Chain.of_completes fetched
        rw [List.append_nil]
        exact .sent parsed made chain
  · intro performed
    cases performed with
    | unparsed fails =>
      rw [perform_run_unparsed fails]
      exact .start _
    | @unsigned url second e parsed fails =>
      rw [perform_run parsed]
      refine completes_ask.mpr ⟨second, [], rfl, ?_⟩
      rw [fails]
      exact .start _
    | @sent url second request ss reply parsed made chain =>
      rw [perform_run parsed]
      refine completes_ask.mpr ⟨second, _, rfl, ?_⟩
      rw [made]
      exact completes_bind.mpr ⟨_, [], reply, (List.append_nil _).symm, chain.completes, .start _⟩

/-- The request is the signed one for the question. -/
structure Sends (c : Client) (r : Request) (request : Http.Request) : Prop where
  method : request.method = r.method
  url : Url.parse (c.address r) = .ok request.url
  body : request.body = r.body
  signed : ∃ date, c.signer.sign request.method request.url request.body date = .ok request.headers

/-- A request for the question can be built, and signed whenever the trace tells the time. -/
def Builds (c : Client) (r : Request) (trace : Trace Http.network) : Prop :=
  ∃ url, Url.parse (c.address r) = .ok url ∧
    ∀ second : Int, (⟨.now, second⟩ : BackendRegistrar.Exchange Http.network) ∈ trace →
      ∃ request, c.sealed r.method url r.body second = .ok request

theorem Builds.mono {more : Trace Http.network} (builds : c.Builds r more) (within : trace ⊆ more) :
    c.Builds r trace := by
  obtain ⟨url, parsed, signed⟩ := builds
  exact ⟨url, parsed, fun second member => signed second (within member)⟩

theorem Sends.of_sealed {second : Int} {request : Http.Request} (parsed : Url.parse (c.address r) = .ok url)
    (made : c.sealed r.method url r.body second = .ok request) : c.Sends r request := by
  unfold sealed at made
  split at made
  · cases made
  next date _ =>
    cases signs : c.signer.sign r.method url r.body date with
    | error e => simp [signs, Except.map] at made
    | ok headers =>
      rw [signs] at made
      cases made
      exact ⟨rfl, parsed, rfl, date, signs⟩

/-- If the client goes on from no reply, a question is asked by one request, and its reply tells the answer, though
perhaps another error. -/
theorem Builds.completes {result : Except CloudError r.Value} (builds : c.Builds r trace)
    (completes : (c.perform r).run.Completes trace result)
    (stays : ∀ s ∈ sendings trace, ¬ c.redirects.Follows s) :
    ∃ (second : Int) (s : Sending), trace = [⟨.now, second⟩, s.exchange] ∧ c.Sends r s.request ∧
      result.toOption = (c.answer r s.reply).toOption := by
  obtain ⟨url, parsed, signed⟩ := builds
  cases perform_completes.mp completes with
  | unparsed fails => cases parsed.symm.trans fails
  | @unsigned other second e same fails =>
    cases parsed.symm.trans same
    obtain ⟨request, made⟩ := signed second List.mem_cons_self
    cases fails.symm.trans made
  | @sent other second request ss reply same made chain =>
    have sends := Sends.of_sealed same made
    have alone : ∀ s ∈ ss, ¬ c.redirects.Follows s := by
      rw [← Http.sendings_exchanges ss]
      exact stays
    cases chain with
    | broken detail => exact ⟨second, ⟨request, .error detail⟩, rfl, sends, rfl⟩
    | @taken _ _ response turn => exact ⟨second, ⟨request, .ok response⟩, rfl, sends, rfl⟩
    | @refused _ _ response detail turn =>
      refine ⟨second, ⟨request, .ok response⟩, rfl, sends, ?_⟩
      have elsewhere : c.redirects.turn request response ≠ .taken := by simp [turn]
      rw [answer_of_not_succeeds (Http.Redirects.not_succeeds_of_turn elsewhere)]
      cases r <;> rfl
    | @onward _ _ next response _ _ turn rest =>
      exact absurd ⟨response, next, rfl, turn⟩ (alone _ List.mem_cons_self)

end Client

end BackendRegistrar.Cloud
