import PocketDart.Proofs.Server.Faults
import PocketDart.Proofs.Server.Nesting
import PocketDart.Proofs.Server.Tokens

/-
  This file proves that credentials are exchanged for a
  token as a whole or not at all. They are sent once, and
  once more to a server that does not know the place. A
  token comes from the last reply and is then sent along
  with all requests, until there is another one; without one
  the token stays what it was.

  Key definitions include:
    * `Session.isReferred`
    * `Session.verdict?`
    * `Reply.GivesToken`
    * `Client.Operation`
    * `Client.Runs`
    * `Session.SendsAlong`

  Key theorems include:
    * `Client.authenticate_as_exchange`
    * `Client.exchange_cases`
    * `Client.authenticate_eq_ok_iff`
    * `Client.endsProperly_authenticate_iff`
    * `Client.Runs.continues`
    * `authentication_is_atomic`
-/

------------------------------------------------------------
-- Credentials
------------------------------------------------------------

namespace PocketDart

def Client.credentialsRequest
    (client : Client)
    (email password token : Value)
    (path : String) : Request :=
  ⟨client.domain ++ path, token, client.timeout,
    .credentials email password⟩

/- A session in which the first place is not known. -/
def Session.isReferred (session : Session) : Bool :=
  match session.replies with
  | .response response :: _ => response.status = 404
  | _ => false

/-
  The requests with which credentials are sent: one, and
  another one to the older place when it is referred there.
-/
def Client.credentialsRequests
    (client : Client)
    (email password : Value)
    (session : Session) : List Request :=
  let request :=
    client.credentialsRequest email password session.token
  if session.isReferred then
    [request authenticationPath,
      request olderAuthenticationPath]
  else [request authenticationPath]

/- The reply that decides about credentials, the last one. -/
def Session.verdict? (session : Session) : Option Reply :=
  if session.isReferred then session.replies[1]?
  else session.replies[0]?

/- A response with a token. -/
def Reply.GivesToken
    (reply : Reply)
    (token : Value) : Prop :=
  ∃ document, reply.Tells document ∧
    Client.tokenOf? document = some token

namespace Client

variable {client : Client}
variable {email : Value}
variable {request : Request}
variable {session after : Session}
variable {reply : Reply}
variable {token : Value}

------------------------------------------------------------
-- One Exchange
------------------------------------------------------------

def keepToken
    (client : Client)
    (email document : Value) : Talk Value :=
  match tokenOf? document with
  | none => Talk.fail .noToken
  | some token => do
      modify fun session => { session with token }
      Talk.log .info
        ("Authenticated with " ++ client.domain ++ " as " ++
          email.display)
      return token

/- Ask for a document and keep the token in it. -/
def exchange
    (client : Client)
    (email : Value)
    (request : Request) : Talk Value :=
  Talk.ask request >>= client.keepToken email

theorem truthy_of_tokenOf?
    {document : Value}
    (hToken : tokenOf? document = some token) :
    token.truthy :=
  (Option.filter_eq_some_iff.mp hToken).2

theorem run_exchange_of_givesToken
    (client : Client)
    (email : Value)
    (request : Request)
    (hHead : session.replies.head? = some reply)
    (hGives : reply.GivesToken token) :
    ∃ after,
      (client.exchange email request).run session =
        .ok token after := by
  rcases List.head?_eq_some_iff.mp hHead with
    ⟨later, hReplies⟩
  rcases hGives with ⟨document, hTells, hToken⟩
  rw [exchange,
    Stateful.run_bind_of_ok (run_ask request hTells hReplies),
    keepToken, hToken]
  exact ⟨_, rfl⟩

theorem run_exchange_of_escapes
    {cause : TalkError}
    (client : Client)
    (email : Value)
    (request : Request)
    (hHead : session.replies.head? = some reply)
    (hEscapes : reply.Escapes cause)
    (hOther : ∀ misuse, cause ≠ .misuse misuse) :
    ∃ after,
      (client.exchange email request).run session =
        .error cause after := by
  rcases List.head?_eq_some_iff.mp hHead with
    ⟨later, hReplies⟩
  exact ⟨_, Stateful.run_bind_of_error
    (run_ask_of_escapes request hEscapes hOther hReplies)⟩

/-
  What the next reply comes to: a token, an error that
  escapes, or an error of the server.
-/
theorem exchange_cases
    (client : Client)
    (email : Value)
    (request : Request)
    (session : Session) :
    (∃ reply token,
      session.replies.head? = some reply ∧
        reply.GivesToken token) ∨
      (∃ reply cause,
        session.replies.head? = some reply ∧
          reply.Escapes cause ∧
          ∀ misuse, cause ≠ .misuse misuse) ∨
      ∃ error after,
        (client.exchange email request).run session =
          .error (.server error) after := by
  cases hReplies : session.replies with
  | nil =>
      rcases run_ask_of_nil request hReplies with
        ⟨error, after, hAsk⟩
      exact Or.inr (Or.inr
        ⟨error, after, Stateful.run_bind_of_error hAsk⟩)
  | cons reply later =>
      rcases ask_cases request hReplies with
        ⟨document, hTells⟩ | ⟨cause, hEscapes⟩ |
          ⟨error, after, hAsk⟩
      · cases hToken : tokenOf? document with
        | some token =>
            exact Or.inl
              ⟨reply, token, rfl, document, hTells, hToken⟩
        | none =>
            refine Or.inr (Or.inr ⟨.noToken, ?_⟩)
            rw [exchange, Stateful.run_bind_of_ok
                (run_ask request hTells hReplies),
              keepToken, hToken]
            exact run_fail _ _
      · exact Or.inr (Or.inl ⟨reply, cause, rfl, hEscapes⟩)
      · exact Or.inr (Or.inr
          ⟨error, after, Stateful.run_bind_of_error hAsk⟩)

/-
  A document sends nothing. With a token in it the token is
  that one, and without it is what it was.
-/
theorem final_keepToken
    (client : Client)
    (email document : Value)
    (session : Session) :
    ((client.keepToken email document).final
        session).requests = session.requests ∧
      (∀ token after,
        (client.keepToken email document).run session =
            .ok token after →
          token.truthy ∧ after.token = token) ∧
      ∀ cause after,
        (client.keepToken email document).run session =
            .error cause after →
          after.token = session.token := by
  unfold keepToken
  cases hToken : tokenOf? document with
  | none =>
      refine ⟨rfl, ?_, ?_⟩
      · rintro token after ⟨⟩
      · rintro cause after ⟨⟩
        rfl
  | some kept =>
      refine ⟨rfl, ?_, ?_⟩
      · rintro token after ⟨⟩
        exact ⟨truthy_of_tokenOf? hToken, rfl⟩
      · rintro cause after ⟨⟩

/-
  The request is the only one. With a result the token is
  that one, and with an error it is what it was.
-/
theorem final_exchange
    (client : Client)
    (email : Value)
    (request : Request)
    (session : Session) :
    ((client.exchange email request).final
        session).requests = session.requests ++ [request] ∧
      (∀ token after,
        (client.exchange email request).run session =
            .ok token after →
          token.truthy ∧ after.token = token) ∧
      ∀ cause after,
        (client.exchange email request).run session =
            .error cause after →
          after.token = session.token := by
  have hAsks := Talk.asks_ask request session
  cases hAsk : (Talk.ask request).run session with
  | error cause next =>
      have hRun : (client.exchange email request).run
          session = .error cause next :=
        Stateful.run_bind_of_error hAsk
      rw [Talk.final_of_error hAsk] at hAsks
      rw [Talk.final_of_error hRun, hRun]
      refine ⟨hAsks.requests, ?_, ?_⟩
      · rintro token after ⟨⟩
      · rintro other after ⟨⟩
        exact hAsks.token
  | ok document next =>
      have hRun : (client.exchange email request).run
          session =
            (client.keepToken email document).run next :=
        Stateful.run_bind_of_ok hAsk
      rw [Talk.final_of_ok hAsk] at hAsks
      rw [Talk.final, hRun, ← hAsks.requests, ← hAsks.token]
      exact client.final_keepToken email document next

theorem exchange_eq_ok_iff
    (client : Client)
    (email : Value)
    (request : Request)
    (session : Session)
    (token : Value) :
    (∃ after,
      (client.exchange email request).run session =
        .ok token after) ↔
      ∃ reply, session.replies.head? = some reply ∧
        reply.GivesToken token := by
  constructor
  · rintro ⟨after, hRun⟩
    rcases exchange_cases client email request session with
      ⟨reply, other, hHead, hGives⟩ |
        ⟨reply, cause, hHead, hEscapes, hOther⟩ |
        ⟨error, next, hServer⟩
    · rcases run_exchange_of_givesToken client email request
          hHead hGives with ⟨next, hOk⟩
      rw [hRun] at hOk
      cases hOk
      exact ⟨reply, hHead, hGives⟩
    · rcases run_exchange_of_escapes client email request
          hHead hEscapes hOther with ⟨next, hError⟩
      rw [hRun] at hError
      cases hError
    · rw [hRun] at hServer
      cases hServer
  · rintro ⟨reply, hHead, hGives⟩
    exact run_exchange_of_givesToken client email request
      hHead hGives

theorem endsProperly_exchange_iff
    (client : Client)
    (email : Value)
    (request : Request)
    (session : Session) :
    (client.exchange email request).EndsProperly session ↔
      ∀ reply cause,
        session.replies.head? = some reply →
          reply.Escapes cause →
          ∃ misuse, cause = .misuse misuse := by
  constructor
  · intro hEnds reply cause hHead hEscapes
    by_contra hOther
    rcases run_exchange_of_escapes client email request
        hHead hEscapes (not_exists.mp hOther) with
      ⟨after, hError⟩
    rcases (Talk.endsProperly_iff_of_error hError).mp
        hEnds with ⟨error, hServer⟩
    exact hEscapes.ne_server error hServer
  · intro hNone
    rcases exchange_cases client email request session with
      ⟨reply, token, hHead, hGives⟩ |
        ⟨reply, cause, hHead, hEscapes, hOther⟩ |
        ⟨error, after, hServer⟩
    · rcases run_exchange_of_givesToken client email request
          hHead hGives with ⟨after, hOk⟩
      exact Talk.endsProperly_of_ok hOk
    · rcases hNone reply cause hHead hEscapes with
        ⟨misuse, hMisuse⟩
      exact absurd hMisuse (hOther misuse)
    · exact Or.inr ⟨error, after, hServer⟩

------------------------------------------------------------
-- Both Exchanges
------------------------------------------------------------

/- What is done with the first response to credentials. -/
def followUp
    (client : Client)
    (email password : Value)
    (request : Request)
    (response : Response) : Talk Value := do
  if response.status = 404 then
    Talk.log .debug
      "Superuser endpoint missing, trying legacy admin auth"
    let request ← client.request olderAuthenticationPath
      (.credentials email password)
    client.exchange email request
  else
    let document ← Talk.document request response
    client.keepToken email document

/- The first response is waited for, and then followed up. -/
theorem run_authenticate_eq
    (client : Client)
    (email password : Value)
    (session : Session) :
    let request := client.credentialsRequest email password
      session.token authenticationPath
    (client.authenticate email password).run session =
      (Talk.send request >>=
        client.followUp email password request).run
          session := by
  intro request
  have hSend : (client.authenticate email password).run
      session =
    (Talk.send request >>= fun response =>
      (if response.status = 404 then do
        Talk.log .debug ("Superuser endpoint missing, " ++
          "trying legacy admin auth")
        let request ← client.request olderAuthenticationPath
          (.credentials email password)
        return (request, ← Talk.send request)
      else return (request, response)) >>=
        fun sent => Talk.document sent.1 sent.2 >>=
          client.keepToken email).run session := by
    unfold authenticate sendCredentials
    simp only [bind_assoc]
    rfl
  rw [hSend]
  congr 2
  funext response
  unfold followUp exchange Talk.ask
  split
  · simp only [bind_assoc, pure_bind]
    rfl
  · rfl

/- A response that is sent for is the next reply. -/
theorem head?_of_run_send
    {response : Response}
    (hSend : (Talk.send request).run session =
      .ok response after) :
    session.replies.head? = some (.response response) := by
  cases hReplies : session.replies with
  | nil =>
      rcases run_send_of_nil request hReplies with
        ⟨error, next, hError⟩
      rw [hSend] at hError
      cases hError
  | cons reply later =>
      cases reply with
      | interruption =>
          rw [run_send_of_interruption _ hReplies] at hSend
          cases hSend
      | outage kind reason =>
          rcases run_send_of_outage request hReplies with
            ⟨error, next, hError⟩
          rw [hSend] at hError
          cases hError
      | response other =>
          rw [run_send request hReplies] at hSend
          cases hSend
          rfl

theorem run_authenticate_of_not_referred
    (client : Client)
    (email password : Value)
    (hReferred : session.isReferred = false) :
    (client.authenticate email password).run session =
      (client.exchange email
        (client.credentialsRequest email password
          session.token authenticationPath)).run session := by
  rw [run_authenticate_eq]
  cases hSend : (Talk.send (client.credentialsRequest email
      password session.token authenticationPath)).run
      session with
  | error cause next =>
      rw [Stateful.run_bind_of_error hSend]
      symm
      exact Stateful.run_bind_of_error
        (Stateful.run_bind_of_error hSend)
  | ok response next =>
      have hStatus : response.status ≠ 404 := by
        rcases List.head?_eq_some_iff.mp
          (head?_of_run_send hSend) with ⟨later, hReplies⟩
        rw [Session.isReferred, hReplies] at hReferred
        exact of_decide_eq_false hReferred
      rw [Stateful.run_bind_of_ok hSend, followUp,
        if_neg hStatus, exchange]
      exact (Stateful.run_bind_congr
        (Stateful.run_bind_of_ok hSend)).symm

theorem run_authenticate_of_referred
    (client : Client)
    (email password : Value)
    (hReferred : session.isReferred = true) :
    ∃ asked,
      session.Asks [client.credentialsRequest email password
          session.token authenticationPath] asked ∧
        asked.replies = session.replies.drop 1 ∧
        (client.authenticate email password).run session =
          (client.exchange email
            (client.credentialsRequest email password
              session.token olderAuthenticationPath)).run
            asked := by
  unfold Session.isReferred at hReferred
  split at hReferred
  · next response later hReplies =>
      let request := client.credentialsRequest email
        password session.token authenticationPath
      let asked := (Talk.log .debug ("Superuser endpoint " ++
        "missing, trying legacy admin auth")).final
          (session.sent request later)
      refine ⟨asked, ⟨rfl, rfl⟩, ?_, ?_⟩
      · rw [hReplies]
        rfl
      · rw [run_authenticate_eq, Stateful.run_bind_of_ok
            (run_send request hReplies), followUp,
          if_pos (of_decide_eq_true hReferred)]
        rfl
  · cases hReferred

/-
  The last of the requests is exchanged for a token. The
  reply to it is the one that decides.
-/
theorem authenticate_as_exchange
    (client : Client)
    (email password : Value)
    (session : Session) :
    ∃ before last asked,
      client.credentialsRequests email password session =
          before ++ [last] ∧
        session.Asks before asked ∧
        asked.replies.head? = session.verdict? ∧
        (client.authenticate email password).run session =
          (client.exchange email last).run asked := by
  unfold credentialsRequests Session.verdict?
  cases hReferred : session.isReferred with
  | false =>
      exact ⟨[], _, session, rfl, .refl session,
        List.head?_eq_getElem?,
        run_authenticate_of_not_referred client email
          password hReferred⟩
  | true =>
      rcases run_authenticate_of_referred client email
          password hReferred with
        ⟨asked, hAsks, hReplies, hRun⟩
      refine ⟨_, _, asked, rfl, hAsks, ?_, hRun⟩
      rw [hReplies, List.head?_drop]
      rfl

theorem authenticate_eq_ok_iff
    (client : Client)
    (email password : Value)
    (session : Session)
    (token : Value) :
    (∃ after,
      (client.authenticate email password).run session =
        .ok token after) ↔
      ∃ reply, session.verdict? = some reply ∧
        reply.GivesToken token := by
  rcases client.authenticate_as_exchange email password
      session with
    ⟨before, last, asked, _, _, hVerdict, hRun⟩
  rw [hRun, ← hVerdict]
  exact exchange_eq_ok_iff client email last asked token

/- Credentials are exchanged unless that reply escapes. -/
theorem endsProperly_authenticate_iff
    (client : Client)
    (email password : Value)
    (session : Session) :
    (client.authenticate email password).EndsProperly
        session ↔
      ∀ reply cause, session.verdict? = some reply →
        reply.Escapes cause →
        ∃ misuse, cause = .misuse misuse := by
  rcases client.authenticate_as_exchange email password
      session with
    ⟨before, last, asked, _, _, hVerdict, hRun⟩
  rw [Talk.endsProperly_congr hRun, ← hVerdict]
  exact endsProperly_exchange_iff client email last asked

/-
  Only credentials are sent. With a result the token is that
  one, and with an error it is what it was.
-/
theorem final_authenticate
    (client : Client)
    (email password : Value)
    (session : Session) :
    ((client.authenticate email password).final
        session).requests =
      session.requests ++
        client.credentialsRequests email password session ∧
      (∀ token after,
        (client.authenticate email password).run session =
            .ok token after →
          token.truthy ∧ after.token = token) ∧
      ∀ cause after,
        (client.authenticate email password).run session =
            .error cause after →
          after.token = session.token := by
  rcases client.authenticate_as_exchange email password
      session with
    ⟨before, last, asked, hRequests, hAsks, _, hRun⟩
  rw [← hAsks.token, hRequests, ← List.append_assoc,
    ← hAsks.requests, Talk.final, hRun]
  exact client.final_exchange email last asked

------------------------------------------------------------
-- Operations
------------------------------------------------------------

/- What a client can be told to do. -/
inductive Operation where
  | authenticate (email password : Value)
  | fetch (pageSize : Value)
  | collections (levels : Nat) (includeSystem : Bool)

def Operation.final
    (client : Client)
    (session : Session) : Operation → Session
  | .authenticate email password =>
      (client.authenticate email password).final session
  | .fetch pageSize => (client.fetch pageSize).final session
  | .collections levels includeSystem =>
      (client.collections levels includeSystem).final session

def Operation.Authenticates
    (client : Client)
    (session : Session) : Operation → Prop
  | .authenticate email password => ∃ token after,
      (client.authenticate email password).run session =
        .ok token after
  | .fetch _ => False
  | .collections _ _ => False

/-
  Operations one after the other, none of which gets a
  token. Each may fail.
-/
inductive Runs (client : Client) :
    Session → List Operation → Session → Prop where
  | nil {session : Session} : Runs client session [] session
  | cons {session after : Session} {operation : Operation}
      {operations : List Operation}
      (hNone : ¬ operation.Authenticates client session)
      (hRest : Runs client (operation.final client session)
        operations after) :
      Runs client session (operation :: operations) after

theorem token_of_mem_credentialsRequests
    {client : Client}
    {email password : Value}
    {request : Request}
    (hMem : request ∈
      client.credentialsRequests email password session) :
    request.token = session.token := by
  unfold credentialsRequests at hMem
  dsimp only at hMem
  split at hMem
  · rcases List.mem_cons.mp hMem with rfl | hLast
    · rfl
    · rcases List.mem_singleton.mp hLast with rfl
      rfl
  · rcases List.mem_singleton.mp hMem with rfl
    rfl

theorem Operation.requests_final
    (client : Client)
    (operation : Operation)
    (session : Session) :
    ∃ requests,
      (operation.final client session).requests =
          session.requests ++ requests ∧
        ∀ request ∈ requests,
          request.token = session.token := by
  cases operation with
  | authenticate email password =>
      exact ⟨_, (client.final_authenticate email password
          session).1,
        fun _ => token_of_mem_credentialsRequests⟩
  | fetch pageSize =>
      rcases client.carries_fetch pageSize session with
        ⟨requests, hAsks, hTokens⟩
      exact ⟨requests, hAsks.requests, hTokens⟩
  | collections levels includeSystem =>
      rcases client.carries_collections levels includeSystem
          session with ⟨requests, hAsks, hTokens⟩
      exact ⟨requests, hAsks.requests, hTokens⟩

theorem Operation.token_final
    {client : Client}
    {operation : Operation}
    {session : Session}
    (hNone : ¬ operation.Authenticates client session) :
    (operation.final client session).token =
      session.token := by
  cases operation with
  | authenticate email password =>
      rw [Operation.final]
      cases hRun : (client.authenticate email password).run
          session with
      | ok token after =>
          exact absurd ⟨token, after, hRun⟩ hNone
      | error cause after =>
          rw [Talk.final_of_error hRun]
          exact (client.final_authenticate email password
            session).2.2 cause after hRun
  | fetch pageSize =>
      rcases client.carries_fetch pageSize session with
        ⟨requests, hAsks, _⟩
      exact hAsks.token
  | collections levels includeSystem =>
      rcases client.carries_collections levels includeSystem
          session with ⟨requests, hAsks, _⟩
      exact hAsks.token

/- A step without a new token goes on with the old one. -/
theorem Operation.continues_final
    {client : Client}
    {operation : Operation}
    {session : Session}
    (hNone : ¬ operation.Authenticates client session) :
    session.Continues (operation.final client session) := by
  rcases operation.requests_final client session with
    ⟨requests, hRequests, hTokens⟩
  exact ⟨requests,
    ⟨token_final hNone, hRequests⟩, hTokens⟩

/- So does a run of such steps. -/
theorem Runs.continues
    {client : Client}
    {operations : List Operation}
    {before after : Session}
    (hRuns : client.Runs before operations after) :
    before.Continues after := by
  induction hRuns with
  | nil => exact (Session.Asks.refl _).continues
  | cons hNone _ ih =>
      exact (Operation.continues_final hNone).trans ih

end Client

/- All requests that a session goes on with have a token. -/
def Session.SendsAlong
    (token : Value)
    (before after : Session) : Prop :=
  ∃ requests, after.requests = before.requests ++ requests ∧
    ∀ request ∈ requests,
      request.authorization? = some token

namespace Client

/-
  Behind a token, it is sent along with all requests, up to
  and including those of the operation that gets another.
-/
theorem Runs.sendsAlong
    {client : Client}
    {operations : List Operation}
    {before after : Session}
    (hRuns : client.Runs before operations after)
    (hTruthy : before.token.truthy)
    (operation : Operation) :
    before.SendsAlong before.token
      (operation.final client after) := by
  rcases hRuns.continues with ⟨requests, hAsks, hTokens⟩
  rcases operation.requests_final client after with
    ⟨more, hMore, hOthers⟩
  rw [hAsks.token] at hOthers
  refine ⟨requests ++ more, ?_, ?_⟩
  · rw [hMore, hAsks.requests, List.append_assoc]
  · intro request hMem
    have hToken : request.token = before.token :=
      List.forall_mem_append.mpr ⟨hTokens, hOthers⟩
        request hMem
    rw [Request.authorization?, hToken, if_pos hTruthy]

end Client

------------------------------------------------------------
-- Authentication
------------------------------------------------------------

/-
  Credentials are sent once, or twice if the first reply is
  that the place is not known. The talk gives a token if and
  only if the last reply does, and then keeps it: until the
  next token, all requests of all operations carry it. With
  any error the token is what it was, and the error is one
  of the server unless the last reply breaks the talk off or
  decoding it ends in what nobody handles.
-/
theorem authentication_is_atomic
    (client : Client)
    (email password : Value)
    (session : Session) :
    let talk := client.authenticate email password
    (talk.final session).requests =
        session.requests ++
          client.credentialsRequests email password
            session ∧
      (∀ token,
        (∃ after, talk.run session = .ok token after) ↔
          ∃ reply, session.verdict? = some reply ∧
            reply.GivesToken token) ∧
      (∀ token after, talk.run session = .ok token after →
        token.truthy ∧ after.token = token ∧
          ∀ operations later,
            client.Runs after operations later →
              later.token = token ∧
                ∀ operation : Client.Operation,
                  after.SendsAlong token
                    (operation.final client later)) ∧
      (∀ cause after, talk.run session = .error cause after →
        after.token = session.token) ∧
      (talk.EndsProperly session ↔
        ∀ reply cause, session.verdict? = some reply →
          reply.Escapes cause →
          ∃ misuse, cause = .misuse misuse) := by
  intro talk
  rcases client.final_authenticate email password session
    with ⟨hRequests, hOk, hError⟩
  refine ⟨hRequests,
    client.authenticate_eq_ok_iff email password session,
    ?_, hError,
    client.endsProperly_authenticate_iff email password
      session⟩
  intro token after hRun
  rcases hOk token after hRun with ⟨hTruthy, rfl⟩
  refine ⟨hTruthy, rfl, fun operations later hRuns =>
    ⟨?_, hRuns.sendsAlong hTruthy⟩⟩
  rcases hRuns.continues with ⟨_, hAsks, _⟩
  exact hAsks.token

/-
  A server refers a client to the older place, where it gets
  a token. When it tries others in vain and then fetches, it
  still sends this token along.
-/
theorem older_token_is_sent_along :
    let client : Client := ⟨"http://localhost", .int 30⟩
    let answer (status : Int) (document : Value) : Reply :=
      .response
        { status, url := none, document := .ok document }
    let session : Session :=
      { token := .text "old"
        replies :=
          [answer 404 .null,
            answer 200 (.object [("token", .text "new")]),
            answer 500 .null]
        silence := "script exhausted" }
    ∃ after later,
      (client.authenticate (.text "a") (.text "b")).run
          session = .ok (.text "new") after ∧
        client.Runs after
          [.authenticate (.text "c") (.text "d")] later ∧
        (after.requests.map Request.authorization? =
          [some (.text "old"), some (.text "old")]) ∧
        after.SendsAlong (.text "new")
          ((client.fetch (.int 200)).final later) := by
  intro client answer session
  have hRun : ∃ after,
      (client.authenticate (.text "a") (.text "b")).run
        session = .ok (.text "new") after ∧
      after.requests.map Request.authorization? =
        [some (.text "old"), some (.text "old")] ∧
      ∃ cause later,
        (client.authenticate (.text "c") (.text "d")).run
          after = .error cause later :=
    ⟨_, rfl, rfl, _, _, rfl⟩
  rcases hRun with ⟨after, hOk, hRequests, cause, _, hError⟩
  have hRuns : ∃ later, client.Runs after
      [.authenticate (.text "c") (.text "d")] later := by
    refine ⟨_, .cons ?_ .nil⟩
    rintro ⟨token, next, hToken⟩
    rw [hError] at hToken
    cases hToken
  rcases hRuns with ⟨later, hRuns⟩
  rcases (authentication_is_atomic client (.text "a")
    (.text "b") session).2.2.1 _ after hOk with
    ⟨_, _, hLater⟩
  exact ⟨after, later, hOk, hRuns, hRequests,
    (hLater _ later hRuns).2 (.fetch (.int 200))⟩

/-
  A body that opens more lists than may be nested ends the
  talk with an error that is not one of the server.
-/
theorem authentication_escapes_from_brackets :
    let client : Client := ⟨"http://localhost", .int 30⟩
    let body := String.ofList
      (Json.brackets (Machine.usual.documentLevels + 1))
    let response : Response :=
      { status := 200, url := none
        document := readBody Machine.usual body }
    let session : Session :=
      { replies := [.response response]
        silence := "script exhausted" }
    let talk :=
      client.authenticate (.text "a@b.c") (.text "p")
    (∃ after,
      talk.run session =
        .error (.undecoded Json.Nest.list.depthMessage)
          after) ∧
      ¬ talk.EndsProperly session := by
  intro client body response session talk
  have hBody : response.document =
      .error (.unhandled Json.Nest.list.depthMessage) := by
    have hRead := readBody_brackets Machine.usual [] nofun
    rwa [List.append_nil] at hRead
  have hEscapes : Reply.Escapes (.response response)
      (.undecoded Json.Nest.list.depthMessage) :=
    .undecoded rfl hBody
  have hHead : session.replies.head? =
      some (.response response) := rfl
  have hReferred : session.isReferred = false := rfl
  rcases client.run_exchange_of_escapes (.text "a@b.c")
      (client.credentialsRequest (.text "a@b.c") (.text "p")
        session.token Client.authenticationPath) hHead
      hEscapes nofun with ⟨after, hExchange⟩
  have hRun : talk.run session =
      .error (.undecoded Json.Nest.list.depthMessage) after :=
    (client.run_authenticate_of_not_referred _ _
      hReferred).trans hExchange
  refine ⟨⟨after, hRun⟩, ?_⟩
  rw [Talk.endsProperly_iff_of_error hRun]
  rintro ⟨error, ⟨⟩⟩

end PocketDart
