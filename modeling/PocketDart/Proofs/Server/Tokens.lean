import PocketDart.Proofs.Server.Replies

/-
  This file proves that a client keeps its token. Whatever a
  server replies, asking for collections sends the token of
  the session along with every request and leaves it in
  place, whether the talk ends early or not.

  Key definitions include:
    * `Session.Asks`
    * `Session.Continues`
    * `Talk.final`
    * `Talk.IsSilent`
    * `Talk.Carries`

  Key theorems include:
    * `Talk.asks_bind`
    * `Talk.asks_ask`
    * `Talk.Carries.bind`
    * `Client.carries_fetch`
    * `Client.carries_collections`
-/

------------------------------------------------------------
-- Sessions
------------------------------------------------------------

namespace PocketDart

/- A session in which requests were sent with no new token. -/
structure Session.Asks
    (before : Session)
    (requests : List Request)
    (after : Session) : Prop where
  token : after.token = before.token
  requests : after.requests = before.requests ++ requests

/- A session that goes on with its token on all requests. -/
def Session.Continues
    (before after : Session) : Prop :=
  ∃ requests, before.Asks requests after ∧
    ∀ request ∈ requests, request.token = before.token

namespace Session

variable {before middle after : Session}
variable {requests more : List Request}

/- Nothing is sent. -/
theorem Asks.refl (session : Session) :
    session.Asks [] session :=
  ⟨rfl, (List.append_nil _).symm⟩

theorem Asks.trans
    (hFirst : before.Asks requests middle)
    (hSecond : middle.Asks more after) :
    before.Asks (requests ++ more) after := by
  refine ⟨hSecond.token.trans hFirst.token, ?_⟩
  rw [hSecond.requests, hFirst.requests, List.append_assoc]

/- A session goes on without requests. -/
theorem Asks.continues
    (hAsks : before.Asks [] after) :
    before.Continues after :=
  ⟨[], hAsks, nofun⟩

/- A session goes on twice. -/
theorem Continues.trans
    (hFirst : before.Continues middle)
    (hSecond : middle.Continues after) :
    before.Continues after := by
  rcases hFirst with ⟨requests, hAsks, hTokens⟩
  rcases hSecond with ⟨more, hAfter, hMore⟩
  rw [hAsks.token] at hMore
  exact ⟨requests ++ more, hAsks.trans hAfter,
    List.forall_mem_append.mpr ⟨hTokens, hMore⟩⟩

end Session

------------------------------------------------------------
-- Silence
------------------------------------------------------------

namespace Talk

variable {A B : Type}
variable {talk : Talk A}
variable {first : Talk A}
variable {second : A → Talk B}
variable {session after : Session}
variable {requests : List Request}

/- The session in which a talk ends, early or not. -/
def final
    (talk : Talk A)
    (session : Session) : Session :=
  match talk.run session with
  | .ok _ after => after
  | .error _ after => after

theorem final_of_ok
    {result : A}
    (hRun : talk.run session = .ok result after) :
    talk.final session = after := by
  rw [final, hRun]

/- A talk that ends early ends where the error comes up. -/
theorem final_of_error
    {cause : TalkError}
    (hRun : talk.run session = .error cause after) :
    talk.final session = after := by
  rw [final, hRun]

/- A talk that sends nothing and keeps the token. -/
def IsSilent (talk : Talk A) : Prop :=
  ∀ session : Session, session.Asks [] (talk.final session)

/- A silent talk adds no requests to those before it. -/
theorem asks_bind
    (hFirst : session.Asks requests (first.final session))
    (hSecond : ∀ result, (second result).IsSilent) :
    session.Asks requests
      ((first >>= second).final session) := by
  cases hRun : first.run session with
  | ok result next =>
      rw [final_of_ok hRun] at hFirst
      have hBoth := hFirst.trans (hSecond result next)
      rwa [List.append_nil, final,
        ← Stateful.run_bind_of_ok hRun] at hBoth
  | error cause next =>
      rw [final_of_error hRun] at hFirst
      rwa [final_of_error (Stateful.run_bind_of_error hRun)]

/- Two silent talks are one. -/
theorem IsSilent.bind
    (hFirst : first.IsSilent)
    (hSecond : ∀ result, (second result).IsSilent) :
    (first >>= second).IsSilent :=
  fun session => asks_bind (hFirst session) hSecond

/- A result is given without requests. -/
@[simp]
theorem isSilent_pure (result : A) :
    (pure result : Talk A).IsSilent :=
  .refl

/- A talk is ended without requests. -/
@[simp]
theorem isSilent_throw (cause : TalkError) :
    (throw cause : Talk A).IsSilent :=
  .refl

/- Messages are no requests. -/
@[simp]
theorem isSilent_log
    (level : Log.Level)
    (text : String) :
    (log level text).IsSilent :=
  fun session => ⟨rfl, (Session.Asks.refl session).requests⟩

@[simp]
theorem isSilent_fail (error : ServerError) :
    (fail error : Talk A).IsSilent := by
  unfold fail
  split
  · exact (isSilent_log _ _).bind fun _ => isSilent_throw _
  · exact isSilent_throw _

theorem isSilent_document
    (request : Request)
    (response : Response) :
    (document request response).IsSilent := by
  unfold document
  dsimp only
  -- An error by its status ends the talk before the body.
  split
  · refine (isSilent_fail _).bind fun _ => ?_
    split
    · exact isSilent_pure _
    · exact isSilent_fail _
    · exact isSilent_throw _
  · split
    · exact isSilent_pure _
    · exact isSilent_fail _
    · exact isSilent_throw _

------------------------------------------------------------
-- Requests
------------------------------------------------------------

/- A request is sent once, whatever comes of it. -/
theorem asks_send
    (request : Request)
    (session : Session) :
    session.Asks [request]
      ((send request).final session) := by
  have hExchange : session.Asks [request]
      ((exchange request).final session) := by
    rcases session with ⟨token, _ | ⟨reply, later⟩⟩
    · exact ⟨rfl, rfl⟩
    · exact ⟨rfl, rfl⟩
  unfold send
  refine asks_bind hExchange fun reply => ?_
  cases reply with
  | response response => exact isSilent_pure response
  | outage kind reason => exact isSilent_fail _
  | interruption => exact isSilent_throw _

/- It is the only one for a document. -/
theorem asks_ask
    (request : Request)
    (session : Session) :
    session.Asks [request] ((ask request).final session) :=
  asks_bind (asks_send request session)
    (isSilent_document request)

------------------------------------------------------------
-- Tokens
------------------------------------------------------------

/-
  A talk that sends the token of a session along with every
  request, and keeps the token.
-/
def Carries
    (talk : Talk A)
    (session : Session) : Prop :=
  session.Continues (talk.final session)

/- Without requests every one of them carries the token. -/
theorem IsSilent.carries
    (hSilent : talk.IsSilent)
    (session : Session) :
    talk.Carries session :=
  (hSilent session).continues

/- The second talk starts where the first one ends. -/
theorem Carries.bind
    (hFirst : first.Carries session)
    (hSecond : ∀ result next, (second result).Carries next) :
    (first >>= second).Carries session := by
  unfold Carries at hFirst hSecond ⊢
  cases hRun : first.run session with
  | ok result next =>
      rw [final_of_ok hRun] at hFirst
      rw [final, Stateful.run_bind_of_ok hRun]
      exact hFirst.trans (hSecond result next)
  | error cause next =>
      rw [final_of_error hRun] at hFirst
      rwa [final_of_error (Stateful.run_bind_of_error hRun)]

theorem Carries.tryCatch
    {handler : TalkError → Talk A}
    (hTalk : talk.Carries session)
    (hHandler : ∀ cause, (handler cause).IsSilent) :
    (tryCatch talk handler).Carries session := by
  unfold Carries at hTalk ⊢
  cases hRun : talk.run session with
  | ok result next =>
      rw [final_of_ok hRun] at hTalk
      rwa [final_of_ok
        (Stateful.run_tryCatch_of_ok handler hRun)]
  | error cause next =>
      rw [final_of_error hRun] at hTalk
      rw [final, Stateful.run_tryCatch_of_error handler hRun]
      exact hTalk.trans ((hHandler cause).carries next)

end Talk

------------------------------------------------------------
-- Collections
------------------------------------------------------------

namespace Client

/- One page is asked for with the token. -/
theorem carries_fetchPage
    (client : Client)
    (pageSize : Value)
    (number : Nat)
    (session : Session) :
    (client.fetchPage pageSize number).Carries session := by
  have hAsk :
      (client.askPage pageSize number).Carries session :=
    ⟨[client.pageRequest pageSize session.token number],
      Talk.asks_ask _ session,
      List.forall_mem_singleton.mpr rfl⟩
  rw [fetchPage_eq]
  refine hAsk.bind fun document => Talk.IsSilent.carries ?_
  unfold readPage
  split
  · exact Talk.isSilent_fail _
  · split
    · exact Talk.isSilent_throw _
    · exact (Talk.isSilent_log _ _).bind
        fun _ => Talk.isSilent_pure _

theorem carries_fetchFrom
    (client : Client)
    (pageSize : Value)
    (bound number : Nat)
    (session : Session) :
    (client.fetchFrom pageSize bound number).Carries
      session := by
  induction bound generalizing number session with
  | zero =>
      rw [fetchFrom]
      exact (carries_fetchPage _ _ _ _).bind
        fun _ => (Talk.isSilent_pure _).carries
  | succ bound ih =>
      rw [fetchFrom]
      refine (carries_fetchPage _ _ _ _).bind
        fun page next => ?_
      split
      · exact (Talk.isSilent_pure _).carries next
      · exact (ih (number + 1) next).bind
          fun _ => (Talk.isSilent_pure _).carries

/- A fetch sends the token with every request. -/
theorem carries_fetch
    (client : Client)
    (pageSize : Value)
    (session : Session) :
    (client.fetch pageSize).Carries session := by
  -- The number of replies is looked up first, as a bound.
  change Talk.Carries (do
    let items ← client.fetchFrom pageSize
      session.replies.length 1
    Talk.log .info
      ("Fetched " ++ toString items.length ++ " collections")
    return items) session
  exact (carries_fetchFrom _ _ _ _ _).bind fun _ =>
    ((Talk.isSilent_log _ _).bind
      fun _ => Talk.isSilent_pure _).carries

/- Reading what is fetched sends nothing. -/
theorem carries_readAll
    (levels : Nat)
    (client : Client)
    (session : Session) :
    (client.readAll levels).Carries session := by
  unfold readAll
  refine Talk.Carries.bind ?_ fun payloads =>
    Talk.IsSilent.carries ?_
  · refine (carries_fetch _ _ _).tryCatch fun cause => ?_
    split
    · exact Talk.isSilent_throw _
    · exact Talk.isSilent_throw _
  · split
    · exact Talk.isSilent_pure _
    · exact Talk.isSilent_throw _
    · exact Talk.isSilent_throw _

/- Nor does leaving collections out. -/
theorem isSilent_dropSystem
    (collections : List Collection) :
    (dropSystem collections).IsSilent := by
  unfold dropSystem
  dsimp only
  split
  · split
    · exact (Talk.isSilent_log _ _).bind
        fun _ => Talk.isSilent_pure _
    · exact (Talk.isSilent_throw _).bind
        fun _ => Talk.isSilent_pure _
  · exact Talk.isSilent_pure _

/- The collections are got with the token. -/
theorem carries_collections
    (levels : Nat)
    (client : Client)
    (includeSystem : Bool)
    (session : Session) :
    (client.collections levels includeSystem).Carries
      session := by
  unfold Client.collections
  refine (carries_readAll _ _ _).bind fun collections =>
    Talk.IsSilent.carries ?_
  split
  · exact Talk.isSilent_pure _
  · exact isSilent_dropSystem _

end Client

end PocketDart
