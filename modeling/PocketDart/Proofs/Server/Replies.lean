import Mathlib.Tactic.ByContra
import PocketDart.Proofs.Stateful
import PocketDart.Server.Client

/-
  This file proves what comes of the replies to requests. A
  reply tells a document, for instance a page, or it ends
  the talk, with an error of the server or with one that is
  not. As long as pages lead on to others, a fetch collects
  what is on them and asks for the next one.

  Key definitions include:
    * `Session.Answered`
    * `Reply.GivesPage`
    * `Reply.Escapes`
    * `Talk.ask`
    * `LeadOn`

  Key theorems include:
    * `Client.ask_cases`
    * `Client.run_fetchPage`
    * `Client.fetchPage_cases`
    * `LeadOn.run_fetchFrom`
    * `exists_leadOn`
    * `LeadOn.run_fetch`
    * `LeadOn.run_fetch_of_error`
-/

------------------------------------------------------------
-- Sessions
------------------------------------------------------------

namespace PocketDart

/-
  A session in which requests were sent and replies came,
  one for each request, and the token is what it was.
-/
structure Session.Answered
    (before : Session)
    (requests : List Request)
    (replies : List Reply)
    (after : Session) : Prop where
  token : after.token = before.token
  requests : after.requests = before.requests ++ requests
  replies : before.replies = replies ++ after.replies

namespace Session.Answered

variable {before middle after : Session}
variable {requests more : List Request}
variable {replies others : List Reply}

/- Nothing is sent and nothing comes. -/
theorem refl (session : Session) :
    session.Answered [] [] session :=
  ⟨rfl, by rw [List.append_nil], by rw [List.nil_append]⟩

theorem trans
    (hFirst : before.Answered requests replies middle)
    (hSecond : middle.Answered more others after) :
    before.Answered (requests ++ more) (replies ++ others)
      after := by
  refine ⟨hSecond.token.trans hFirst.token, ?_, ?_⟩
  · rw [hSecond.requests, hFirst.requests,
      List.append_assoc]
  · rw [hFirst.replies, hSecond.replies, List.append_assoc]

end Session.Answered

def Session.sent
    (session : Session)
    (request : Request)
    (later : List Reply) : Session :=
  { session with
    requests := session.requests ++ [request]
    replies := later }

------------------------------------------------------------
-- Replies
------------------------------------------------------------

/- A response that is no error and holds a document. -/
def Reply.Tells
    (reply : Reply)
    (document : Value) : Prop :=
  ∃ response, reply = .response response ∧
    response.isError = false ∧
    response.document = .ok document

/-
  A page, with the number of all pages as the client takes
  it.
-/
def Reply.GivesPage
    (reply : Reply)
    (page : Client.Page) : Prop :=
  ∃ document, reply.Tells document ∧
    Client.pageItems? document = some page.items ∧
    Client.totalPages document = .ok page.total

/-
  A reply that ends a talk with an error that is not one of
  the server: the user breaks the talk off, something comes
  up in decoding the document that nobody handles, or a page
  tells no number of all pages.
-/
inductive Reply.Escapes : Reply → TalkError → Prop where
  | interruption : Escapes .interruption .interrupted
  | undecoded {response : Response} {message : String}
      (hStatus : response.isError = false)
      (hBody : response.document =
        .error (.unhandled message)) :
      Escapes (.response response) (.undecoded message)
  | badTotal {reply : Reply} {document : Value}
      {items : List Value} {cause : Misuse}
      (hDocument : reply.Tells document)
      (hItems : Client.pageItems? document = some items)
      (hTotal : Client.totalPages document =
        .error cause) :
      Escapes reply (.misuse cause)

theorem Reply.Escapes.ne_server
    {reply : Reply}
    {cause : TalkError}
    (hEscapes : reply.Escapes cause)
    (error : ServerError) :
    cause ≠ .server error := by
  cases hEscapes with
  | interruption => exact nofun
  | undecoded _ _ => exact nofun
  | badTotal _ _ _ => exact nofun

/- Send a request and read the document of the response. -/
def Talk.ask (request : Request) : Talk Value :=
  send request >>= document request

namespace Client

variable {client : Client}
variable {pageSize : Value}
variable {session : Session}
variable {reply : Reply}
variable {later : List Reply}

def pageRequest
    (client : Client)
    (pageSize token : Value)
    (number : Nat) : Request :=
  ⟨client.domain ++ collectionsPath, token, client.timeout,
    .page number pageSize⟩

------------------------------------------------------------
-- One Document
------------------------------------------------------------

theorem run_fail
    {A : Type}
    (error : ServerError)
    (session : Session) :
    ∃ after, (Talk.fail error : Talk A).run session =
      .error (.server error) after := by
  unfold Talk.fail
  cases error.logText? with
  | none => exact ⟨session, rfl⟩
  | some text => exact ⟨_, rfl⟩

theorem run_exchange
    (request : Request)
    (hReplies : session.replies = reply :: later) :
    (Talk.exchange request).run session =
      .ok reply (session.sent request later) := by
  rcases session with
    ⟨token, replies, silence, requests, messages⟩
  dsimp only at hReplies
  subst hReplies
  rfl

theorem run_send
    {response : Response}
    (request : Request)
    (hReplies :
      session.replies = .response response :: later) :
    (Talk.send request).run session =
      .ok response (session.sent request later) := by
  unfold Talk.send
  rw [Stateful.run_bind_of_ok
    (run_exchange request hReplies)]
  rfl

/- The user can break a talk off. -/
theorem run_send_of_interruption
    (request : Request)
    (hReplies : session.replies = .interruption :: later) :
    (Talk.send request).run session =
      .error .interrupted (session.sent request later) := by
  unfold Talk.send
  rw [Stateful.run_bind_of_ok
    (run_exchange request hReplies)]
  rfl

theorem run_send_of_outage
    {kind : Outage}
    {reason : String}
    (request : Request)
    (hReplies :
      session.replies = .outage kind reason :: later) :
    ∃ error after, (Talk.send request).run session =
      .error (.server error) after := by
  unfold Talk.send
  rw [Stateful.run_bind_of_ok
    (run_exchange request hReplies)]
  exact ⟨_, run_fail _ _⟩

/- Without replies to come there is no connection. -/
theorem run_send_of_nil
    (request : Request)
    (hReplies : session.replies = []) :
    ∃ error after, (Talk.send request).run session =
      .error (.server error) after := by
  have hExchange :
      (Talk.exchange request).run session =
        .ok (.outage .connection session.silence)
          (session.sent request []) := by
    rcases session with
      ⟨token, replies, silence, requests, messages⟩
    dsimp only at hReplies
    subst hReplies
    rfl
  unfold Talk.send
  rw [Stateful.run_bind_of_ok hExchange]
  exact ⟨_, run_fail _ _⟩

/-
  What the document of a response comes to: there is one, or
  decoding it ends in what nobody handles, or the server is
  at fault.
-/
theorem document_cases
    (request : Request)
    (response : Response)
    (session : Session) :
    (response.isError = false ∧
        ∃ document, response.document = .ok document) ∨
      (response.isError = false ∧
        ∃ message, response.document =
          .error (.unhandled message)) ∨
      ∃ error after,
        (Talk.document request response).run session =
          .error (.server error) after := by
  cases hStatus : response.isError with
  | true =>
      refine Or.inr (Or.inr ?_)
      rcases run_fail (A := PUnit) (.status response.status
        (response.origin request)) session with
        ⟨after, hFail⟩
      unfold Talk.document
      simp only [hStatus, if_true]
      exact ⟨_, _, Stateful.run_bind_of_error hFail⟩
  | false =>
      cases hBody : response.document with
      | ok document => exact Or.inl ⟨rfl, _, rfl⟩
      | error fault =>
          cases fault with
          | unhandled message =>
              exact Or.inr (Or.inl ⟨rfl, _, rfl⟩)
          | malformed reason =>
              simp only [Talk.document, hStatus, hBody,
                Bool.false_eq_true, if_false]
              exact Or.inr (Or.inr ⟨_, run_fail _ _⟩)

/- A response is looked at after it has come. -/
theorem run_ask_of_response
    {response : Response}
    (request : Request)
    (hReplies :
      session.replies = .response response :: later) :
    (Talk.ask request).run session =
      (Talk.document request response).run
        (session.sent request later) :=
  Stateful.run_bind_of_ok (run_send request hReplies)

theorem run_ask
    {document : Value}
    (request : Request)
    (hTells : reply.Tells document)
    (hReplies : session.replies = reply :: later) :
    (Talk.ask request).run session =
      .ok document (session.sent request later) := by
  rcases hTells with ⟨response, rfl, hStatus, hBody⟩
  rw [run_ask_of_response request hReplies]
  simp only [Talk.document, hStatus, hBody]
  rfl

theorem run_ask_of_escapes
    {cause : TalkError}
    (request : Request)
    (hEscapes : reply.Escapes cause)
    (hOther : ∀ misuse, cause ≠ .misuse misuse)
    (hReplies : session.replies = reply :: later) :
    (Talk.ask request).run session =
      .error cause (session.sent request later) := by
  cases hEscapes with
  | interruption =>
      exact Stateful.run_bind_of_error
        (run_send_of_interruption request hReplies)
  | undecoded hStatus hBody =>
      rw [run_ask_of_response request hReplies]
      simp only [Talk.document, hStatus, hBody]
      rfl
  | badTotal => exact absurd rfl (hOther _)

/- Without replies to come there is no document. -/
theorem run_ask_of_nil
    (request : Request)
    (hReplies : session.replies = []) :
    ∃ error after, (Talk.ask request).run session =
      .error (.server error) after := by
  rcases run_send_of_nil request hReplies with
    ⟨error, after, hSend⟩
  exact ⟨error, after, Stateful.run_bind_of_error hSend⟩

/-
  What a reply comes to: a document, an error that escapes,
  or an error of the server.
-/
theorem ask_cases
    (request : Request)
    (hReplies : session.replies = reply :: later) :
    (∃ document, reply.Tells document) ∨
      (∃ cause, reply.Escapes cause ∧
        ∀ misuse, cause ≠ .misuse misuse) ∨
      ∃ error after, (Talk.ask request).run session =
        .error (.server error) after := by
  cases reply with
  | interruption =>
      exact Or.inr (Or.inl ⟨_, .interruption, nofun⟩)
  | outage kind reason =>
      rcases run_send_of_outage request hReplies with
        ⟨error, after, hSend⟩
      exact Or.inr (Or.inr
        ⟨error, after, Stateful.run_bind_of_error hSend⟩)
  | response response =>
      rcases document_cases request response
          (session.sent request later) with
        ⟨hStatus, document, hBody⟩ |
          ⟨hStatus, message, hBody⟩ | ⟨error, after, hError⟩
      · exact Or.inl
          ⟨document, response, rfl, hStatus, hBody⟩
      · exact Or.inr (Or.inl
          ⟨_, .undecoded hStatus hBody, nofun⟩)
      · rw [← run_ask_of_response request hReplies] at hError
        exact Or.inr (Or.inr ⟨error, after, hError⟩)

------------------------------------------------------------
-- One Page
------------------------------------------------------------

def askPage
    (client : Client)
    (pageSize : Value)
    (number : Nat) : Talk Value := do
  let request ←
    client.request collectionsPath (.page number pageSize)
  Talk.document request (← Talk.send request)

def readPage
    (number : Nat)
    (document : Value) : Talk Page :=
  match pageItems? document with
  | none => Talk.fail .notPage
  | some items =>
      match totalPages document with
      | .error cause => throw (.misuse cause)
      | .ok total => do
          Talk.log .debug
            ("Fetched collections page " ++
              toString number ++ "/" ++ toString total)
          return ⟨items, total⟩

theorem fetchPage_eq
    (client : Client)
    (pageSize : Value)
    (number : Nat) :
    client.fetchPage pageSize number =
      client.askPage pageSize number >>= readPage number := by
  rw [fetchPage, askPage]
  simp only [bind_assoc]
  rfl

theorem run_askPage_eq
    (client : Client)
    (pageSize : Value)
    (number : Nat)
    (session : Session) :
    let request :=
      client.pageRequest pageSize session.token number
    (client.askPage pageSize number).run session =
      (Talk.ask request).run session := rfl

theorem run_askPage
    {document : Value}
    (client : Client)
    (pageSize : Value)
    (number : Nat)
    (hTells : reply.Tells document)
    (hReplies : session.replies = reply :: later) :
    (client.askPage pageSize number).run session =
      .ok document
        (session.sent
          (client.pageRequest pageSize session.token number)
          later) :=
  run_ask _ hTells hReplies

/- Without a document there is no page. -/
theorem run_fetchPage_of_askPage
    {cause : TalkError}
    {number : Nat}
    (hAsk : ∃ after,
      (client.askPage pageSize number).run session =
        .error cause after) :
    ∃ after,
      (client.fetchPage pageSize number).run session =
        .error cause after := by
  rcases hAsk with ⟨after, hAsk⟩
  rw [fetchPage_eq]
  exact ⟨after, Stateful.run_bind_of_error hAsk⟩

theorem run_fetchPage
    (client : Client)
    (pageSize : Value)
    (number : Nat)
    {page : Page}
    (hPage : reply.GivesPage page)
    (hReplies : session.replies = reply :: later) :
    ∃ after,
      (client.fetchPage pageSize number).run session =
          .ok page after ∧
        session.Answered
          [client.pageRequest pageSize session.token number]
          [reply] after := by
  rcases hPage with ⟨document, hTells, hItems, hTotal⟩
  rw [fetchPage_eq, Stateful.run_bind_of_ok
      (run_askPage client pageSize number hTells hReplies),
    readPage, hItems, hTotal]
  exact ⟨_, rfl, rfl, rfl, hReplies⟩

theorem run_fetchPage_of_escapes
    (client : Client)
    (pageSize : Value)
    (number : Nat)
    {cause : TalkError}
    (hEscapes : reply.Escapes cause)
    (hReplies : session.replies = reply :: later) :
    ∃ after,
      (client.fetchPage pageSize number).run session =
        .error cause after := by
  by_cases hMisuse : ∃ misuse, cause = .misuse misuse
  · rcases hMisuse with ⟨misuse, rfl⟩
    rcases hEscapes with _ | _ | ⟨hTells, hItems, hTotal⟩
    rw [fetchPage_eq, Stateful.run_bind_of_ok
        (run_askPage client pageSize number hTells
          hReplies),
      readPage, hItems, hTotal]
    exact ⟨_, rfl⟩
  · apply run_fetchPage_of_askPage
    rw [run_askPage_eq]
    exact ⟨_, run_ask_of_escapes _ hEscapes
      (not_exists.mp hMisuse) hReplies⟩

theorem run_fetchPage_of_nil
    (client : Client)
    (pageSize : Value)
    (number : Nat)
    (hReplies : session.replies = []) :
    ∃ error after,
      (client.fetchPage pageSize number).run session =
        .error (.server error) after := by
  rcases run_ask_of_nil
      (client.pageRequest pageSize session.token number)
      hReplies with
    ⟨error, after, hAsk⟩
  rw [← run_askPage_eq] at hAsk
  exact ⟨error, run_fetchPage_of_askPage ⟨after, hAsk⟩⟩

/-
  What a reply comes to: a page, an error that escapes, or
  an error of the server.
-/
theorem fetchPage_cases
    (client : Client)
    (pageSize : Value)
    (number : Nat)
    (hReplies : session.replies = reply :: later) :
    (∃ page, reply.GivesPage page) ∨
      (∃ cause, reply.Escapes cause) ∨
      ∃ error after,
        (client.fetchPage pageSize number).run session =
          .error (.server error) after := by
  rcases ask_cases
      (client.pageRequest pageSize session.token number)
      hReplies with
    ⟨document, hTells⟩ | ⟨cause, hEscapes, _⟩ |
      ⟨error, after, hAsk⟩
  · cases hItems : pageItems? document with
    | none =>
        refine Or.inr (Or.inr ⟨.notPage, ?_⟩)
        rw [fetchPage_eq, Stateful.run_bind_of_ok
            (run_askPage client pageSize number hTells
              hReplies),
          readPage, hItems]
        exact run_fail _ _
    | some items =>
        cases hTotal : totalPages document with
        | error cause =>
            exact Or.inr (Or.inl ⟨.misuse cause,
              .badTotal hTells hItems hTotal⟩)
        | ok total =>
            exact Or.inl ⟨⟨items, total⟩, document,
              hTells, hItems, hTotal⟩
  · exact Or.inr (Or.inl ⟨cause, hEscapes⟩)
  · rw [← run_askPage_eq] at hAsk
    exact Or.inr (Or.inr
      ⟨error, run_fetchPage_of_askPage ⟨after, hAsk⟩⟩)

end Client

------------------------------------------------------------
-- Pages that Lead on
------------------------------------------------------------

/-
  Replies that lead from page to page, the first of them
  with a number: each is a page that is not the last one.
  The payloads are those on the pages.
-/
inductive LeadOn :
    Nat → List Reply → List Value → Prop where
  | nil {number : Nat} : LeadOn number [] []
  | cons {number : Nat} {reply : Reply}
      {page : Client.Page} {replies : List Reply}
      {payloads : List Value}
      (hPage : reply.GivesPage page)
      (hMore : page.isLast number = false)
      (hRest : LeadOn (number + 1) replies payloads) :
      LeadOn number (reply :: replies)
        (page.items ++ payloads)

/-
  Replies cut into those that lead on and the rest, the
  first of which does not.
-/
theorem exists_leadOn
    (number : Nat)
    (replies : List Reply) :
    ∃ before payloads later,
      replies = before ++ later ∧
        LeadOn number before payloads ∧
        ∀ reply page, later.head? = some reply →
          reply.GivesPage page →
            page.isLast (number + before.length) := by
  induction replies generalizing number with
  | nil => exact ⟨[], [], [], rfl, .nil, nofun⟩
  | cons reply rest ih =>
      by_cases hOpen : ∃ page : Client.Page,
          reply.GivesPage page ∧ page.isLast number = false
      · rcases hOpen with ⟨page, hPage, hMore⟩
        rcases ih (number + 1) with
          ⟨before, payloads, later, rfl, hLead, hLast⟩
        refine ⟨reply :: before, page.items ++ payloads,
          later, rfl, .cons hPage hMore hLead, ?_⟩
        rwa [List.length_cons, Nat.add_comm before.length,
          ← Nat.add_assoc]
      · refine ⟨[], [], reply :: rest, rfl, .nil, ?_⟩
        rintro _ page ⟨⟩ hPage
        by_contra hMore
        exact hOpen ⟨page, hPage,
          Bool.eq_false_iff.mpr hMore⟩

namespace Client

variable {client : Client}
variable {pageSize : Value}
variable {session : Session}

theorem run_fetchFrom_of_error
    {number : Nat}
    {cause : TalkError}
    {after : Session}
    (bound : Nat)
    (hPage : (client.fetchPage pageSize number).run session =
      .error cause after) :
    (client.fetchFrom pageSize bound number).run session =
      .error cause after := by
  cases bound with
  | zero =>
      rw [fetchFrom]
      exact Stateful.run_bind_of_error hPage
  | succ bound =>
      rw [fetchFrom]
      exact Stateful.run_bind_of_error hPage

theorem run_fetchFrom_of_last
    {number : Nat}
    {page : Page}
    {after : Session}
    (bound : Nat)
    (hPage : (client.fetchPage pageSize number).run session =
      .ok page after)
    (hLast : page.isLast number) :
    (client.fetchFrom pageSize bound number).run session =
      .ok page.items after := by
  cases bound with
  | zero =>
      rw [fetchFrom, Stateful.run_bind_of_ok hPage]
      rfl
  | succ bound =>
      rw [fetchFrom, Stateful.run_bind_of_ok hPage,
        if_pos hLast]
      rfl

end Client

namespace LeadOn

variable {number : Nat}
variable {before later : List Reply}
variable {payloads : List Value}
variable {session : Session}

/-
  Behind pages that lead on, the fetch goes on with what it
  has collected.
-/
theorem run_fetchFrom
    (client : Client)
    (pageSize : Value)
    (hLead : LeadOn number before payloads)
    (hReplies : session.replies = before ++ later)
    (bound : Nat) :
    ∃ next,
      session.Answered
          ((List.range' number before.length).map
            (client.pageRequest pageSize session.token))
          before next ∧
        (client.fetchFrom pageSize (before.length + bound)
            number).run session =
          (do
            let rest ← client.fetchFrom pageSize bound
              (number + before.length)
            return payloads ++ rest : Talk _).run next := by
  induction hLead generalizing session with
  | nil =>
      refine ⟨session, .refl session, ?_⟩
      simp
  | @cons number reply page replies payloads hPage hMore
      hRest ih =>
      rcases Client.run_fetchPage client pageSize number hPage
          hReplies with ⟨next, hFetch, hNext⟩
      have hLater : next.replies = replies ++ later := by
        have hBoth := hReplies.symm.trans hNext.replies
        exact (List.cons.inj hBoth).2.symm
      rcases ih hLater with ⟨after, hAfter, hRun⟩
      refine ⟨after, ?_, ?_⟩
      · rw [List.length_cons, List.range'_succ,
          List.map_cons, ← hNext.token]
        rw [← hNext.token] at hNext
        exact hNext.trans hAfter
      · rw [List.length_cons, Nat.add_right_comm,
          Client.fetchFrom, Stateful.run_bind_of_ok hFetch,
          if_neg (Bool.eq_false_iff.mp hMore),
          Stateful.run_bind_congr hRun]
        simp only [bind_assoc, pure_bind, List.append_assoc]
        rw [Nat.add_assoc, Nat.add_comm 1]

theorem run_fetch
    (client : Client)
    (pageSize : Value)
    {reply : Reply}
    {page : Client.Page}
    (hLead : LeadOn 1 before payloads)
    (hReplies : session.replies = before ++ reply :: later)
    (hPage : reply.GivesPage page)
    (hLast : page.isLast (1 + before.length)) :
    ∃ after,
      (client.fetch pageSize).run session =
          .ok (payloads ++ page.items) after ∧
        session.Answered
          ((List.range' 1 (before.length + 1)).map
            (client.pageRequest pageSize session.token))
          (before ++ [reply]) after := by
  rcases hLead.run_fetchFrom client pageSize hReplies
      (later.length + 1) with ⟨next, hNext, hRun⟩
  have hLater : next.replies = reply :: later :=
    List.append_cancel_left
      (hNext.replies.symm.trans hReplies)
  rcases Client.run_fetchPage client pageSize
      (1 + before.length) hPage hLater with
    ⟨after, hFetch, hAfter⟩
  rw [Stateful.run_bind_of_ok (Client.run_fetchFrom_of_last
    _ hFetch hLast)] at hRun
  have hBound : session.replies.length =
      before.length + (later.length + 1) := by
    rw [hReplies, List.length_append, List.length_cons]
  rw [hNext.token] at hAfter
  have hAnswered := hNext.trans hAfter
  unfold Client.fetch
  rw [Stateful.run_get_bind, hBound,
    Stateful.run_bind_of_ok hRun, List.range'_1_concat,
    List.map_append]
  exact ⟨_, rfl, hAnswered.token, hAnswered.requests,
    hAnswered.replies⟩

theorem run_fetch_of_error
    (client : Client)
    (pageSize : Value)
    (causes : TalkError → Prop)
    (hLead : LeadOn 1 before payloads)
    (hReplies : session.replies = before ++ later)
    (hError : ∀ next : Session, next.replies = later →
      ∃ cause after, causes cause ∧
        (client.fetchPage pageSize
          (1 + before.length)).run next =
          .error cause after) :
    ∃ cause after, causes cause ∧
      (client.fetch pageSize).run session =
        .error cause after := by
  rcases hLead.run_fetchFrom client pageSize hReplies
      later.length with ⟨next, hNext, hRun⟩
  have hLater : next.replies = later :=
    List.append_cancel_left
      (hNext.replies.symm.trans hReplies)
  rcases hError next hLater with
    ⟨cause, after, hCause, hPage⟩
  rw [Stateful.run_bind_of_error
    (Client.run_fetchFrom_of_error _ hPage)] at hRun
  have hBound : session.replies.length =
      before.length + later.length := by
    rw [hReplies, List.length_append]
  unfold Client.fetch
  rw [Stateful.run_get_bind, hBound]
  exact ⟨cause, after, hCause,
    Stateful.run_bind_of_error hRun⟩

end LeadOn

end PocketDart
