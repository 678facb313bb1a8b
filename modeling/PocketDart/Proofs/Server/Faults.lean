import PocketDart.Proofs.Schema.Misuses
import PocketDart.Proofs.Server.Pages

/-
  This file proves when a talk about collections ends as it
  should: with a result, or with an error of the server.
  What escapes from a page ends a fetch with another error.
  Reading the collections turns most of these into errors of
  the server, but it does not allow for tags of fields that
  are nested too deep, and it looks at the names of
  collections of the system as if all of them were texts.

  Key definitions include:
    * `Talk.EndsProperly`
    * `Session.Meets`
    * `Session.Delivers`
    * `TalkError.reported`

  Key theorems include:
    * `Session.fetch_cases`
    * `endsProperly_fetch_iff`
    * `endsProperly_dropSystem_iff`
    * `endsProperly_collections_iff`
    * `talks_end_properly_iff`
-/

------------------------------------------------------------
-- Ends of Talks
------------------------------------------------------------

namespace PocketDart

open Client (defaultPageSize payloadError)

/- A talk that gives a result or an error of the server. -/
def Talk.EndsProperly
    {A : Type}
    (talk : Talk A)
    (session : Session) : Prop :=
  (∃ result after, talk.run session = .ok result after) ∨
    ∃ error after,
      talk.run session = .error (.server error) after

namespace Talk

variable {A : Type}
variable {talk : Talk A}
variable {session after : Session}

theorem endsProperly_of_ok
    {result : A}
    (hRun : talk.run session = .ok result after) :
    talk.EndsProperly session :=
  Or.inl ⟨result, after, hRun⟩

theorem endsProperly_iff_of_error
    {cause : TalkError}
    (hRun : talk.run session = .error cause after) :
    talk.EndsProperly session ↔
      ∃ error, cause = .server error := by
  constructor
  · rintro (⟨result, next, hOk⟩ | ⟨error, next, hError⟩)
    · rw [hRun] at hOk
      cases hOk
    · rw [hRun] at hError
      cases hError
      exact ⟨error, rfl⟩
  · rintro ⟨error, rfl⟩
    exact Or.inr ⟨error, after, hRun⟩

theorem endsProperly_congr
    {other : Talk A}
    (hRun : talk.run session = other.run after) :
    talk.EndsProperly session ↔
      other.EndsProperly after := by
  rw [EndsProperly, EndsProperly, hRun]

end Talk

------------------------------------------------------------
-- Fetching
------------------------------------------------------------

/- A session in which a fetch gets to what escapes. -/
def Session.Meets
    (session : Session)
    (cause : TalkError) : Prop :=
  ∃ before payloads reply later,
    session.replies = before ++ reply :: later ∧
      LeadOn 1 before payloads ∧
      reply.Escapes cause

/- A session in which a fetch gets to a last page. -/
def Session.Delivers
    (session : Session)
    (payloads : List Value) : Prop :=
  ∃ before items reply page later,
    session.replies = before ++ reply :: later ∧
      LeadOn 1 before items ∧
      reply.GivesPage page ∧
      page.isLast (1 + before.length) ∧
      payloads = items ++ page.items

namespace Session

variable {session : Session}
variable {payloads : List Value}
variable {cause : TalkError}

theorem Delivers.run_fetch
    (hDelivers : session.Delivers payloads)
    (client : Client)
    (pageSize : Value) :
    ∃ after, (client.fetch pageSize).run session =
      .ok payloads after := by
  rcases hDelivers with
    ⟨before, items, reply, page, later, hReplies, hLead,
      hPage, hLast, rfl⟩
  rcases hLead.run_fetch client pageSize hReplies hPage
      hLast with ⟨after, hFetch, _⟩
  exact ⟨after, hFetch⟩

/- What escapes ends the fetch. -/
theorem Meets.run_fetch
    (hMeets : session.Meets cause)
    (client : Client)
    (pageSize : Value) :
    ∃ after, (client.fetch pageSize).run session =
      .error cause after := by
  rcases hMeets with
    ⟨before, items, reply, later, hReplies, hLead,
      hEscapes⟩
  have hError : ∀ next : Session,
      next.replies = reply :: later →
        ∃ other after, other = cause ∧
          (client.fetchPage pageSize
            (1 + before.length)).run next =
            .error other after := by
    intro next hNext
    rcases Client.run_fetchPage_of_escapes client pageSize
        (1 + before.length) hEscapes hNext with
      ⟨after, hPage⟩
    exact ⟨cause, after, rfl, hPage⟩
  rcases hLead.run_fetch_of_error client pageSize
      (· = cause) hReplies hError with
    ⟨_, after, rfl, hFetch⟩
  exact ⟨after, hFetch⟩

/-
  Whatever the replies are, a fetch gets to a last page, to
  what escapes, or to an error of the server.
-/
theorem fetch_cases
    (session : Session)
    (client : Client)
    (pageSize : Value) :
    (∃ payloads, session.Delivers payloads) ∨
      (∃ cause, session.Meets cause) ∨
      ∃ error after,
        (client.fetch pageSize).run session =
          .error (.server error) after := by
  rcases exists_leadOn 1 session.replies with
    ⟨before, items, later, hReplies, hLead, hLast⟩
  by_cases hPage : ∃ reply page,
      later.head? = some reply ∧ reply.GivesPage page
  · rcases hPage with ⟨reply, page, hHead, hPage⟩
    rcases List.head?_eq_some_iff.mp hHead with ⟨rest, rfl⟩
    exact Or.inl ⟨_, before, items, reply, page, rest,
      hReplies, hLead, hPage, hLast reply page hHead hPage,
      rfl⟩
  by_cases hEscapes : ∃ reply cause,
      later.head? = some reply ∧ reply.Escapes cause
  · rcases hEscapes with ⟨reply, cause, hHead, hEscapes⟩
    rcases List.head?_eq_some_iff.mp hHead with ⟨rest, rfl⟩
    exact Or.inr (Or.inl ⟨cause, before, items, reply, rest,
      hReplies, hLead, hEscapes⟩)
  -- Only errors of the server are left for the next reply.
  have hError : ∀ next : Session, next.replies = later →
      ∃ cause after, (∃ error, cause = .server error) ∧
        (client.fetchPage pageSize
          (1 + before.length)).run next =
          .error cause after := by
    intro next hNext
    suffices hServer : ∃ error after,
        (client.fetchPage pageSize
          (1 + before.length)).run next =
          .error (.server error) after by
      rcases hServer with ⟨error, after, hRun⟩
      exact ⟨_, after, ⟨error, rfl⟩, hRun⟩
    cases later with
    | nil =>
        exact Client.run_fetchPage_of_nil client pageSize _
          hNext
    | cons reply rest =>
        rcases Client.fetchPage_cases client pageSize
            (1 + before.length) hNext with
          ⟨page, hGives⟩ | ⟨cause, hEscape⟩ | hServer
        · exact absurd ⟨reply, page, rfl, hGives⟩ hPage
        · exact absurd ⟨reply, cause, rfl, hEscape⟩ hEscapes
        · exact hServer
  rcases hLead.run_fetch_of_error client pageSize _ hReplies
      hError with ⟨_, after, ⟨error, rfl⟩, hFetch⟩
  exact Or.inr (Or.inr ⟨error, after, hFetch⟩)

theorem delivers_iff
    (session : Session)
    (payloads : List Value)
    (client : Client)
    (pageSize : Value) :
    session.Delivers payloads ↔
      ∃ after, (client.fetch pageSize).run session =
        .ok payloads after := by
  constructor
  · exact fun hDelivers =>
      hDelivers.run_fetch client pageSize
  · rintro ⟨after, hRun⟩
    rcases session.fetch_cases client pageSize with
      ⟨others, hDelivers⟩ | ⟨cause, hMeets⟩ |
        ⟨error, next, hServer⟩
    · rcases hDelivers.run_fetch client pageSize with
        ⟨next, hFetch⟩
      rw [hRun] at hFetch
      cases hFetch
      exact hDelivers
    · rcases hMeets.run_fetch client pageSize with
        ⟨next, hFetch⟩
      rw [hRun] at hFetch
      cases hFetch
    · rw [hRun] at hServer
      cases hServer

/-
  What is met is exactly what a fetch ends with when it is
  no error of the server.
-/
theorem meets_iff
    (session : Session)
    (cause : TalkError)
    (client : Client)
    (pageSize : Value) :
    session.Meets cause ↔
      (∀ error, cause ≠ .server error) ∧
        ∃ after, (client.fetch pageSize).run session =
          .error cause after := by
  constructor
  · intro hMeets
    refine ⟨?_, hMeets.run_fetch client pageSize⟩
    rcases hMeets with ⟨_, _, _, _, _, _, hEscapes⟩
    exact hEscapes.ne_server
  · rintro ⟨hOther, after, hRun⟩
    rcases session.fetch_cases client pageSize with
      ⟨payloads, hDelivers⟩ | ⟨other, hMeets⟩ |
        ⟨error, next, hServer⟩
    · rcases hDelivers.run_fetch client pageSize with
        ⟨next, hFetch⟩
      rw [hRun] at hFetch
      cases hFetch
    · rcases hMeets.run_fetch client pageSize with
        ⟨next, hFetch⟩
      rw [hRun] at hFetch
      cases hFetch
      exact hMeets
    · rw [hRun] at hServer
      cases hServer
      exact absurd rfl (hOther error)

end Session

/- A fetch ends properly if it gets to nothing that escapes. -/
theorem endsProperly_fetch_iff
    (client : Client)
    (pageSize : Value)
    (session : Session) :
    (client.fetch pageSize).EndsProperly session ↔
      ∀ cause, ¬ session.Meets cause := by
  simp only [session.meets_iff _ client pageSize]
  cases hRun : (client.fetch pageSize).run session with
  | ok payloads after =>
      refine iff_of_true (Talk.endsProperly_of_ok hRun) ?_
      rintro cause ⟨_, next, ⟨⟩⟩
  | error cause after =>
      rw [Talk.endsProperly_iff_of_error hRun]
      constructor
      · rintro ⟨error, rfl⟩ _ ⟨hOther, next, ⟨⟩⟩
        exact hOther error rfl
      · intro hNone
        by_contra hOther
        exact hNone cause
          ⟨not_exists.mp hOther, after, rfl⟩

------------------------------------------------------------
-- Reading
------------------------------------------------------------

/- What reading the collections makes of an error. -/
def TalkError.reported : TalkError → TalkError
  | .misuse cause => payloadError cause
  | error => error

theorem payloadError_eq_server_iff (cause : Misuse) :
    (∃ error, payloadError cause = .server error) ↔
      cause.isHandled := by
  unfold payloadError
  cases cause.isHandled with
  | true => simp
  | false => simp

theorem TalkError.reported_eq_server_iff
    (cause : TalkError) :
    (∃ error, cause.reported = .server error) ↔
      (∃ error, cause = .server error) ∨
        ∃ misuse, cause = .misuse misuse ∧
          misuse.isHandled := by
  cases cause with
  | server error => simp [reported]
  | undecoded message => simp [reported]
  | interrupted => simp [reported]
  | misuse cause =>
      simp [reported, payloadError_eq_server_iff]

namespace Client

variable {levels : Nat}
variable {client : Client}
variable {session after : Session}

theorem run_readAll_of_error
    (levels : Nat)
    {cause : TalkError}
    (hFetch : (client.fetch defaultPageSize).run session =
      .error cause after) :
    (client.readAll levels).run session =
      .error cause.reported after := by
  unfold readAll
  apply Stateful.run_bind_of_error
  rw [Stateful.run_tryCatch_of_error _ hFetch]
  cases cause with
  | server error => rfl
  | undecoded message => rfl
  | misuse cause => rfl
  | interrupted => rfl

theorem run_readAll_of_misuse
    {payloads : List Value}
    {cause : Misuse}
    (hFetch : (client.fetch defaultPageSize).run session =
      .ok payloads after)
    (hRead : readCollections levels (.list payloads) =
      .error (.misuse cause)) :
    (client.readAll levels).run session =
      .error (payloadError cause) after := by
  unfold readAll
  rw [Stateful.run_bind_of_ok
    (Stateful.run_tryCatch_of_ok _ hFetch), hRead]
  rfl

/- Without collections nothing is left out. -/
theorem run_collections_of_error
    {cause : TalkError}
    (includeSystem : Bool)
    (hReadAll : (client.readAll levels).run session =
      .error cause after) :
    (client.collections levels includeSystem).run session =
      .error cause after := by
  unfold Client.collections
  exact Stateful.run_bind_of_error hReadAll

end Client

------------------------------------------------------------
-- Collections
------------------------------------------------------------

/-
  Leaving out the collections of the system ends properly if
  their names are texts, since the names are logged.
-/
theorem endsProperly_dropSystem_iff
    (collections : List Collection)
    (session : Session) :
    (Client.dropSystem collections).EndsProperly session ↔
      NamesSystem collections := by
  constructor
  · intro hEnds
    rw [← Client.texts_systemNames_iff]
    by_contra hNone
    cases hTexts : Value.texts
        ((collections.filter Collection.system).map
          Collection.name) with
    | ok names => exact hNone ⟨names, hTexts⟩
    | error cause =>
        have hSome : (collections.filter
            Collection.system).isEmpty = false := by
          rw [Bool.eq_false_iff]
          intro hEmpty
          rw [List.isEmpty_iff.mp hEmpty] at hTexts
          cases hTexts
        have hRun :
            (Client.dropSystem collections).run session =
              .error (.misuse cause) session := by
          unfold Client.dropSystem
          dsimp only
          rw [hTexts, hSome]
          rfl
        rcases (Talk.endsProperly_iff_of_error hRun).mp
            hEnds with ⟨error, ⟨⟩⟩
  · intro hNames
    rcases Client.run_dropSystem session hNames with
      ⟨after, hRun, _⟩
    exact Talk.endsProperly_of_ok hRun

/-
  Behind a fetch that fails the collections end properly if
  the error is one of the server or is reported as one.
-/
theorem endsProperly_collections_of_error
    {client : Client}
    {session after : Session}
    {cause : TalkError}
    (levels : Nat)
    (includeSystem : Bool)
    (hFetch : (client.fetch defaultPageSize).run session =
      .error cause after) :
    (client.collections levels includeSystem).EndsProperly
        session ↔
      (∃ error, cause = .server error) ∨
        ∃ misuse, cause = .misuse misuse ∧
          misuse.isHandled := by
  have hRun := Client.run_collections_of_error includeSystem
    (Client.run_readAll_of_error levels hFetch)
  rw [Talk.endsProperly_iff_of_error hRun,
    TalkError.reported_eq_server_iff]

/-
  Behind a fetch that gives payloads the collections end
  properly unless a tag is nested too deep or names of the
  system are logged that are no texts.
-/
theorem endsProperly_collections_of_ok
    {client : Client}
    {session after : Session}
    {payloads : List Value}
    (levels : Nat)
    (includeSystem : Bool)
    (hFetch : (client.fetch defaultPageSize).run session =
      .ok payloads after) :
    (client.collections levels includeSystem).EndsProperly
        session ↔
      ¬ MeetsDeepTag levels (.list payloads) ∧
        (includeSystem = false →
          ∀ collections,
            readCollections levels (.list payloads) =
              .ok collections →
            NamesSystem collections) := by
  rw [← readCollections_eq_tooDeep_iff]
  cases hRead : readCollections levels (.list payloads) with
  | error fault =>
      rcases failsOnly_readCollections levels payloads fault
        hRead with ⟨cause, rfl, hCause⟩
      have hRun := Client.run_collections_of_error
        includeSystem
        (Client.run_readAll_of_misuse hFetch hRead)
      rw [Talk.endsProperly_iff_of_error hRun,
        payloadError_eq_server_iff]
      rcases hCause with hHandled | rfl
      · refine iff_of_true hHandled ⟨?_, nofun⟩
        rintro ⟨⟩
        cases hHandled
      · exact iff_of_false Bool.false_ne_true
          fun hBoth => hBoth.1 rfl
  | ok collections =>
      have hReadAll := Client.run_readAll hFetch hRead
      unfold Client.collections
      rw [Talk.endsProperly_congr
        (Stateful.run_bind_of_ok hReadAll)]
      cases includeSystem with
      | true =>
          exact iff_of_true (Talk.endsProperly_of_ok rfl)
            ⟨nofun, nofun⟩
      | false =>
          refine (endsProperly_dropSystem_iff collections
            after).trans ?_
          constructor
          · intro hNames
            refine ⟨nofun, ?_⟩
            rintro _ _ ⟨⟩
            exact hNames
          · rintro ⟨_, hNames⟩
            exact hNames rfl collections rfl

/-
  The collections end properly if a fetch gets to nothing
  that escapes as it is, if no tag is nested too deep, and
  if all collections of the system that are left out have
  texts for names.
-/
theorem endsProperly_collections_iff
    (levels : Nat)
    (client : Client)
    (includeSystem : Bool)
    (session : Session) :
    (client.collections levels includeSystem).EndsProperly
        session ↔
      (∀ cause, session.Meets cause →
        ∃ misuse, cause = .misuse misuse ∧
          misuse.isHandled) ∧
      (∀ payloads, session.Delivers payloads →
        ¬ MeetsDeepTag levels (.list payloads)) ∧
      (includeSystem = false →
        ∀ payloads collections,
          session.Delivers payloads →
          readCollections levels (.list payloads) =
            .ok collections →
          NamesSystem collections) := by
  simp only [session.meets_iff _ client defaultPageSize,
    session.delivers_iff _ client defaultPageSize]
  cases hFetch :
      (client.fetch defaultPageSize).run session with
  | error cause after =>
      rw [endsProperly_collections_of_error levels
        includeSystem hFetch]
      constructor
      · intro hReported
        refine ⟨?_, ?_, nofun⟩
        · rintro _ ⟨hOther, _, ⟨⟩⟩
          exact hReported.resolve_left
            (not_exists.mpr hOther)
        · rintro _ ⟨_, ⟨⟩⟩
      · rintro ⟨hMeets, _⟩
        rw [or_iff_not_imp_left]
        intro hOther
        exact hMeets cause
          ⟨not_exists.mp hOther, after, rfl⟩
  | ok payloads after =>
      rw [endsProperly_collections_of_ok levels
        includeSystem hFetch]
      constructor
      · rintro ⟨hShallow, hNames⟩
        refine ⟨?_, ?_, ?_⟩
        · rintro _ ⟨_, _, ⟨⟩⟩
        · rintro _ ⟨_, ⟨⟩⟩
          exact hShallow
        · rintro hLeft _ collections ⟨_, ⟨⟩⟩ hRead
          exact hNames hLeft collections hRead
      · rintro ⟨_, hShallow, hNames⟩
        refine ⟨hShallow payloads ⟨after, rfl⟩, ?_⟩
        intro hLeft collections hRead
        exact hNames hLeft payloads collections
          ⟨after, rfl⟩ hRead

/-
  A fetch ends with a result or an error of the server if
  and only if it gets to nothing that escapes. For the
  collections a number of pages that is none may escape, but
  not an infinite one; no tag of a field may be nested too
  deep, and the names of the collections of the system have
  to be texts if these are left out.
-/
theorem talks_end_properly_iff
    (levels : Nat)
    (client : Client)
    (session : Session) :
    (∀ pageSize,
      (client.fetch pageSize).EndsProperly session ↔
        ∀ cause, ¬ session.Meets cause) ∧
    ∀ includeSystem,
      (client.collections levels includeSystem).EndsProperly
          session ↔
        (∀ cause, session.Meets cause →
          ∃ misuse, cause = .misuse misuse ∧
            misuse.isHandled) ∧
        (∀ payloads, session.Delivers payloads →
          ¬ MeetsDeepTag levels (.list payloads)) ∧
        (includeSystem = false →
          ∀ payloads collections,
            session.Delivers payloads →
            readCollections levels (.list payloads) =
              .ok collections →
            NamesSystem collections) :=
  ⟨fun pageSize =>
      endsProperly_fetch_iff client pageSize session,
    fun includeSystem =>
      endsProperly_collections_iff levels client
        includeSystem session⟩

/-
  A name that is a number ends the first talk with a misuse,
  and a number of pages that is an object the second one.
-/
theorem talks_escape_from_bad_pages :
    let client : Client := ⟨"http://localhost", .int 30⟩
    let payload : Value := .object
      [("name", .int 5), ("fields", .list []),
        ("system", .bool true)]
    let listed : Value := .object
      [("items", .list [payload]), ("totalPages", .int 1)]
    let counted : Value := .object
      [("items", .list [payload]),
        ("totalPages", .object [("pages", .int 1)])]
    let session : Session :=
      { replies := [listed, counted].map fun document =>
          .response
            { status := 200, url := none
              document := .ok document }
        silence := "script exhausted" }
    ∃ next,
      (client.collections Machine.usual.tagLevels
          false).run session =
          .error (.misuse (.notText 0 .int)) next ∧
        ¬ (client.collections Machine.usual.tagLevels
          false).EndsProperly session ∧
        ¬ (client.fetch defaultPageSize).EndsProperly
          next := by
  intro client payload listed counted session
  have hRuns : ∃ next after,
      (client.collections Machine.usual.tagLevels
          false).run session =
          .error (.misuse (.notText 0 .int)) next ∧
        (client.fetch defaultPageSize).run next =
          .error (.misuse (.notNumber .object)) after :=
    ⟨_, _, rfl, rfl⟩
  rcases hRuns with ⟨next, after, hCollections, hFetch⟩
  refine ⟨next, hCollections, ?_, ?_⟩
  · rw [Talk.endsProperly_iff_of_error hCollections]
    rintro ⟨error, ⟨⟩⟩
  · rw [Talk.endsProperly_iff_of_error hFetch]
    rintro ⟨error, ⟨⟩⟩

end PocketDart
