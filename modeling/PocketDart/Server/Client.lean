import PocketDart.Server.Exchange

/-
  This file defines what the program asks of a server: a
  token for its credentials, and the collections, which come
  in pages.

  Key definitions include:
    * `Client`
    * `Client.connect`
    * `Client.authenticate`
    * `Client.fetch`
    * `Client.collections`
-/

------------------------------------------------------------
-- Clients
------------------------------------------------------------

namespace PocketDart

/- A server, and how long to wait for it, in seconds. -/
structure Client where
  domain : String
  timeout : Value

namespace Client

/- The usual time to wait. -/
def defaultTimeout : Value := .int 30

/- The client of a server with a usable address. -/
def connect
    (domain : String)
    (timeout : Value) : Except AddressError Client := do
  Address.check domain
  return ⟨Address.withoutSlashes domain, timeout⟩

/- Where credentials are exchanged for a token. -/
def authenticationPath : String :=
  "/api/collections/_superusers/auth-with-password"

/- The same on servers of older versions. -/
def olderAuthenticationPath : String :=
  "/api/admins/auth-with-password"

def collectionsPath : String := "/api/collections"

/- A request with the token of the session. -/
def request
    (client : Client)
    (path : String)
    (payload : Payload) : Talk Request := do
  return ⟨client.domain ++ path, (← get).token,
    client.timeout, payload⟩

------------------------------------------------------------
-- Authentication
------------------------------------------------------------

/- The token in the answer to credentials. -/
def tokenOf? (document : Value) : Option Value :=
  (document.get? "token").filter Value.truthy

/-
  Send credentials. A server that does not know the place is
  asked once more at the older one.
-/
def sendCredentials
    (client : Client)
    (email password : Value) :
    Talk (Request × Response) := do
  let payload := .credentials email password
  let request ← client.request authenticationPath payload
  let response ← Talk.send request
  if response.status = 404 then
    Talk.log .debug
      "Superuser endpoint missing, trying legacy admin auth"
    let request ←
      client.request olderAuthenticationPath payload
    return (request, ← Talk.send request)
  else return (request, response)

/- Exchange credentials for a token, and keep the token. -/
def authenticate
    (client : Client)
    (email password : Value) : Talk Value := do
  let (request, response) ←
    client.sendCredentials email password
  match tokenOf? (← Talk.document request response) with
  | none => Talk.fail .noToken
  | some token =>
      modify fun session => { session with token }
      Talk.log .info
        ("Authenticated with " ++ client.domain ++ " as " ++
          email.display)
      return token

------------------------------------------------------------
-- Pages
------------------------------------------------------------

/- A page of collections and the number of all pages. -/
structure Page where
  items : List Value
  total : Int

/- Whether no page is asked for after this one. -/
def Page.isLast
    (page : Page)
    (number : Nat) : Bool :=
  page.total ≤ number || page.items.isEmpty

def pageItems? (document : Value) : Option (List Value) :=
  match document.get? "items" with
  | some (.list items) => some items
  | _ => none

/- The number of all pages that a document tells. -/
def totalPages (document : Value) : Except Misuse Int :=
  (Value.orElse (document.get? "totalPages")
    (.int 1)).toNumber

def fetchPage
    (client : Client)
    (pageSize : Value)
    (number : Nat) : Talk Page := do
  let request ←
    client.request collectionsPath (.page number pageSize)
  let document ←
    Talk.document request (← Talk.send request)
  match pageItems? document with
  | none => Talk.fail .notPage
  | some items =>
      match totalPages document with
      | .error cause => throw (.misuse cause)
      | .ok total =>
          Talk.log .debug
            ("Fetched collections page " ++
              toString number ++ "/" ++ toString total)
          return ⟨items, total⟩

/-
  Fetch a page and those after it. The bound is the number
  of replies to come: without one, fetching a page fails.
-/
def fetchFrom
    (client : Client)
    (pageSize : Value) :
    (bound : Nat) → (number : Nat) → Talk (List Value)
  | 0, number => do
      return (← client.fetchPage pageSize number).items
  | bound + 1, number => do
      let page ← client.fetchPage pageSize number
      if page.isLast number then return page.items
      else
        let rest ←
          fetchFrom client pageSize bound (number + 1)
        return page.items ++ rest

/- The usual number of collections on a page. -/
def defaultPageSize : Value := .int 200

/- Fetch the payloads of all collections. -/
def fetch
    (client : Client)
    (pageSize : Value) : Talk (List Value) := do
  let bound := (← get).replies.length
  let items ← client.fetchFrom pageSize bound 1
  Talk.log .info
    ("Fetched " ++ toString items.length ++ " collections")
  return items

------------------------------------------------------------
-- Collections
------------------------------------------------------------

/- The fault of the server behind a misuse, if it is one. -/
def payloadError (cause : Misuse) : TalkError :=
  if cause.isHandled then
    .server (.malformed (.misuse cause))
  else .misuse cause

/-
  Fetch and read all collections, with so many levels for
  the tags of fields that are shown.
-/
def readAll
    (levels : Nat)
    (client : Client) : Talk (List Collection) := do
  let payloads ←
    tryCatch (client.fetch defaultPageSize) fun
      | .misuse cause => throw (payloadError cause)
      | error => throw error
  match readCollections levels (.list payloads) with
  | .ok collections => return collections
  | .error (.misuse cause) => throw (payloadError cause)
  | .error fault => throw (.server (.malformed fault))

def dropSystem
    (collections : List Collection) :
    Talk (List Collection) := do
  let system := collections.filter Collection.system
  if !system.isEmpty then
    match Value.texts (system.map Collection.name) with
    | .ok names =>
        Talk.log .debug ("Skipping system collections: " ++
          ", ".intercalate names)
    | .error cause => throw (.misuse cause)
  return collections.filter fun c => !c.system

/- The collections of a server. -/
def collections
    (levels : Nat)
    (client : Client)
    (includeSystem : Bool) : Talk (List Collection) := do
  let collections ← client.readAll levels
  if includeSystem then return collections
  else dropSystem collections

end Client

end PocketDart
