import Ingest.Failure
import Ingest.Load.Headers
import Ingest.Dialogue
import Ingest.Url.Basic
import Ingest.Url.Parser

/-!
# The client

What all requests to the store have in common: the account, the headers of a load and how long to
wait. A request is put together in steps, each of which may find a part of no use; the first fault
is the one reported.
-/

namespace Ingest.Load

open Http (Headers Request Reply)

/-- **What requests to the store have in common.** It is made once, from settings that were checked,
and is the same for all loads of a loader. -/
structure Client where
  username : String
  password : String
  /-- The headers of every load. -/
  headers : Headers
  connectTimeout : Duration
  socketTimeout : Option Duration
  deriving DecidableEq

def defaultLogTimeout : Duration := Duration.ofSecs 30

namespace Client

/-- **The client of settings.** It can fail although the settings were checked: whether a property
can be a header is found out here. -/
def ofSettings (s : Settings) : Except Failure Client :=
  match Load.headers s with
  | .ok hs => .ok ⟨s.username, s.password, hs, s.connectTimeout, s.socketTimeout⟩
  | .error f => .error (.settings f)

/-- The header value with the account. It is sent with every request to the store, and with none for
a log. -/
def credentials (c : Client) : Bytes :=
  Http.basicCredentials (Bytes.ofText c.username) (Bytes.ofText c.password)

/-- How long to wait in an exchange with the store. There is no limit for the whole, as a payload
may take any time to be read. -/
def patience (c : Client) : Http.Patience := ⟨c.connectTimeout, c.socketTimeout, none⟩

/-- How long to wait for a log. The whole exchange is limited here, since it only serves a
diagnosis. -/
def logPatience (c : Client) : Http.Patience :=
  ⟨c.connectTimeout, c.socketTimeout, some (c.socketTimeout.getD defaultLogTimeout)⟩

end Client

/-- The value of the label's header. A label may be any text, and not every text can be the value of
a field. -/
def labelValue (label : String) : Except Http.Fault Bytes :=
  match Http.fieldValue? label with
  | some v => .ok v
  | none => .error .unusable

/-- An address that has a host at all. It is passed on unchanged; this is the first of the checks on
the way to a request. -/
def withHost (url : Url) : Except Http.Fault Url :=
  if url.host?.isSome then .ok url else .error (.unusableUrl url)

def sendable (url : Url) : Except Http.Fault Unit :=
  if Http.isReachable url then .ok () else .error (.unusableUrl url)

/-- **The request that puts a payload.** The account of the address comes first, unless a property
takes its place; label and account of the client are added to what is there. Added fields do not
replace others, so a property named like one of the two leaves a request with two fields of that
name. -/
def putRequest (c : Client) (url : Url) (label : String) (payload : Bytes) :
    Except Http.Fault Request := do
  let url ← withHost url
  let (url, own) := Http.takeCredentials url
  let label ← labelValue label
  sendable url
  let hs := Headers.setAll c.headers (Http.credentialHeaders own)
  let hs := (hs.append "label" label).append Http.authorization c.credentials
  .ok ⟨.put, url, hs, payload, c.patience⟩

/-- **The request that asks for the state of a label.** The connection is not kept for the next
one. -/
def stateRequest (c : Client) (url : Url) : Except Http.Fault Request := do
  let url ← withHost url
  let (url, own) := Http.takeCredentials url
  sendable url
  let hs := (Http.credentialHeaders own).append Http.authorization c.credentials
  .ok ⟨.get, url, hs.append "connection" (Bytes.ofText "close"), [], c.patience⟩

/-- **The request for a log.** It goes wherever the store has said, so the account of the client is
left out. -/
def logRequest (c : Client) (url : Url) : Except Http.Fault Request := do
  let url ← withHost url
  let (url, own) := Http.takeCredentials url
  sendable url
  .ok ⟨.get, url, Http.credentialHeaders own, [], c.logPatience⟩

/-! ## Replies -/

/-- Sends a request that could be put together. One that could not ends the exchange before anything
is sent, with the fault that was found first. -/
def exchange (request : Except Http.Fault Request) : Talk (Except Http.Fault Reply) :=
  match request with
  | .error f => .done (.error f)
  | .ok q =>
    (Talk.send q).bind fun
      | some r => .done (.ok r)
      | none => .done (.error (.unanswered q.url))

/-- What is in a reply: a text, another status with its text, or nothing at all. The three kinds of
requests make different things of each. -/
inductive Content where
  | text (body : String)
  | refused (status : Nat) (body : String)
  | nothing
  deriving DecidableEq, Repr

/-- **The content of a reply**, whatever request it answers. A body that is no text is read with
replacements, and one that broke off is a fault. -/
def content (r : Reply) : Except Http.Fault Content :=
  match r.body with
  | none => .error .brokenBody
  | some bs =>
    let body := Utf8.decodeLossy bs
    if r.status ≠ 200 then .ok (.refused r.status body)
    else if body = "" then .ok .nothing
    else .ok (.text body)

end Ingest.Load
