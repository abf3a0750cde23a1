import Ingest.Load.Client
import Ingest.Store.StateReply
import Ingest.Host.Rotation

/-!
# What a load sends

A load sends requests of three kinds. The payload is put to the store, which may send it on to the
host that takes the rows. When that leaves open what became of the load, the store is asked for the
state of its label; and when rows were rejected, the store is asked for the log that says why.
-/

/-! ## Submitting a load

The payload is put to the store, which may send it on to the host that takes the rows. The redirects
are followed here, so that method, body, label and account reach every host on the way. -/

namespace Ingest.Load

open Http (Reply)

/-- How often a load may be sent on. The first attempt does not count, so there is one attempt
more. -/
def maxRedirects : Nat := 10

/-- The address that a load of a table is put to. The names are put into it as they are, without
escapes: a slash in one of them begins another part of the path. -/
def submitAddress (host database table : String) : String :=
  host ++ "/api/" ++ database ++ "/" ++ table ++ "/_stream_load"

/-- An address of the store, from its text. If it is none, the failure blames the entry of the host
and shows the text it is given for it. -/
def storeUrl (text shown : String) : Except Failure Url :=
  match Url.parse text with
  | .ok u => .ok u
  | .error f => .error (.settings (.invalid .hosts (.address shown f)))

/-- Where a reply sends the load on to: its location, which may be relative, against the address
that was asked. -/
def redirectTarget (url : Url) (r : Reply) : Except Failure Url :=
  match r.location? with
  | none => .error (.reply (.noLocation r.status) none)
  | some location =>
    match url.join location with
    | .ok u => .ok u
    | .error f => .error (.reply (.badLocation location f) none)

/-- **Puts a payload**, at most `n` times, until a reply does not send it on. Each attempt is a
request of its own to the new address, with the same label, payload and account. When all attempts
are used up the failure says how many redirects are allowed. -/
def chase (c : Client) (label : String) (payload : Bytes) :
    Nat → Url → Talk (Except Failure Reply)
  | 0, _ => .done (.error (.reply (.tooManyRedirects maxRedirects) none))
  | n + 1, url =>
    (exchange (putRequest c url label payload)).bind fun
      | .error f => .done (.error (.transport f))
      | .ok r =>
        if Http.isRedirect r.status then
          match redirectTarget url r with
          | .error f => .done (.error f)
          | .ok next => chase c label payload n next
        else .done (.ok r)

/-- **The response in the reply to a load.** Only a success with a text in it can hold one;
everything else is a failure, with the text of the reply if there is any. -/
def responseOf (r : Reply) : Except Failure Response :=
  match content r with
  | .error f => .error (.transport f)
  | .ok (.text body) => Response.read body
  | .ok (.refused status body) => .error (.reply (.refused status) (some body))
  | .ok .nothing => .error (.reply .noResult none)

/-- **Submits a payload** to a host, which may send it on. The last reply is read as the
response. -/
def submit (c : Client) (host database table label : String) (payload : Bytes) :
    Talk (Except Failure Response) :=
  let address := submitAddress host database table
  match storeUrl address address with
  | .error f => .done (.error f)
  | .ok url =>
    (chase c label payload (maxRedirects + 1) url).bind fun
      | .error f => .done (.error f)
      | .ok r => .done (responseOf r)

/-! ## Asking for the state of a label

The state is believed only when a reply of success tells it. Every other reply says nothing about
the label. -/

open Http (Reply)

/-- The address that tells the states of labels. The label is not in it: it is appended to the
query, with escapes. -/
def stateAddress (host database : String) : String :=
  host ++ "/api/" ++ database ++ "/get_load_state"

/-- **The state of a label in a reply.** A reply that tells none is a failure and not an unknown
state, so that nothing is said of the label where the store did not say it. -/
def stateOf (label : String) (r : Reply) : Except Failure LabelState :=
  match content r with
  | .error f => .error (.transport f)
  | .ok (.text body) =>
    match StateReply.ofText? body with
    | some name => .ok (LabelState.ofName name)
    | none => .error (.reply (.noState label) (some body))
  | .ok (.refused _ body) => .error (.reply (.noState label) (some body))
  | .ok .nothing => .error (.reply (.noState label) none)

/-- **Asks a host for the state of a label**, once. Redirects are not followed here. -/
def queryState (c : Client) (host database label : String) : Talk (Except Failure LabelState) :=
  match storeUrl (stateAddress host database) host with
  | .error f => .done (.error f)
  | .ok url =>
    (exchange (stateRequest c (url.appendPair "label" label))).bind fun
      | .error f => .done (.error (.transport f))
      | .ok r => .done (stateOf label r)

/-! ## The log of rejected rows

The store puts the log of rejected rows somewhere and says where. Fetching it never fails: what goes
wrong on the way is itself the log. -/

def logLength : Nat := 3000

/-- The beginning of a text, by characters and not by bytes, so that no character is cut in two. -/
def cutText (n : Nat) (s : String) : String := String.ofList (s.toList.take n)

def failedLog (f : Http.Fault) : String := "Failed to get error log: " ++ f.message

/-- The log in a reply. A reply of another status than success has none, and an empty one has none
either; one that breaks off says so in place of the log. -/
def logOf (r : Http.Reply) : Option String :=
  match content r with
  | .error f => some (failedLog f)
  | .ok (.text body) => some (cutText logLength body)
  | .ok _ => none

/-- The request for the log at an address. An address that cannot be read makes no request. -/
def logRequestAt (c : Client) (address : String) : Except Http.Fault Http.Request :=
  match Url.parse address with
  | .ok url => logRequest c url
  | .error _ => .error .unusable

/-- **Fetches a log** from an address of the web. This cannot fail: what goes wrong on the way is
the log that is given, and for any other address there is none. -/
def fetchLog (c : Client) (address : String) : Talk (Option String) :=
  if HostEntry.startsWith "http".toList address.toList then
    (exchange (logRequestAt c address)).bind fun
      | .error f => .done (some (failedLog f))
      | .ok r => .done (logOf r)
  else .done none

end Ingest.Load
