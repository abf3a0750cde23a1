import Ingest.Http.Message
import Ingest.Settings.Fault
import Ingest.Store.StateReply
import Ingest.Store.Response

/-!
# Why a load fails

A failure names its cause; the wording, the broad category and what the store itself said are
functions of it.
-/

namespace Ingest

/-- Why a reply of the store is of no use. Each reason keeps what its wording needs, and the body of
the reply is kept beside it in the failure. -/
inductive ReplyFault where
  /-- There is no result in the reply. -/
  | noResult
  /-- The reply has another status than the one for success. -/
  | refused (code : Nat)
  | response (fault : Response.Fault)
  /-- A reply that sends the load on does not say where. -/
  | noLocation (code : Nat)
  | badLocation (location : String) (fault : Url.Fault)
  /-- The load was sent on too often. -/
  | tooManyRedirects (limit : Nat)
  /-- The state of a label is not in the reply. -/
  | noState (label : String)
  /-- A fault in words of the caller's. -/
  | stated (text : String)

namespace ReplyFault

/-- The wording when there is no result. The same words stand for an empty reply, for one without a
status and, with the code, for a reply of another status than success. -/
def noResultText : String :=
  "unable to flush data: unknown result status, usually caused by: " ++
    "1. authorization or permission related problems " ++
    "2. wrong column_separator or row_delimiter " ++
    "3. column count exceeded the limitation"

/-- The wording of a fault. It is for people and is not read back by the program. -/
def message : ReplyFault → String
  | .noResult => noResultText
  | .refused code => noResultText ++ " (HTTP " ++ toString code ++ ")"
  | .response .notJson => "stream load response is not valid JSON"
  | .response .notObject => "stream load response is not a JSON object"
  | .response (.statusNotText v) => "stream load response has a non-string Status: " ++ v.compact
  | .response .noStatus => noResultText
  | .noLocation code =>
    "redirect " ++ toString code ++ " " ++ Http.redirectName code ++ " without a Location header"
  | .badLocation location fault =>
    "invalid redirect location " ++ Settings.backquoted location ++ ": " ++ fault.message
  | .tooManyRedirects limit => "stream load exceeded " ++ toString limit ++ " redirects"
  | .noState label => "could not get the final state of label[" ++ label ++ "]"
  | .stated text => text

end ReplyFault

/-- **Why a load fails.** There is one constructor for each place in a load where it can end badly,
and the loader passes a failure on as it is; nothing is wrapped in another failure. -/
inductive Failure where
  /-- No host could be connected to. -/
  | noAvailableHost (hosts : List String)
  /-- A request got no usable reply. -/
  | transport (fault : Http.Fault)
  /-- A reply is of no use; its text, if there was one. -/
  | reply (fault : ReplyFault) (body : Option String)
  /-- The store has rejected the load. -/
  | rejected (label : String) (response : Response) (errorLog : Option String)
  /-- The label stayed undecided for too long. -/
  | undecided (label : String) (last : Option LabelState) (waited : Duration)
  /-- The label ended in a state from which nothing comes. -/
  | lost (label : String) (state : LabelState)
  | cancelled
  /-- The loader could not be set up. -/
  | startup (reason : String)
  | settings (fault : Settings.Fault)
  /-- The time waited left the range of lengths of time. -/
  | clockOverflow

/-- **Reads the response in a text of the store.** A text that holds none is kept in the failure as
a whole, so that what the store has said is not lost with it. -/
def Response.read (body : String) : Except Failure Response :=
  match ofText body with
  | .ok r => .ok r
  | .error f => .error (.reply (.response f) (some body))

namespace Failure

/-- The broad categories of failures. A caller that wants to know whether to try again looks at the
category and need not know the reasons. -/
inductive Kind where
  | connectivity
  | transport
  | protocol
  | loadFailure
  | reconcileTimeout
  | reconcileFailure
  | cancelled
  | config
  | clock
  deriving DecidableEq, Repr

def kind : Failure → Kind
  | .noAvailableHost _ => .connectivity
  | .transport _ => .transport
  | .reply _ _ => .protocol
  | .rejected _ _ _ => .loadFailure
  | .undecided _ _ _ => .reconcileTimeout
  | .lost _ _ => .reconcileFailure
  | .cancelled => .cancelled
  | .startup _ => .config
  | .settings _ => .config
  | .clockOverflow => .clock

/-- Whether the fate of the label is sealed, so that there is no use in asking about it again. It is
when the store told an aborted or unknown state; every other failure leaves it open. -/
def isFinal : Failure → Bool
  | .lost _ _ => true
  | _ => false

/-- What the store sent, if it sent something. A response that could be read is told as it would be
written again, which loses no member of it. -/
def rawBody : Failure → Option String
  | .reply _ body => body
  | .rejected _ response _ => some response.text
  | _ => none

def errorLog : Failure → Option String
  | .rejected _ _ log => log
  | _ => none

/-- **The wording of a failure.** A rejected load names its label, the whole response and the log of
the rejected rows, since all three are needed to find the row at fault. -/
def message : Failure → String
  | .noAvailableHost hosts =>
    "none of the hosts in \x60load_urls\x60 could be connected: " ++ ", ".intercalate hosts
  | .transport fault => "HTTP request failed: " ++ fault.message
  | .reply fault _ => fault.message
  | .rejected label response log =>
    "failed to flush data, label: " ++ label ++ ", response: " ++ response.text ++
      ", error log: " ++ log.getD "none"
  | .undecided label last _ =>
    "could not get expected load state because of timeout, label: " ++ label ++
      ", current state: " ++ (last.map LabelState.name).getD "none"
  | .lost label state => "failed to flush data, label[" ++ label ++ "] state[" ++ state.name ++ "]"
  | .cancelled => "stream load cancelled"
  | .startup reason => "failed to initialize stream loader: " ++ reason
  | .settings fault => fault.message
  | .clockOverflow => "overflow when adding durations"

end Failure

end Ingest
