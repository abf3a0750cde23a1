import Ingest.Host.Rotation
import Ingest.Load.Requests
import Ingest.Load.Reconciliation
import Ingest.Payload

/-!
# Loads

One load is one attempt: a host is chosen, the payload is submitted, and the status of the response
decides what follows. A rejected load is diagnosed, a label that was used before is waited for, and
every other status is an outcome. Nothing is sent twice.
-/

namespace Ingest

/-- **The result of a load that the store took**, by its own word or by the state of its label. A
load that was rejected, or whose fate is unknown, is a failure. -/
structure Outcome where
  /-- The host that the payload was put to. -/
  host : String
  label : String
  response : Response
  /-- The state that the label was found in, if it was waited for. -/
  labelState : Option LabelState

namespace Outcome

def reconciled (o : Outcome) : Bool := o.labelState.isSome

/-- The outcome as it is written. The state of the label is left out if there was no waiting. -/
def toJson (o : Outcome) : Json :=
  .obj ([("host", .str o.host), ("label", .str o.label), ("response", o.response.toJson)] ++
    Response.member "label_state" (fun s : LabelState => .str s.name) o.labelState)

end Outcome

/-- **What delivers loads to the store.** It holds no state of its own: loads share the cursor of
the rotation, and that is kept outside. -/
structure Loader where
  rotation : Rotation
  client : Load.Client
  framing : Framing
  waiting : Waiting

namespace Loader

/-- The waiting for a label, from settings. A unit of zero is refused once more here, since the type
of a waiting has to be given a proof that it is not. -/
def waitingOf (s : Settings) : Except Settings.Fault Waiting := do
  let deadline ← s.labelTimeout
  if h : 0 < s.pollUnit.nanos then .ok ⟨deadline, s.pollUnit, h⟩
  else .error (.invalid .pollUnit .notPositive)

def settingsFailure {α : Type} : Except Settings.Fault α → Except Failure α
  | .ok a => .ok a
  | .error f => .error (.settings f)

/-- **The loader of settings**: they are checked, and every part is built from them. Only the client
can still fail behind the check. -/
def ofSettings (s : Settings) : Except Failure Loader := do
  settingsFailure s.check
  let waiting ← settingsFailure (waitingOf s)
  let client ← Load.Client.ofSettings s
  let framing ← settingsFailure s.framing
  .ok ⟨⟨s.hosts, s.connectTimeout⟩, client, framing, waiting⟩

/-- The payload of a batch. It is framed anew for each load, and is the same each time. -/
def payload (l : Loader) (b : Batch) : Bytes := l.framing.payload b.rows

/-- What follows from a response. A rejected load asks for the log of its rows, and a label in use
asks for its state; in both cases the host is the one that was submitted to. Any other status, a
word that is not known included, is taken as success. -/
def conclude (l : Loader) (host : String) (b : Batch) (r : Response) :
    Talk (Except Failure Outcome) :=
  match r.status with
  | .fail =>
    match r.errorUrl with
    | none => .done (.error (.rejected b.label r none))
    | some address =>
      (Load.fetchLog l.client address).bind fun log => .done (.error (.rejected b.label r log))
  | .labelAlreadyExists =>
    (l.waiting.reconcile b.label Talk.pause
      (Load.queryState l.client host b.database b.label)).bind fun
        | .error f => .done (.error f)
        | .ok state => .done (.ok ⟨host, b.label, r, some state⟩)
  | _ => .done (.ok ⟨host, b.label, r, none⟩)

/-- **One load**: a host is looked for, the payload is submitted, and the response is concluded
from. Each part is entered only if the one before came to something. -/
def load (l : Loader) (b : Batch) : Talk (Except Failure Outcome) :=
  l.rotation.next.bind fun
    | none => .done (.error (.noAvailableHost l.rotation.hosts))
    | some host =>
      (Load.submit l.client host b.database b.table b.label (l.payload b)).bind fun
        | .error f => .done (.error f)
        | .ok r => l.conclude host b r

/-! ## Cancellation -/

/-- **Those outside**: they answer until the loader is cancelled. A question that is left unanswered
because of it breaks the load off. -/
structure Outside (σ : Type) where
  partner : Dialogue.Partner Move.Answer σ
  isCancelled : σ → Bool

/-- What came of a load, with every move it has made and the state of those outside behind it. -/
structure Report (σ : Type) where
  result : Except Failure Outcome
  moves : List Move
  state : σ

/-- **Runs a load.** A loader that is cancelled makes no move, and a load that is broken off has
been cancelled. In either case the result is the same failure, and nothing is undone. -/
def runLoad {σ : Type} (l : Loader) (outside : Outside σ) (s : σ) (b : Batch) : Report σ :=
  if outside.isCancelled s then ⟨.error .cancelled, [], s⟩
  else
    let r := (l.load b).run outside.partner s
    ⟨r.result.getD (.error .cancelled), r.asked, r.state⟩

end Loader

end Ingest
