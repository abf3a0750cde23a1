import Ingest.Json.Parser
import Ingest.Json.Basic

/-!
# The response to a load

The store answers a load with a JSON object. Only its status, the word that says what became of the
rows, is required. Twelve members are known by name; one of them is taken out of the object when its
value has the type it should have, and everything else stays as it came. So nothing is lost: what is
written again is what was read.
-/

namespace Ingest

/-- The status of a load. A word that is not known is kept as it is, so that it is printed again as
the store has said it. -/
inductive LoadStatus where
  | success
  /-- The rows are in, but not yet to be seen. -/
  | publishTimeout
  | fail
  /-- The label was used before. -/
  | labelAlreadyExists
  | other (name : String)
  deriving DecidableEq, Repr

namespace LoadStatus

def name : LoadStatus → String
  | .success => "Success"
  | .publishTimeout => "Publish Timeout"
  | .fail => "Fail"
  | .labelAlreadyExists => "Label Already Exists"
  | .other s => s

/-- The status of a word. Together with the other direction this loses nothing: every word is the
word of its status. -/
def ofName : String → LoadStatus
  | "Success" => .success
  | "Publish Timeout" => .publishTimeout
  | "Fail" => .fail
  | "Label Already Exists" => .labelAlreadyExists
  | s => .other s

@[simp] theorem name_ofName (s : String) : (ofName s).name = s := by
  unfold ofName
  split <;> rfl

end LoadStatus

/-- **The response to a load.** Only the status is sure to be there. A member of a type that does
not fit is not among the fields and stands in the rest. -/
structure Response where
  status : LoadStatus
  txnId : Option Int64
  label : Option String
  message : Option String
  totalRows : Option UInt64
  loadedRows : Option UInt64
  filteredRows : Option UInt64
  unselectedRows : Option UInt64
  loadBytes : Option UInt64
  loadTimeMs : Option UInt64
  /-- Where the store has put the log of rejected rows. -/
  errorUrl : Option String
  /-- The state of the earlier load, when the label was used before. -/
  existingJob : Option String
  /-- Everything else. -/
  extra : Keyed Json

namespace Response

/-- Why a text is no response. The last two are about the status, the one member without which there
is none. -/
inductive Fault where
  | notJson
  | notObject
  | statusNotText (status : Json)
  | noStatus

/-- A signed number of 64 bits. A number beyond them, or one with a fraction, is no such number. -/
def asInt64 : Json → Option Int64
  | .int n =>
    if Int64.minValue.toInt ≤ n ∧ n ≤ Int64.maxValue.toInt then some (Int64.ofInt n) else none
  | _ => none

/-- A count of 64 bits. The store has no counts below zero, and one that it sends is not taken. -/
def asCount : Json → Option UInt64
  | .int n => if 0 ≤ n ∧ n < UInt64.size then some (UInt64.ofNat n.toNat) else none
  | _ => none

/-- **Takes a member out of an object** if it has the type asked for. Otherwise the object stays as
it was, member and all, and so the member ends up in the rest. -/
def take {α : Type} (reading : Json → Option α) (key : String) (m : Keyed Json) :
    Option α × Keyed Json :=
  match (Keyed.find? key m).bind reading with
  | some v => (some v, Keyed.erase key m)
  | none => (none, m)

/-- The response of an object that has its status already taken out. What is left when all known
members were looked for is the rest. -/
def ofRest (status : LoadStatus) (m : Keyed Json) : Response :=
  let (txnId, m) := take asInt64 "TxnId" m
  let (label, m) := take Json.text? "Label" m
  let (message, m) := take Json.text? "Message" m
  let (totalRows, m) := take asCount "NumberTotalRows" m
  let (loadedRows, m) := take asCount "NumberLoadedRows" m
  let (filteredRows, m) := take asCount "NumberFilteredRows" m
  let (unselectedRows, m) := take asCount "NumberUnselectedRows" m
  let (loadBytes, m) := take asCount "LoadBytes" m
  let (loadTimeMs, m) := take asCount "LoadTimeMs" m
  let (errorUrl, m) := take Json.text? "ErrorURL" m
  let (existingJob, m) := take Json.text? "ExistingJobStatus" m
  ⟨status, txnId, label, message, totalRows, loadedRows, filteredRows, unselectedRows, loadBytes,
    loadTimeMs, errorUrl, existingJob, m⟩

/-- **The response of an object.** A missing status and one that is no string are different
faults. -/
def ofObject (m : Keyed Json) : Except Fault Response :=
  match Keyed.find? "Status" m with
  | some (.str s) => .ok (ofRest (LoadStatus.ofName s) (Keyed.erase "Status" m))
  | some v => .error (.statusNotText v)
  | none => .error .noStatus

def ofJson : Json → Except Fault Response
  | .obj m => ofObject m
  | _ => .error .notObject

/-- **The response of a text**, which has to be a document of JSON and nothing else. -/
def ofText (body : String) : Except Fault Response :=
  match Json.ofText? body with
  | some v => ofJson v
  | none => .error .notJson

/-- The response that a value stands for where one is expected. No value at all counts as an object
without members, and fails like one: it has no status. -/
def decode : Json → Except Fault Response
  | .null => ofObject []
  | v => ofJson v

def decodeText (body : String) : Except Fault Response :=
  match Json.ofText? body with
  | some v => decode v
  | none => .error .notJson

/-! ## Writing -/

/-- A member that may be absent. An absent one is left out and not written as null. -/
def member {α : Type} (key : String) (toJson : α → Json) (v : Option α) : List (String × Json) :=
  match v with
  | some v => [(key, toJson v)]
  | none => []

def ofInt64 (n : Int64) : Json := .int n.toInt

def ofCount (n : UInt64) : Json := .int n.toNat

/-- **The members of a response**, the known ones first, in a fixed order, and then the rest by key.
No key stands twice, as the rest holds no known member that was taken. -/
def members (r : Response) : List (String × Json) :=
  ("Status", .str r.status.name) ::
    (member "TxnId" ofInt64 r.txnId ++
    member "Label" .str r.label ++
    member "Message" .str r.message ++
    member "NumberTotalRows" ofCount r.totalRows ++
    member "NumberLoadedRows" ofCount r.loadedRows ++
    member "NumberFilteredRows" ofCount r.filteredRows ++
    member "NumberUnselectedRows" ofCount r.unselectedRows ++
    member "LoadBytes" ofCount r.loadBytes ++
    member "LoadTimeMs" ofCount r.loadTimeMs ++
    member "ErrorURL" .str r.errorUrl ++
    member "ExistingJobStatus" .str r.existingJob ++
    r.extra)

def toJson (r : Response) : Json := .obj r.members

/-- The text of a response, in one line. It is what a failed load shows. -/
def text (r : Response) : String := r.toJson.compact

end Response

end Ingest
