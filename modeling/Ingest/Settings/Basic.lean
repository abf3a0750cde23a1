import Ingest.Keyed
import Ingest.Payload
import Ingest.Settings.Fault
import Ingest.Time

/-!
# Settings

Everything a loader has to know about the store: its hosts, the account, how long to wait, and the
properties that are sent with every load. Some settings are only fixed when they are used: the
format, the framing of rows and the time a label is given come from properties, and a text there
may turn out to be unusable. `check` looks at all of them at once.
-/

namespace Ingest

/-- **The settings of a loader**, as they were given. Times are in the units of the document, and
texts are kept as texts until they are used, so that settings can be written down that are of no
use. -/
structure Settings where
  /-- The hosts of the store, with or without a scheme. -/
  hosts : List String
  username : String
  password : String
  /-- The database for loads that name none. -/
  database : Option String
  /-- The target columns. -/
  columns : List String
  connectTimeoutMs : UInt64
  /-- The longest silence inside a reply. -/
  socketTimeoutMs : Option UInt64
  /-- What is sent with every load. -/
  properties : Keyed String
  /-- JSON rows already carry the array around them. -/
  wrappedRows : Bool
  /-- The table takes updates and deletions. -/
  upsertDelete : Bool
  /-- The store finds the operation of a JSON row by itself. -/
  storeFindsOperation : Bool
  /-- How long a label may stay undecided. -/
  labelTimeoutSecs : Option UInt64
  /-- The unit of the pauses between questions about a label. -/
  pollUnitMs : UInt64
  deriving DecidableEq, Repr

namespace Settings

/-- The settings before anything is said. They have no host, so a loader cannot be made of them. -/
def default : Settings where
  hosts := []
  username := "root"
  password := ""
  database := none
  columns := []
  connectTimeoutMs := 1000
  socketTimeoutMs := none
  properties := []
  wrappedRows := false
  upsertDelete := false
  storeFindsOperation := false
  labelTimeoutSecs := none
  pollUnitMs := 1000

def ofHosts (hosts : List String) : Settings := { default with hosts := hosts }

/-- The property under a key, which has to be spelled as it was given. Headers look at keys without
regard to case, and may find one where this finds none. -/
def property? (s : Settings) (key : String) : Option String := Keyed.find? key s.properties

def formatKey : String := "format"

def delimiterKey : String := "row_delimiter"

def timeoutKey : String := "timeout"

def columnsKey : String := "columns"

/-! ## What the settings say -/

/-- The format of a text. In the fault the text stands in lower case, as it was compared. -/
def readFormat (text : String) : Except Fault Format :=
  match Format.ofName? text with
  | some f => .ok f
  | none => .error (.invalid .format (.unknownFormat (lowerText text)))

/-- **The format of payloads**: separated values when nothing is said. -/
def format (s : Settings) : Except Fault Format :=
  match s.property? formatKey with
  | some text => readFormat text
  | none => .ok .csv

/-- The delimiter of rows: a line feed when nothing is said. It is read only where rows are
separated values. -/
def delimiter (s : Settings) : Except Fault Bytes :=
  match Delimiter.read (s.property? delimiterKey) Framing.defaultDelimiter with
  | .ok d => .ok d
  | .error f => .error (.invalid .rowDelimiter (.delimiter f))

/-- **The framing of payloads.** A delimiter that is of no use is no fault as long as payloads are
JSON. -/
def framing (s : Settings) : Except Fault Framing := do
  match ← s.format with
  | .csv => .ok (.csv (← s.delimiter))
  | .json => .ok (.json s.wrappedRows)

def defaultLabelTimeout : Duration := Duration.ofSecs 600

/-- **The time a label is given**: the setting for it, else the limit of a load, which stands among
the properties as a text. The setting may be zero, and the text may say zero too. -/
def labelTimeout (s : Settings) : Except Fault Duration :=
  match s.labelTimeoutSecs with
  | some n => .ok (Duration.ofSecs n)
  | none =>
    match s.property? timeoutKey with
    | none => .ok defaultLabelTimeout
    | some text =>
      match Numeral.read64 (trim text) with
      | .ok n => .ok (Duration.ofSecs (UInt64.ofNat n))
      | .error f => .error (.invalid .timeoutProperty (.numeral text f))

def connectTimeout (s : Settings) : Duration := Duration.ofMillis s.connectTimeoutMs

/-- The longest silence inside a reply. Without one, a reply that has begun is waited for without an
end. -/
def socketTimeout (s : Settings) : Option Duration := s.socketTimeoutMs.map Duration.ofMillis

def pollUnit (s : Settings) : Duration := Duration.ofMillis s.pollUnitMs

/-- An amount of time has to be positive. The three amounts in milliseconds are checked by this, and
the time of a label is not. -/
def checkPositive (field : Field) (n : UInt64) : Except Fault Unit :=
  if n = 0 then .error (.invalid field .notPositive) else .ok ()

/-- The hosts have to be there, and none may be blank. Whether one of them can be part of an address
is not asked. -/
def checkHosts (s : Settings) : Except Fault Unit :=
  if s.hosts.isEmpty then .error (.missing .hosts)
  else
    match s.hosts.find? blankText with
    | some entry => .error (.invalid .hosts (.blankHost entry))
    | none => .ok ()

/-- **Checks settings**, field by field; the first fault is the one reported. Headers are not looked
at, nor is the time of a label, beyond that it can be read. -/
def check (s : Settings) : Except Fault Unit := do
  s.checkHosts
  checkPositive .connectTimeout s.connectTimeoutMs
  match s.socketTimeoutMs with
  | some n => checkPositive .socketTimeout n
  | none => .ok ()
  checkPositive .pollUnit s.pollUnitMs
  let _ ← s.framing
  let _ ← s.labelTimeout
  .ok ()

/-! ## Changing settings -/

def withCredentials (s : Settings) (username password : String) : Settings :=
  { s with username := username, password := password }

/-- Sets a property, over one of the same key that was there. -/
def withProperty (s : Settings) (key value : String) : Settings :=
  { s with properties := Keyed.insert key value s.properties }

def withFormat (s : Settings) (f : Format) : Settings := s.withProperty formatKey f.name

def withColumns (s : Settings) (columns : List String) : Settings := { s with columns := columns }

/-- The milliseconds of a length of time, in 64 bits: longer ones lose their high bits. So a time
that is not zero may be set to zero, or a long one to a short one. -/
def millis64 (d : Duration) : UInt64 := UInt64.ofNat d.millis

/-- Sets how long to wait for a connection, in whole milliseconds. -/
def withConnectTimeout (s : Settings) (d : Duration) : Settings :=
  { s with connectTimeoutMs := millis64 d }

/-- Sets the longest silence inside a reply, in whole milliseconds. -/
def withSocketTimeout (s : Settings) (d : Duration) : Settings :=
  { s with socketTimeoutMs := some (millis64 d) }

/-- Sets the time a label is given, in whole seconds. Less than a second leaves it none, and then
its state is never asked for. -/
def withLabelTimeout (s : Settings) (d : Duration) : Settings :=
  { s with labelTimeoutSecs := some (UInt64.ofNat d.secs) }

/-- Sets the unit of the pauses between questions about a label, in whole milliseconds. -/
def withPollUnit (s : Settings) (d : Duration) : Settings := { s with pollUnitMs := millis64 d }

end Settings

end Ingest
