import Ingest.Command.Program
import Ingest.Host.Rotation
import Ingest.Http.Wire
import Std.Async.DNS
import Std.Async.TCP
import Std.Async.Timer

/-!
# The command line

Answers the questions of the program: files and input are read, names are drawn at random, hosts are
connected to and messages exchanged, and pauses are waited for. Requests travel unencrypted; one
that would have to be encrypted gets no reply.
-/

namespace Ingest.Terminal

open Std.Async Std.Async.TCP

/-! ## Files and names -/

/-- The number that the system gives a fault, if it gives one. It may come with its sign turned. -/
def numberOf : IO.Error → Option UInt32
  | .noFileOrDirectory _ code _ => some code
  | .permissionDenied _ code _ => some code
  | .inappropriateType _ code _ => some code
  | .invalidArgument _ code _ => some code
  | .resourceExhausted _ code _ => some code
  | .otherError code _ => some code
  | _ => none

/-- Why a file cannot be read. What has no wording of its own here keeps the one of the system. -/
def fileFault (e : IO.Error) : FileFault :=
  let known (code : UInt32) : Option FileFault :=
    (FileFault.ofNumber? code.toNat).or (FileFault.ofNumber? (-code).toNat)
  ((numberOf e).bind known).getD (.stated e.toString)

/-- Reads a file. -/
def readFile (path : String) : IO FileContents := do
  try
    return .ok (← IO.FS.readBinFile path).toList
  catch e =>
    return .error (fileFault e)

/-- Reads what is left in a stream. -/
partial def readAll (s : IO.FS.Stream) (read : ByteArray) : IO ByteArray := do
  let bs ← s.read 65536
  if bs.isEmpty then return read
  readAll s (read ++ bs)

/-- A name of random digits, in groups of 8, 4, 4, 4 and 12. Two of the digits are fixed: they say
that the others are random. -/
def nameOf (bs : List UInt8) : String :=
  let ds := bs.flatMap fun b => [b.toNat / 16, b.toNat % 16]
  let ds := (ds.set 12 4).set 16 (8 + ds.getD 16 0 % 4)
  let cs := ds.map Digit.lower
  let group (start size : Nat) : String := String.ofList ((cs.drop start).take size)
  "-".intercalate [group 0 8, group 8 4, group 12 4, group 16 4, group 20 12]

/-- Draws a name at random. -/
def freshName : IO String := return nameOf (← IO.getRandomBytes 16).toList

/-! ## Connections -/

/-- A length of time for a timer. -/
def timer (d : Duration) : Std.Time.Millisecond.Offset := ⟨d.millis⟩

/-- Does something unless it takes too long or fails. Either is nothing, and the caller does not
learn which it was. -/
def within {α : Type} (wait : Option Duration) (act : Async α) : Async (Option α) := do
  let attempt : Async (Option α) := do
    try return some (← act)
    catch _ => return none
  match wait with
  | none => attempt
  | some d =>
    Async.race attempt do
      sleep (timer d)
      return none

/-- Connects to the first place of a name that lets itself be connected to, in the order in which
they are given. -/
def connect (name : String) (port : Nat) : Async Socket.Client := do
  for ip in ← DNS.getAddrInfo name (toString port) do
    let client ← Socket.Client.mk
    let place : Std.Net.SocketAddress := match ip with
      | .v4 a => .v4 ⟨a, port.toUInt16⟩
      | .v6 a => .v6 ⟨a, port.toUInt16⟩
    try
      client.connect place
      return client
    catch _ => pure ()
  throw (IO.userError "no place of the name can be connected to")

/-- Whether a host can be connected to. The connection is not used for anything else. -/
def probe (address : String) (wait : Duration) : Async Bool := do
  match HostEntry.target? address with
  | none => return false
  | some (name, port) => return (← within (some wait) (connect name port)).isSome

def completed : Http.Wire.Arrival Http.Reply → Option Http.Reply
  | .complete r => some r
  | _ => none

/-- Receives a reply. -/
partial def receive (client : Socket.Client) (silence : Option Duration) (received : Bytes) :
    Async (Option Http.Reply) := do
  match (← within silence (client.recv? 65536)).join with
  | none => return completed (Http.Wire.decode true received)
  | some bs =>
    let received := received ++ bs.toList
    match Http.Wire.decode false received with
    | .complete r => return some r
    | .useless => return none
    | .unfinished => receive client silence received

/-- Sends a request and receives the reply. Every time limit that a request has is kept here. -/
def send (q : Http.Request) : Async (Option Http.Reply) := do
  if q.url.scheme ≠ "http" then return none
  match q.url.host?, q.url.port? with
  | some host, some port =>
    let exchange : Async (Option Http.Reply) := do
      let some client ← within (some q.patience.connect) (connect host.bare port) | return none
      let sent ← within q.patience.silence (client.send ⟨(Http.Wire.encode q).toArray⟩)
      if sent.isNone then return none
      let reply ← receive client q.patience.silence []
      let _ ← within none client.shutdown
      return reply
    return (← within q.patience.whole exchange).join
  | _, _ => return none

/-! ## The program -/

/-- Answers a question of a load. `slots` counts the slots that were claimed. -/
def answerMove (slots : IO.Ref UInt64) (q : Move) : IO q.Answer :=
  match q with
  | .claim => slots.modifyGet fun n => (n, n + 1)
  | .probe address wait => (probe address wait).block
  | .send request => (send request).block
  | .pause d => (sleep (timer d)).block

/-- Answers a question of the program. -/
def answer (slots : IO.Ref UInt64) (q : Command.Ask) : IO q.Answer :=
  match q with
  | .file path => readFile path
  | .input => do return (← readAll (← IO.getStdin) .empty).toList
  | .freshName => freshName
  | .load move => answerMove slots move

/-- Holds a dialogue. This is all there is to running the program: what to ask is decided in the
dialogue, and the answers are got here. -/
def converse {α : Type} (slots : IO.Ref UInt64) : Command.Session α → IO α
  | .done a => return a
  | .ask q next => do converse slots (next (← answer slots q))

end Ingest.Terminal

/-- Runs the program on the words of the command line. -/
def main (words : List String) : IO UInt32 := do
  let slots ← IO.mkRef 0
  let logDefault ← IO.getEnv "RUST_LOG"
  let ending ← Ingest.Terminal.converse slots (Ingest.Command.run words logDefault)
  let output ← IO.getStdout
  output.write ⟨ending.output.toArray⟩
  output.flush
  match ending.report with
  | some report => IO.eprintln report
  | none => if ending.code = 2 then IO.eprint Ingest.Command.usage
  return ending.code.toUInt32
