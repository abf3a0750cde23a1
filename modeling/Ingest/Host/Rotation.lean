import Ingest.Text.Basic
import Ingest.Url.Parser
import Ingest.Dialogue

/-!
# Rotation

Loads take turns on the hosts. A cursor counts the probes made so far; every probe claims the next
slot of it, and the slot says which host is probed. A call stops at the first host that can be
connected to, and after as many probes as there are hosts. The cursor is never set back, so the next
call begins behind the host that was taken.

A host is entered as a name and a port, or as an address. Its entry is brought into the form of an
address first, which says where to connect to.
-/

/-! ## Host entries -/

namespace Ingest.HostEntry

def startsWith : List Char → List Char → Bool
  | [], _ => true
  | _ :: _, [] => false
  | c :: cs, d :: ds => c = d && startsWith cs ds

/-- **The address of an entry**: without blanks around it and slashes behind it. An entry that does
not begin like an address of the web is given a scheme. Only the four letters are looked at, so the
name of a host that begins with them is left without one. -/
def normalize (entry : String) : String :=
  let cs := dropEndWhile (· = '/') (trimBlanks entry.toList)
  if startsWith "http".toList cs then String.ofList cs else String.ofList ("http://".toList ++ cs)

/-- **Where to connect to** for an address: a name and a port. An address that cannot be read has no
target, nor has one without a host or with a scheme whose port is not known. -/
def target? (address : String) : Option (String × Nat) :=
  match Url.parse address with
  | .error _ => none
  | .ok u =>
    match u.host?, u.port? with
    | some h, some p => some (h.bare, p)
    | _, _ => none

end Ingest.HostEntry

/-! ## Taking turns -/

namespace Ingest

/-- **The hosts of the store**, as they were entered, and how long to wait for one. The cursor is
not here: it is with the partner, who gives out slots to all loads. -/
structure Rotation where
  hosts : List String
  wait : Duration
  deriving DecidableEq

namespace Rotation

/-- The address that a slot stands for. Slots are counted on without end and wrap at the end of a
word; the remainder is what chooses the host. -/
def address (r : Rotation) (slot : UInt64) : String :=
  HostEntry.normalize (r.hosts.getD (slot.toNat % r.hosts.length) "")

/-- Makes up to `n` probes, each with a slot of its own, and stops at the first host that can be
connected to. -/
def search (r : Rotation) : Nat → Talk (Option String)
  | 0 => .done none
  | n + 1 =>
    .ask .claim fun slot =>
      .ask (.probe (r.address slot) r.wait) fun reachable =>
        if reachable then .done (some (r.address slot)) else search r n

/-- **The next host that can be connected to**, within one turn of the rotation. Other calls may
take slots in between, so the probes of one call need not go to hosts in a row. -/
def next (r : Rotation) : Talk (Option String) := r.search r.hosts.length

end Rotation

end Ingest
