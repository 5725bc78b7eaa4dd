import MeshControl.Daemon.Snapshot.Basic
import MeshControl.Text.Blank
import MeshControl.Text.Quoted

/-!
# What can be waited for

A condition is a question about a snapshot that is answered by yes or by no with a hint at what is
still missing.  A connection to a host goes through five stages, from a host table with at least two
entries to a secure connection, and the hint names the first stage that is not reached.
-/

namespace MeshControl.Wait

open MeshControl.Address MeshControl.Daemon MeshControl.Text

/-- The answer of a condition. -/
structure Verdict where
  isDone : Bool
  hint : String
  deriving DecidableEq, Repr, Inhabited

namespace Verdict

/-- There is nothing left to wait for. -/
def done : Verdict := ⟨true, ""⟩

/-- There is something missing. -/
def pending (hint : String) : Verdict := ⟨false, hint⟩

/-- A plain yes or no. -/
def ofBool (b : Bool) : Verdict := ⟨b, ""⟩

end Verdict

/-- What can be waited for. -/
inductive Condition where
  /-- The daemon answers. -/
  | daemonReachable
  /-- The base server is reached. -/
  | baseAny
  /-- The base server is reached over UDP. -/
  | baseUdp
  | websetup
  | joined
  /-- There is a secure connection to a host, given by name or address. -/
  | host (target : String)
  /-- All these names are in the host table. -/
  | hostnames (names : List String)
  deriving DecidableEq, Repr

namespace Condition

/-- What is said while waiting for a condition. -/
def description : Condition → String
  | daemonReachable => "Waiting until we can communicate with the daemon…"
  | baseAny => "Waiting for Base server connection (any protocol)…"
  | baseUdp => "Waiting for Base server connection (UDP)…"
  | websetup => "Waiting for websetup connection…"
  | joined => "Waiting until the device is joined…"
  | host target => "Waiting until there's a connection to " ++ trimmed target ++ "…"
  | hostnames names =>
    "Waiting until the following hostnames are known: " ++ ", ".intercalate names ++ "…"

/-! ### The stages of a connection -/

/-- The address of a host: what the host table says, and the target itself if it is an address. -/
def hostAddress? (s : Snapshot) (target : String) : Option String :=
  match s.hosts.get? target with
  | some address => some address
  | none => if (Ip.ofText? target).isSome then some target else none

/-- The first stage of a connection that is not reached. -/
def hostVerdict (s : Snapshot) (target : String) : Verdict :=
  if s.hosts.size < 2 then .pending "not enough hosts in the host table yet"
  else
    match (hostAddress? s target).filter (!isUnspecified ·) with
    | none => .pending "peer addr is not known yet"
    | some address =>
      match s.peerAt? address with
      | none => .pending "unable to find peer in the peer list"
      | some peer =>
        if !peer.isActive then .pending "peer is not active yet"
        else if !peer.isSecure then .pending "secure connection has not yet been established"
        else .done

/-- The first name that is missing. -/
def hostnamesVerdict (s : Snapshot) (names : List String) : Verdict :=
  match names.find? fun name => !s.hosts.contains name with
  | some missing => .pending (missing ++ " is unavailable")
  | none => .done

/-- What a condition says of a snapshot. -/
def check (c : Condition) (s : Snapshot) : Verdict :=
  match c with
  | daemonReachable => .done
  | baseAny => .ofBool s.base.isConnected
  | baseUdp => .ofBool s.base.isUdp
  | websetup => .ofBool (s.isConnectedTo "websetup")
  | joined => .ofBool s.isJoined
  | host target => hostVerdict s (trimmed target)
  | hostnames names => hostnamesVerdict s names

/-! ### Several in a row -/

/-- Enough connectivity to join a network or to be claimed. -/
def joinable : List Condition := [baseAny, websetup]

/-- All that the daemon can be expected to reach. -/
def bestEffort : List Condition := [baseAny, baseUdp, websetup]

/-- What has to come true after a join request. -/
def afterJoin : List Condition := [baseAny, websetup, joined]

end Condition

/-- A condition with a description, as diagnostics show it. -/
def outline (description : String) : String :=
  "WaitCondition \x7b description: " ++ quoted description ++ ", .. \x7d"

end MeshControl.Wait
