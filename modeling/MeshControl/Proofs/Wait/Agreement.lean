import MeshControl.Proofs.Daemon.Report
import MeshControl.Proofs.Wait.Hosts

/-!
# What agreeing snapshots say

Whatever is asked of a snapshot is answered from its addresses by value and from its tables by name.
So snapshots that agree answer alike: each condition has one verdict, with one hint, and a question
about an address finds the same names and the same place in the list of peers, by whichever spelling it
is asked (`agreement_congruence`).
-/

namespace MeshControl.Wait.Condition

open MeshControl.Address MeshControl.Daemon MeshControl.Text

variable {a b : Snapshot}

/-! ### Parts of a snapshot -/

/-- Whether the base server is reached depends on the kind of connection. -/
theorem isConnected_eq {p q : BaseConnection} (h : p.canonical = q.canonical) :
    p.isUdp = q.isUdp ∧ p.isConnected = q.isConnected := by
  have hkind : p.kind = q.kind := congrArg CanonicalBase.kind h
  unfold BaseConnection.isConnected BaseConnection.isUdp BaseConnection.isTcp
  rw [hkind]
  exact ⟨rfl, rfl⟩

theorem isConnectedTo_eq (h : a.canonical = b.canonical) (element : String) :
    a.isConnectedTo element = b.isConnectedTo element := by
  have hconnections : a.connections.get? = b.connections.get? :=
    congrArg CanonicalSnapshot.connections h
  rw [Snapshot.isConnectedTo, Snapshot.isConnectedTo, hconnections]

/-- A name has one address in both host tables. -/
theorem hosts_alike (h : a.canonical = b.canonical) (name : String) :
    (a.hosts.get? name).map Canonical.ofText = (b.hosts.get? name).map Canonical.ofText :=
  congrFun (congrArg CanonicalSnapshot.hosts h) name

theorem contains_eq (h : a.canonical = b.canonical) (name : String) :
    a.hosts.contains name = b.hosts.contains name := by
  have hname := congrArg Option.isSome (hosts_alike h name)
  rwa [Option.isSome_map, Option.isSome_map] at hname

theorem size_hosts_eq (h : a.canonical = b.canonical) : a.hosts.size = b.hosts.size := by
  have hagree : a.hosts.agree same b.hosts = true :=
    agree_same_iff.mpr (congrArg CanonicalSnapshot.hosts h)
  exact (NameMap.agree_iff_entries.mp hagree).1

/-- A target stands for one address in both snapshots, or for none in either. -/
theorem hostAddress?_alike (h : a.canonical = b.canonical) (target : String) :
    (hostAddress? a target).map Canonical.ofText = (hostAddress? b target).map Canonical.ofText := by
  have hentry := hosts_alike h target
  unfold hostAddress?
  cases ha : a.hosts.get? target with
  | some u =>
    rw [ha, Option.map_some] at hentry
    obtain ⟨v, hb, huv⟩ := Option.map_eq_some_iff.mp hentry.symm
    rw [hb]
    exact congrArg some huv.symm
  | none =>
    rw [ha, Option.map_none] at hentry
    rw [Option.map_eq_none_iff.mp hentry.symm]

/-! ### Conditions -/

/-- **One verdict.** A condition says the same of snapshots that are the same by value. -/
theorem check_eq (h : a.canonical = b.canonical) (c : Condition) : c.check a = c.check b := by
  have hbase := isConnected_eq (congrArg CanonicalSnapshot.base h)
  cases c with
  | daemonReachable => rfl
  | baseAny => exact congrArg Verdict.ofBool hbase.2
  | baseUdp => exact congrArg Verdict.ofBool hbase.1
  | websetup => exact congrArg Verdict.ofBool (isConnectedTo_eq h "websetup")
  | joined => exact congrArg Verdict.ofBool (congrArg CanonicalSnapshot.isJoined h)
  | host target =>
    exact hostVerdict_congr (size_hosts_eq h) (hostAddress?_alike h (trimmed target))
      (congrArg CanonicalSnapshot.peers h)
  | hostnames names =>
    show hostnamesVerdict a names = hostnamesVerdict b names
    unfold hostnamesVerdict
    simp only [contains_eq h]

/-- **Snapshots that agree answer alike.** Each condition has one verdict on both, hint included, and
the same parts of the network are connected.  Two spellings of an address have the same names, in their
order and each of them once: those at which the host table has the address.  And they have no peer in
either snapshot, or their first peers stand at one place of the lists. -/
theorem agreement_congruence :
    ∀ a b : Snapshot, a.agree b = true →
      (∀ c : Condition, c.check a = c.check b) ∧
      (∀ element, a.isConnectedTo element = b.isConnectedTo element) ∧
      ∀ x y, same x y = true →
        a.hostnamesFor x = b.hostnamesFor y ∧ (a.hostnamesFor x).Pairwise (· < ·) ∧
        (∀ name, name ∈ a.hostnamesFor x ↔
          ∃ value, a.hosts.get? name = some value ∧ same value x = true) ∧
        ((a.peerAt? x = none ∧ b.peerAt? y = none) ∨ ∃ place p q, a.peerAt? x = some p ∧
          b.peerAt? y = some q ∧ a.FirstPeer x place p ∧ b.FirstPeer y place q ∧
          p.canonical = q.canonical) := by
  intro a b hagree
  have h := Snapshot.agree_iff.mp hagree
  refine ⟨check_eq h, isConnectedTo_eq h, fun x y hsame => ?_⟩
  have hvalue := same_iff.mp hsame
  exact ⟨hostnamesFor_eq (hosts_alike h) hvalue, pairwise_hostnamesFor a x,
    fun name => mem_hostnamesFor_iff, peerAt?_alike (congrArg CanonicalSnapshot.peers h) hvalue⟩

/-- A host is found under another spelling in a snapshot with other spellings. -/
theorem agreement_congruence_twoHosts :
    twoHosts.agree twoHostsLater = true ∧ same "fc94::2" " FC94:0:0::0002" = true ∧
    (host "beta").check twoHostsLater = ⟨false, "secure connection has not yet been established"⟩ ∧
    twoHostsLater.hostnamesFor " FC94:0:0::0002" = ["beta"] ∧
    ∃ q, twoHostsLater.peerAt? " FC94:0:0::0002" = some q := by
  have hagree : twoHosts.agree twoHostsLater = true := by decide +kernel
  have hsame : same "fc94::2" " FC94:0:0::0002" = true := by decide +kernel
  obtain ⟨hcheck, _, hquestions⟩ := agreement_congruence _ _ hagree
  obtain ⟨hnames, _, _, hpeers⟩ := hquestions _ _ hsame
  refine ⟨hagree, hsame, ?_, ?_, ?_⟩
  · rw [← hcheck]
    decide +kernel
  · rw [← hnames]
    decide +kernel
  · have hpeer : (twoHosts.peerAt? "fc94::2").isSome = true := by decide +kernel
    rcases hpeers with ⟨hnone, _⟩ | ⟨_, _, q, _, hq, _⟩
    · rw [hnone] at hpeer
      cases hpeer
    · exact ⟨q, hq⟩

end MeshControl.Wait.Condition
