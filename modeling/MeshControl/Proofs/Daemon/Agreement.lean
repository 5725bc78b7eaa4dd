import MeshControl.Daemon.Snapshot.Agreement
import MeshControl.Proofs.NameMap

/-!
# Agreement is equality by value

Two snapshots agree if and only if their views by value are equal (`Snapshot.agree_iff`), which
makes agreement an equivalence, and if and only if no field of one differs in value from that field
of the other (`Snapshot.agree_eq_false_iff`).  The proof goes along the records: base connections
and peers, lists position by position, tables name by name.
-/

namespace MeshControl

/-- Exact agreement of maps is equality at every name. -/
theorem NameMap.agree_beq_iff {α : Type} [BEq α] [LawfulBEq α] {m n : NameMap α} :
    m.agree (· == ·) n = true ↔ m.get? = n.get? := by
  have hid : ∀ x y : α, (x == y) = true ↔ id x = id y := fun x y => beq_iff_eq
  rw [NameMap.agree_iff hid, funext_iff]
  simp only [Option.map_id, id]

/-- Maps are equal if they have equal values at each name. -/
theorem NameMap.beq_iff {α : Type} [BEq α] [LawfulBEq α] {m n : NameMap α} :
    (m == n) = true ↔ m.get? = n.get? :=
  NameMap.agree_beq_iff

end MeshControl

namespace MeshControl.Daemon

open MeshControl.Address

/-- Lists agree position by position if they look the same. -/
theorem agreeLists_iff {α β : Type} {related : α → α → Bool} {f : α → β}
    (hrelated : ∀ x y, related x y = true ↔ f x = f y) (xs ys : List α) :
    agreeLists related xs ys = true ↔ xs.map f = ys.map f := by
  induction xs generalizing ys with
  | nil =>
    cases ys with
    | nil => simp [agreeLists]
    | cons y ys => simp [agreeLists]
  | cons x xs ih =>
    cases ys with
    | nil => simp [agreeLists]
    | cons y ys =>
      rw [agreeLists, Bool.and_eq_true, hrelated, ih, List.map_cons, List.map_cons, List.cons.injEq]

theorem agreeLists_same_iff {xs ys : List String} :
    agreeLists same xs ys = true ↔ xs.map Canonical.ofText = ys.map Canonical.ofText := by
  have hsame : ∀ x y, same x y = true ↔ Canonical.ofText x = Canonical.ofText y :=
    fun x y => same_iff
  exact agreeLists_iff hsame xs ys

/-- Tables of addresses agree if each name has the same address by value. -/
theorem agree_same_iff {m n : NameMap String} :
    m.agree same n = true ↔
      (fun name => (m.get? name).map Canonical.ofText) =
        fun name => (n.get? name).map Canonical.ofText := by
  have hsame : ∀ x y, same x y = true ↔ Canonical.ofText x = Canonical.ofText y :=
    fun x y => same_iff
  rw [NameMap.agree_iff hsame, funext_iff]

theorem BaseConnection.agree_iff {a b : BaseConnection} :
    a.agree b = true ↔ a.canonical = b.canonical := by
  unfold agree canonical
  rw [CanonicalBase.mk.injEq, Bool.and_eq_true, Bool.and_eq_true, beq_iff_eq, beq_iff_eq, same_iff]
  constructor
  · rintro ⟨⟨hport, hkind⟩, haddress⟩
    exact ⟨haddress, hport, hkind⟩
  · rintro ⟨haddress, hport, hkind⟩
    exact ⟨⟨hport, hkind⟩, haddress⟩

theorem Peer.agree_iff {a b : Peer} : a.agree b = true ↔ a.canonical = b.canonical := by
  unfold agree canonical
  rw [CanonicalPeer.mk.injEq]
  simp only [Bool.and_eq_true, beq_iff_eq, same_iff, agreeLists_same_iff, and_assoc]

theorem agreeLists_peers_iff {xs ys : List Peer} :
    agreeLists Peer.agree xs ys = true ↔ xs.map Peer.canonical = ys.map Peer.canonical := by
  have hagree : ∀ p q : Peer, p.agree q = true ↔ p.canonical = q.canonical :=
    fun p q => Peer.agree_iff
  exact agreeLists_iff hagree xs ys

/-- **Agreement is equality by value.** -/
theorem Snapshot.agree_iff {a b : Snapshot} : a.agree b = true ↔ a.canonical = b.canonical := by
  unfold agree canonical
  rw [CanonicalSnapshot.mk.injEq]
  simp only [Bool.and_eq_true, beq_iff_eq, same_iff, BaseConnection.agree_iff,
    NameMap.agree_beq_iff, agree_same_iff, agreeLists_same_iff, agreeLists_peers_iff, and_assoc]

/-- Equal snapshots are equal by value. -/
theorem Snapshot.canonical_eq_of_beq {a b : Snapshot} (h : (a == b) = true) :
    a.canonical = b.canonical := by
  obtain ⟨⟩ := a
  obtain ⟨⟩ := b
  unfold BEq.beq instBEqSnapshot at h
  dsimp only at h
  unfold instBEqSnapshot.beq at h
  simp only [Bool.and_eq_true, beq_iff_eq, NameMap.beq_iff] at h
  -- all fields but the tables are the same; the tables have the same values at each name
  obtain ⟨rfl, rfl, rfl, rfl, rfl, rfl, rfl, rfl, rfl, rfl, rfl, hconnections, rfl, hsettings,
    hhosts, rfl⟩ := h
  unfold canonical
  dsimp only
  rw [hconnections, hsettings, hhosts]

/-! ### Field by field -/

/-- Two base connections differ in a field. -/
inductive BaseConnection.Differs (a b : BaseConnection) : Prop
  | address (h : Canonical.ofText a.address ≠ Canonical.ofText b.address)
  | port (h : a.port ≠ b.port)
  | kind (h : a.kind ≠ b.kind)

/-- Two lists of addresses differ at a place, or one of them ends before it. -/
def AddressesDiffer (xs ys : List String) : Prop :=
  ∃ i : Nat, xs[i]?.map Canonical.ofText ≠ ys[i]?.map Canonical.ofText

/-- Two peers differ in a field. -/
inductive Peer.Differs (a b : Peer) : Prop
  | address (h : Canonical.ofText a.address ≠ Canonical.ofText b.address)
  | linkLocalAddress (h : Canonical.ofText a.linkLocalAddress ≠ Canonical.ofText b.linkLocalAddress)
  | isActive (h : a.isActive ≠ b.isActive)
  | isReestablishing (h : a.isReestablishing ≠ b.isReestablishing)
  | isSecure (h : a.isSecure ≠ b.isSecure)
  | isTunnelled (h : a.isTunnelled ≠ b.isTunnelled)
  | sourceAddresses (h : AddressesDiffer a.sourceAddresses b.sourceAddresses)
  | targetAddresses (h : AddressesDiffer a.targetAddresses b.targetAddresses)
  | usedTargetAddress
      (h : Canonical.ofText a.usedTargetAddress ≠ Canonical.ofText b.usedTargetAddress)

/-- Two snapshots differ in a field: in its value, at a place of it, or at a name in it. -/
inductive Snapshot.Differs (a b : Snapshot) : Prop
  | version (h : a.version ≠ b.version)
  | dashboardHost (h : a.dashboardHost ≠ b.dashboardHost)
  | notices (h : a.notices ≠ b.notices)
  | hooksEnabled (h : a.hooksEnabled ≠ b.hooksEnabled)
  | websetupAddress (h : Canonical.ofText a.websetupAddress ≠ Canonical.ofText b.websetupAddress)
  | base (h : a.base.Differs b.base)
  | localAddress (h : Canonical.ofText a.localAddress ≠ Canonical.ofText b.localAddress)
  | localHostname (h : a.localHostname ≠ b.localHostname)
  | isJoined (h : a.isJoined ≠ b.isJoined)
  | isReady (h : a.isReady ≠ b.isReady)
  | isReadyToJoin (h : a.isReadyToJoin ≠ b.isReadyToJoin)
  | connections (name : String) (h : a.connections.get? name ≠ b.connections.get? name)
  | whitelist (h : AddressesDiffer a.whitelist b.whitelist)
  | settings (name : String) (h : a.settings.get? name ≠ b.settings.get? name)
  | hosts (name : String)
      (h : (a.hosts.get? name).map Canonical.ofText ≠ (b.hosts.get? name).map Canonical.ofText)
  | peerCount (h : a.peers.length ≠ b.peers.length)
  | peer (i : Nat) {p q : Peer} (hp : a.peers[i]? = some p) (hq : b.peers[i]? = some q)
      (h : p.Differs q)

theorem BaseConnection.differs_iff {a b : BaseConnection} :
    a.Differs b ↔ a.canonical ≠ b.canonical := by
  unfold canonical
  rw [Ne, CanonicalBase.mk.injEq]
  constructor
  · rintro h ⟨haddress, hport, hkind⟩
    cases h with
    | address h => exact h haddress
    | port h => exact h hport
    | kind h => exact h hkind
  · intro h
    by_contra hnone
    refine h ⟨?_, ?_, ?_⟩
    · exact by_contra fun h => hnone (.address h)
    · exact by_contra fun h => hnone (.port h)
    · exact by_contra fun h => hnone (.kind h)

theorem addressesDiffer_iff {xs ys : List String} :
    AddressesDiffer xs ys ↔ xs.map Canonical.ofText ≠ ys.map Canonical.ofText := by
  unfold AddressesDiffer
  rw [Ne, List.ext_getElem?_iff, not_forall]
  simp only [List.getElem?_map, Ne]

theorem Peer.differs_iff {a b : Peer} : a.Differs b ↔ a.canonical ≠ b.canonical := by
  unfold canonical
  rw [Ne, CanonicalPeer.mk.injEq]
  constructor
  · rintro h ⟨haddress, hlinkLocal, hactive, hreestablishing, hsecure, htunnelled, hsource,
      htarget, hused⟩
    cases h with
    | address h => exact h haddress
    | linkLocalAddress h => exact h hlinkLocal
    | isActive h => exact h hactive
    | isReestablishing h => exact h hreestablishing
    | isSecure h => exact h hsecure
    | isTunnelled h => exact h htunnelled
    | sourceAddresses h => exact addressesDiffer_iff.mp h hsource
    | targetAddresses h => exact addressesDiffer_iff.mp h htarget
    | usedTargetAddress h => exact h hused
  · intro h
    by_contra hnone
    refine h ⟨?_, ?_, ?_, ?_, ?_, ?_, ?_, ?_, ?_⟩
    · exact by_contra fun h => hnone (.address h)
    · exact by_contra fun h => hnone (.linkLocalAddress h)
    · exact by_contra fun h => hnone (.isActive h)
    · exact by_contra fun h => hnone (.isReestablishing h)
    · exact by_contra fun h => hnone (.isSecure h)
    · exact by_contra fun h => hnone (.isTunnelled h)
    · exact by_contra fun h => hnone (.sourceAddresses (addressesDiffer_iff.mpr h))
    · exact by_contra fun h => hnone (.targetAddresses (addressesDiffer_iff.mpr h))
    · exact by_contra fun h => hnone (.usedTargetAddress h)

/-- Two lists of peers differ in their lengths, or in a field of the peers at one place. -/
theorem peers_differ_iff {xs ys : List Peer} :
    (xs.length ≠ ys.length ∨
      ∃ (i : Nat) (p q : Peer), xs[i]? = some p ∧ ys[i]? = some q ∧ p.Differs q) ↔
      xs.map Peer.canonical ≠ ys.map Peer.canonical := by
  constructor
  · rintro (hlength | ⟨i, p, q, hp, hq, hdiffers⟩) heq
    · have h := congrArg List.length heq
      rw [List.length_map, List.length_map] at h
      exact hlength h
    · have h := congrArg (·[i]?) heq
      simp only [List.getElem?_map, hp, hq, Option.map_some, Option.some.injEq] at h
      exact Peer.differs_iff.mp hdiffers h
  · intro hne
    by_cases hlength : xs.length = ys.length
    · -- at a place where the views differ both lists have a peer
      right
      rw [Ne, List.ext_getElem?_iff, not_forall] at hne
      obtain ⟨i, hi⟩ := hne
      rw [List.getElem?_map, List.getElem?_map] at hi
      have hlt : i < xs.length := by
        by_contra hge
        rw [List.getElem?_eq_none (by omega), List.getElem?_eq_none (by omega)] at hi
        exact hi rfl
      have hp : xs[i]? = some xs[i] := List.getElem?_eq_getElem hlt
      have hq : ys[i]? = some ys[i] := List.getElem?_eq_getElem (hlength ▸ hlt)
      rw [hp, hq, Option.map_some, Option.map_some, Option.some.injEq] at hi
      exact ⟨i, xs[i], ys[i], hp, hq, Peer.differs_iff.mpr hi⟩
    · exact .inl hlength

theorem Snapshot.differs_iff {a b : Snapshot} : a.Differs b ↔ a.canonical ≠ b.canonical := by
  unfold canonical
  rw [Ne, CanonicalSnapshot.mk.injEq]
  constructor
  · rintro h ⟨hversion, hdashboard, hnotices, hhooks, hwebsetup, hbase, hlocal, hhostname, hjoined,
      hready, hreadyToJoin, hconnections, hwhitelist, hsettings, hhosts, hpeers⟩
    cases h with
    | version h => exact h hversion
    | dashboardHost h => exact h hdashboard
    | notices h => exact h hnotices
    | hooksEnabled h => exact h hhooks
    | websetupAddress h => exact h hwebsetup
    | base h => exact BaseConnection.differs_iff.mp h hbase
    | localAddress h => exact h hlocal
    | localHostname h => exact h hhostname
    | isJoined h => exact h hjoined
    | isReady h => exact h hready
    | isReadyToJoin h => exact h hreadyToJoin
    | connections name h => exact h (congrFun hconnections name)
    | whitelist h => exact addressesDiffer_iff.mp h hwhitelist
    | settings name h => exact h (congrFun hsettings name)
    | hosts name h => exact h (congrFun hhosts name)
    | peerCount h => exact peers_differ_iff.mp (.inl h) hpeers
    | peer i hp hq h => exact peers_differ_iff.mp (.inr ⟨i, _, _, hp, hq, h⟩) hpeers
  · intro h
    by_contra hnone
    refine h ⟨?_, ?_, ?_, ?_, ?_, ?_, ?_, ?_, ?_, ?_, ?_, ?_, ?_, ?_, ?_, ?_⟩
    · exact by_contra fun h => hnone (.version h)
    · exact by_contra fun h => hnone (.dashboardHost h)
    · exact by_contra fun h => hnone (.notices h)
    · exact by_contra fun h => hnone (.hooksEnabled h)
    · exact by_contra fun h => hnone (.websetupAddress h)
    · exact by_contra fun h => hnone (.base (BaseConnection.differs_iff.mpr h))
    · exact by_contra fun h => hnone (.localAddress h)
    · exact by_contra fun h => hnone (.localHostname h)
    · exact by_contra fun h => hnone (.isJoined h)
    · exact by_contra fun h => hnone (.isReady h)
    · exact by_contra fun h => hnone (.isReadyToJoin h)
    · exact funext fun name => by_contra fun h => hnone (.connections name h)
    · exact by_contra fun h => hnone (.whitelist (addressesDiffer_iff.mpr h))
    · exact funext fun name => by_contra fun h => hnone (.settings name h)
    · exact funext fun name => by_contra fun h => hnone (.hosts name h)
    · refine by_contra fun h => ?_
      rcases peers_differ_iff.mpr h with hlength | ⟨i, p, q, hp, hq, hdiffers⟩
      · exact hnone (.peerCount hlength)
      · exact hnone (.peer i hp hq hdiffers)

/-- **Agreement misses no difference**, and sees none where there is none. -/
theorem Snapshot.agree_eq_false_iff {a b : Snapshot} : a.agree b = false ↔ a.Differs b := by
  rw [differs_iff, ← Bool.not_eq_true, agree_iff]

/-- **The laws of agreement.** Two snapshots agree if and only if they are equal by value; so
agreement is an equivalence that contains equality, and it fails exactly where a field differs. -/
theorem snapshot_agreement :
    (∀ a b : Snapshot, a.agree b = true ↔ a.canonical = b.canonical) ∧
    (∀ a : Snapshot, a.agree a = true) ∧
    (∀ a b : Snapshot, a.agree b = b.agree a) ∧
    (∀ a b c : Snapshot, a.agree b = true → b.agree c = true → a.agree c = true) ∧
    (∀ a b : Snapshot, (a == b) = true → a.agree b = true) ∧
    (∀ a b : Snapshot, a.agree b = false ↔ a.Differs b) := by
  refine ⟨fun a b => Snapshot.agree_iff, ?_, ?_, ?_, ?_, fun a b => Snapshot.agree_eq_false_iff⟩
  · intro a
    exact Snapshot.agree_iff.mpr rfl
  · intro a b
    rw [Bool.eq_iff_iff, Snapshot.agree_iff, Snapshot.agree_iff]
    exact eq_comm
  · intro a b c hab hbc
    rw [Snapshot.agree_iff] at hab hbc ⊢
    exact hab.trans hbc
  · intro a b heq
    exact Snapshot.agree_iff.mpr (Snapshot.canonical_eq_of_beq heq)

end MeshControl.Daemon
