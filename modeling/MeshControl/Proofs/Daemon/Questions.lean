import MeshControl.Proofs.Daemon.Agreement

/-!
# Questions asked of a snapshot

What is asked of a snapshot depends on its addresses by value and on its tables by name: names of one
address are the same in tables that agree (`hostnamesFor_eq`), and peers found at one address stand at
the same place (`rel_peerAt?`).
-/

namespace MeshControl.Daemon

open MeshControl.Address

variable {a b : Snapshot} {x y : String}

/-- What addresses are compared with plays no part but by its value. -/
theorem same_congr {u v : String} (hu : Canonical.ofText u = Canonical.ofText v)
    (hx : Canonical.ofText x = Canonical.ofText y) : same u x = same v y := by
  rw [Bool.eq_iff_iff, same_iff, same_iff, hu, hx]

/-- The names that stand at an address. -/
theorem mem_filter_same_iff {m : NameMap String} {name : String} :
    name ∈ (m.entries.filter fun e => same e.2 x).map Prod.fst ↔
      (m.get? name).map Canonical.ofText = some (Canonical.ofText x) := by
  rw [Option.map_eq_some_iff]
  constructor
  · intro h
    obtain ⟨⟨_, value⟩, hmem, rfl⟩ := List.mem_map.mp h
    obtain ⟨hentry, hsame⟩ := List.mem_filter.mp hmem
    exact ⟨value, NameMap.get?_eq_some_iff.mpr hentry, same_iff.mp hsame⟩
  · rintro ⟨value, hvalue, hsame⟩
    have hentry : (name, value) ∈ m.entries := NameMap.get?_eq_some_iff.mp hvalue
    exact List.mem_map.mpr ⟨(name, value), List.mem_filter.mpr ⟨hentry, same_iff.mpr hsame⟩, rfl⟩

/-- **Names of an address.** Tables with the same addresses by value list the same names. -/
theorem hostnamesFor_eq
    (hhosts : ∀ name,
      (a.hosts.get? name).map Canonical.ofText = (b.hosts.get? name).map Canonical.ofText)
    (hx : Canonical.ofText x = Canonical.ofText y) : a.hostnamesFor x = b.hostnamesFor y := by
  have hnodup : ∀ (m : NameMap String) (address : String),
      ((m.entries.filter fun e => same e.2 address).map Prod.fst).Nodup := by
    intro m address
    exact m.distinct.sublist (List.filter_sublist.map Prod.fst)
  have hperm : ((a.hosts.entries.filter fun e => same e.2 x).map Prod.fst).Perm
      ((b.hosts.entries.filter fun e => same e.2 y).map Prod.fst) := by
    refine (List.perm_ext_iff_of_nodup (hnodup _ _) (hnodup _ _)).mpr fun name => ?_
    rw [mem_filter_same_iff, mem_filter_same_iff, hhosts, hx]
  unfold Snapshot.hostnamesFor
  exact mergeSort_eq_of_perm id hperm fun _ _ _ _ h => h

/-- The names of an address are those that stand at it in the host table. -/
theorem mem_hostnamesFor_iff {name : String} :
    name ∈ a.hostnamesFor x ↔ ∃ value, a.hosts.get? name = some value ∧ same value x = true := by
  unfold Snapshot.hostnamesFor
  rw [List.mem_mergeSort, mem_filter_same_iff, Option.map_eq_some_iff]
  simp only [same_iff]

/-- The names of an address stand in their order, each of them once. -/
theorem pairwise_hostnamesFor (a : Snapshot) (x : String) :
    (a.hostnamesFor x).Pairwise (· < ·) := by
  have hnames : ((a.hosts.entries.filter fun e => same e.2 x).map Prod.fst).Nodup :=
    a.hosts.distinct.sublist (List.filter_sublist.map Prod.fst)
  have hnodup : (a.hostnamesFor x).Nodup := (List.mergeSort_perm _ _).nodup_iff.mpr hnames
  have hsorted : (a.hostnamesFor x).Pairwise (· ≤ ·) := pairwise_mergeSort_key _
  refine (hsorted.and hnodup).imp fun ⟨hle, hne⟩ => ?_
  exact String.not_le.mp fun hge => hne (String.le_antisymm hle hge)

/-! ### Peers -/

/-- A peer stands at a place, has the address by value, and none in front of it has. -/
structure Snapshot.FirstPeer (s : Snapshot) (address : String) (place : Nat) (peer : Peer) : Prop where
  stands : s.peers[place]? = some peer
  same_address : same peer.address address = true
  none_before : ∀ i < place, ∀ p, s.peers[i]? = some p → same p.address address = false

theorem peerAt?_eq_none_iff : a.peerAt? x = none ↔ ∀ p ∈ a.peers, same p.address x = false := by
  simp [Snapshot.peerAt?]

/-- The peer that is found is the first one. -/
theorem peerAt?_eq_some_iff {p : Peer} :
    a.peerAt? x = some p ↔ ∃ place, a.FirstPeer x place p := by
  rw [Snapshot.peerAt?, List.find?_eq_some_iff_getElem]
  constructor
  · rintro ⟨hsame, place, hplace, rfl, hbefore⟩
    refine ⟨place, List.getElem?_eq_getElem hplace, hsame, fun i hi q hq => ?_⟩
    obtain ⟨_, rfl⟩ := List.getElem?_eq_some_iff.mp hq
    simpa using hbefore i hi
  · rintro ⟨place, hstands, hsame, hbefore⟩
    obtain ⟨hplace, rfl⟩ := List.getElem?_eq_some_iff.mp hstands
    refine ⟨hsame, place, hplace, rfl, fun j hj => ?_⟩
    simpa using hbefore j hj _ (List.getElem?_eq_getElem _)

/-- Where peers are the same by value, the first ones at one address stand at one place. -/
theorem Snapshot.FirstPeer.transfer {place : Nat} {p : Peer} (h : a.FirstPeer x place p)
    (hpeers : a.peers.map Peer.canonical = b.peers.map Peer.canonical)
    (hx : Canonical.ofText x = Canonical.ofText y) :
    ∃ q, b.FirstPeer y place q ∧ p.canonical = q.canonical := by
  have hplaces : ∀ i : Nat, a.peers[i]?.map Peer.canonical = b.peers[i]?.map Peer.canonical := by
    intro i
    rw [← List.getElem?_map, ← List.getElem?_map, hpeers]
  have hsame : ∀ {r t : Peer}, r.canonical = t.canonical → same r.address x = same t.address y :=
    fun hrt => same_congr (congrArg CanonicalPeer.address hrt) hx
  have hplace := hplaces place
  rw [h.stands, Option.map_some] at hplace
  obtain ⟨q, hq, hpq⟩ := Option.map_eq_some_iff.mp hplace.symm
  refine ⟨q, ⟨hq, hsame hpq.symm ▸ h.same_address, fun i hi t ht => ?_⟩, hpq.symm⟩
  -- a peer in front of it in one list would stand in front of it in the other
  have hbefore := hplaces i
  rw [ht, Option.map_some] at hbefore
  obtain ⟨r, hr, hrt⟩ := Option.map_eq_some_iff.mp hbefore
  exact hsame hrt ▸ h.none_before i hi r hr

/-- **One place.** In snapshots with the same peers by value, the peers at one address are both absent,
or they stand at one place and are the same by value. -/
theorem peerAt?_alike (hpeers : a.peers.map Peer.canonical = b.peers.map Peer.canonical)
    (hx : Canonical.ofText x = Canonical.ofText y) :
    (a.peerAt? x = none ∧ b.peerAt? y = none) ∨ ∃ place p q, a.peerAt? x = some p ∧
      b.peerAt? y = some q ∧ a.FirstPeer x place p ∧ b.FirstPeer y place q ∧
      p.canonical = q.canonical := by
  cases ha : a.peerAt? x with
  | some p =>
    obtain ⟨place, hp⟩ := peerAt?_eq_some_iff.mp ha
    obtain ⟨q, hq, hpq⟩ := hp.transfer hpeers hx
    exact .inr ⟨place, p, q, rfl, peerAt?_eq_some_iff.mpr ⟨place, hq⟩, hp, hq, hpq⟩
  | none =>
    cases hb : b.peerAt? y with
    | none => exact .inl ⟨rfl, rfl⟩
    | some q =>
      obtain ⟨place, hq⟩ := peerAt?_eq_some_iff.mp hb
      obtain ⟨p, hp, _⟩ := hq.transfer hpeers.symm hx.symm
      cases ha.symm.trans (peerAt?_eq_some_iff.mpr ⟨place, hp⟩)

/-- What is found first in lists that are related item by item is related. -/
theorem rel_find? {α β : Type} {related : α → β → Prop} {p : α → Bool} {q : β → Bool}
    {xs : List α} {ys : List β} (h : List.Forall₂ related xs ys)
    (hpq : ∀ x y, related x y → p x = q y) : Option.Rel related (xs.find? p) (ys.find? q) := by
  induction h with
  | nil => exact .none
  | @cons x y xs ys hxy _ ih =>
    rw [List.find?_cons, List.find?_cons, hpq x y hxy]
    cases q y with
    | true => exact .some hxy
    | false => exact ih

/-- **Peers at an address.** Where peers have the same addresses place by place, the first peers at
one address stand at one place. -/
theorem rel_peerAt? {related : Peer → Peer → Prop}
    (hpeers : List.Forall₂ related a.peers b.peers)
    (haddress : ∀ p q, related p q → Canonical.ofText p.address = Canonical.ofText q.address)
    (hx : Canonical.ofText x = Canonical.ofText y) :
    Option.Rel related (a.peerAt? x) (b.peerAt? y) := by
  refine rel_find? hpeers fun p q hpq => ?_
  exact same_congr (haddress p q hpq) hx

end MeshControl.Daemon
