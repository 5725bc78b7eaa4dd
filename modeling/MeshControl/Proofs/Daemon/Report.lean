import MeshControl.Proofs.Address.Expanded
import MeshControl.Proofs.Daemon.Questions
import MeshControl.Proofs.Daemon.Watching

/-!
# What a report shows

A report shows some addresses as the daemon spells them, and depends on all others by value.  So
snapshots that agree have one report if the addresses that are shown as they are spelled
(`ShownAlike`) are spelled alike in both (`report_eq`): section by section the report is a function of
the view by value, of tables by name, and of those texts.

Watching draws a snapshot only if it does not agree with the one on the screen.  Hence the screen
differs from the report on the latest snapshot in the spelling of such addresses at most
(`screen_faithful`).
-/

namespace MeshControl.Daemon

open Dialogue MeshControl.Address MeshControl.Text

/-! ### Spelling -/

/-- An address that is shown in expanded form if it is bare is shown alike: both are bare, or both are
spelled alike. -/
def ExpandedAlike (x y : String) : Prop :=
  (∃ ip, Canonical.ofText x = .ip ip) ∨ x = y

/-- The addresses of a peer that are shown as they are spelled are spelled alike. -/
structure Peer.ShownAlike (p q : Peer) : Prop where
  targetAddresses : p.targetAddresses = q.targetAddresses
  usedTargetAddress : p.usedTargetAddress = q.usedTargetAddress

/-- The addresses that a report shows as they are spelled are spelled alike in two snapshots: the one
of the base server, the targets of each peer, and each local or listed address that is not bare. -/
structure Snapshot.ShownAlike (a b : Snapshot) : Prop where
  base : a.base.address = b.base.address
  localAddress : ExpandedAlike a.localAddress b.localAddress
  whitelist : List.Forall₂ ExpandedAlike a.whitelist b.whitelist
  peers : List.Forall₂ Peer.ShownAlike a.peers b.peers

/-- Addresses of one value are shown by one text if they are spelled alike or bare. -/
theorem expandedOrSelf_eq {x y : String} (hvalue : Canonical.ofText x = Canonical.ofText y)
    (hspelled : ExpandedAlike x y) : expandedOrSelf x = expandedOrSelf y := by
  rcases hspelled with hip | rfl
  · exact expandedOrSelf_eq_iff.mpr (.inr ⟨hip, same_iff.mpr hvalue⟩)
  · rfl

/-! ### Two snapshots that look the same -/

/-- An entry of a whitelist looks like another one. -/
structure EntryAlike (x y : String) : Prop where
  value : Canonical.ofText x = Canonical.ofText y
  spelled : ExpandedAlike x y

/-- A peer looks like another one. -/
structure PeerAlike (p q : Peer) : Prop where
  value : p.canonical = q.canonical
  spelled : p.ShownAlike q

theorem PeerAlike.refl (p : Peer) : PeerAlike p p :=
  ⟨rfl, ⟨rfl, rfl⟩⟩

/-- Lists with the same items by value are the same by value item by item. -/
theorem forall₂_of_map_eq {α β : Type} {f : α → β} {related : α → α → Prop} {xs ys : List α}
    (hrelated : List.Forall₂ related xs ys) (hmap : xs.map f = ys.map f) :
    List.Forall₂ (fun x y => f x = f y ∧ related x y) xs ys := by
  induction hrelated with
  | nil => exact .nil
  | @cons x y xs ys hxy _ ih =>
    rw [List.map_cons, List.map_cons, List.cons.injEq] at hmap
    exact .cons ⟨hmap.1, hxy⟩ (ih hmap.2)

/-- Two snapshots that agree and are spelled alike where it shows, part by part. -/
structure LooksLike (a b : Snapshot) : Prop where
  version : a.version = b.version
  dashboardHost : a.dashboardHost = b.dashboardHost
  notices : a.notices = b.notices
  websetup : Canonical.ofText a.websetupAddress = Canonical.ofText b.websetupAddress
  base : a.base = b.base
  ownValue : Canonical.ofText a.localAddress = Canonical.ofText b.localAddress
  ownSpelled : ExpandedAlike a.localAddress b.localAddress
  isJoined : a.isJoined = b.isJoined
  isReady : a.isReady = b.isReady
  isReadyToJoin : a.isReadyToJoin = b.isReadyToJoin
  connections : a.connections.get? = b.connections.get?
  whitelist : List.Forall₂ EntryAlike a.whitelist b.whitelist
  settings : a.settings.get? = b.settings.get?
  hosts : ∀ name,
    (a.hosts.get? name).map Canonical.ofText = (b.hosts.get? name).map Canonical.ofText
  peers : List.Forall₂ PeerAlike a.peers b.peers

theorem looksLike_of_agree {a b : Snapshot} (h : a.agree b = true) (hs : a.ShownAlike b) :
    LooksLike a b := by
  have hcanonical := Snapshot.agree_iff.mp h
  unfold Snapshot.canonical at hcanonical
  rw [CanonicalSnapshot.mk.injEq] at hcanonical
  obtain ⟨hversion, hdashboard, hnotices, _, hwebsetup, hbase, hlocal, _, hjoined, hready,
    hreadyToJoin, hconnections, hwhitelist, hsettings, hhosts, hpeers⟩ := hcanonical
  unfold BaseConnection.canonical at hbase
  rw [CanonicalBase.mk.injEq] at hbase
  have hwhole : a.base = b.base := by
    obtain ⟨_, hport, hkind⟩ := hbase
    show BaseConnection.mk a.base.address a.base.port a.base.kind = ⟨_, _, _⟩
    rw [hs.base, hport, hkind]
  exact
    { version := hversion
      dashboardHost := hdashboard
      notices := hnotices
      websetup := hwebsetup
      base := hwhole
      ownValue := hlocal
      ownSpelled := hs.localAddress
      isJoined := hjoined
      isReady := hready
      isReadyToJoin := hreadyToJoin
      connections := hconnections
      whitelist := (forall₂_of_map_eq hs.whitelist hwhitelist).imp fun _ _ h => ⟨h.1, h.2⟩
      settings := hsettings
      hosts := congrFun hhosts
      peers := (forall₂_of_map_eq hs.peers hpeers).imp fun _ _ h => ⟨h.1, h.2⟩ }

namespace Report

variable {a b : Snapshot} {x y : String} {p q : Peer}

/-! ### Sections -/

theorem versionLines_eq (h : LooksLike a b) (ctx : ReportContext) :
    versionLines a ctx = versionLines b ctx := by
  unfold versionLines
  rw [h.version]

theorem dashboardLines_eq (h : LooksLike a b) (ctx : ReportContext) :
    dashboardLines a ctx = dashboardLines b ctx := by
  unfold dashboardLines
  rw [h.dashboardHost, h.notices]

theorem connectionLines_eq (h : LooksLike a b) (isDetailed : Bool) :
    connectionLines a isDetailed = connectionLines b isDetailed := by
  unfold connectionLines
  rw [h.base, NameMap.sortedEntries_eq h.connections]

theorem readinessLines_eq (h : LooksLike a b) : readinessLines a = readinessLines b := by
  unfold readinessLines
  rw [h.isReady, h.isReadyToJoin, h.isJoined]

theorem settingLines_eq (h : LooksLike a b) : settingLines a = settingLines b := by
  unfold settingLines
  rw [NameMap.sortedEntries_eq h.settings]

/-! ### The whitelist -/

/-- The labels of an address are found by value. -/
theorem labels_eq (h : LooksLike a b) (hx : Canonical.ofText x = Canonical.ofText y) :
    labels a x = labels b y := by
  have hlocal : same x a.localAddress = same y b.localAddress := same_congr hx h.ownValue
  have hwebsetup : same x a.websetupAddress = same y b.websetupAddress := same_congr hx h.websetup
  unfold labels
  rw [hlocal, hwebsetup, hostnamesFor_eq h.hosts hx]

theorem peerFlags_eq (h : PeerAlike p q) : peerFlags p = peerFlags q := by
  have hcanonical := h.value
  unfold Peer.canonical at hcanonical
  rw [CanonicalPeer.mk.injEq] at hcanonical
  obtain ⟨_, _, hactive, _, hsecure, htunnelled, _⟩ := hcanonical
  unfold peerFlags
  rw [hactive, hsecure, htunnelled]

theorem peerAddressLines_eq (h : LooksLike a b) (hpeer : PeerAlike p q) :
    peerAddressLines a p = peerAddressLines b q := by
  unfold peerAddressLines
  rw [hpeer.spelled.targetAddresses, hpeer.spelled.usedTargetAddress, h.base]

/-- The peer of an entry looks the same, also where there is none. -/
theorem peerAlike_at (h : LooksLike a b) (hx : Canonical.ofText x = Canonical.ofText y) :
    PeerAlike ((a.peerAt? x).getD {}) ((b.peerAt? y).getD {}) := by
  have haddress : ∀ p q, PeerAlike p q → Canonical.ofText p.address = Canonical.ofText q.address :=
    fun p q hpq => congrArg CanonicalPeer.address hpq.value
  have hfound := rel_peerAt? h.peers haddress hx
  generalize a.peerAt? x = p? at hfound ⊢
  generalize b.peerAt? y = q? at hfound ⊢
  cases hfound with
  | none => exact PeerAlike.refl _
  | some hpq => exact hpq

theorem whitelistBlock_eq (h : LooksLike a b) (hxy : EntryAlike x y) (isDetailed : Bool) :
    whitelistBlock a isDetailed x = whitelistBlock b isDetailed y := by
  have hpeer := peerAlike_at h hxy.value
  unfold whitelistBlock
  dsimp only
  rw [expandedOrSelf_eq hxy.value hxy.spelled, labels_eq h hxy.value, peerFlags_eq hpeer,
    peerAddressLines_eq h hpeer]

/-- Entries that look the same are shown in the same places. -/
theorem whitelistLines_eq (h : LooksLike a b) (isDetailed : Bool) :
    whitelistLines a isDetailed = whitelistLines b isDetailed := by
  have hsorted : List.Forall₂ EntryAlike (sortedWhitelist a) (sortedWhitelist b) :=
    forall₂_mergeSort h.whitelist fun x y hxy => expandedOrSelf_eq hxy.value hxy.spelled
  have hblocks : List.Forall₂ Eq ((sortedWhitelist a).map (whitelistBlock a isDetailed))
      ((sortedWhitelist b).map (whitelistBlock b isDetailed)) := by
    rw [List.forall₂_map_left_iff, List.forall₂_map_right_iff]
    exact hsorted.imp fun x y hxy => whitelistBlock_eq h hxy isDetailed
  rw [List.forall₂_eq_eq_eq] at hblocks
  unfold whitelistLines
  rw [List.flatMap_def, List.flatMap_def, hblocks]

theorem lines_eq (h : LooksLike a b) (ctx : ReportContext) : lines a ctx = lines b ctx := by
  unfold lines
  rw [versionLines_eq h, dashboardLines_eq h, connectionLines_eq h, readinessLines_eq h,
    settingLines_eq h, expandedOrSelf_eq h.ownValue h.ownSpelled, whitelistLines_eq h]

end Report

/-- **One report.** Snapshots that agree have one report, if the addresses that it shows as they are
spelled are spelled alike. -/
theorem report_eq {a b : Snapshot} (h : a.agree b = true) (hs : a.ShownAlike b)
    (ctx : ReportContext) : a.report ctx = b.report ctx := by
  unfold Snapshot.report
  rw [Report.lines_eq (looksLike_of_agree h hs)]

/-- **The screen tells all but spelling.** Snapshots that agree have one report, whatever the order of
their tables and the spelling of their addresses, if the addresses that are shown as they are spelled
are spelled alike.  A follower is silent on a snapshot exactly if it agrees with the one that was
reported last; so at any time the report on the latest snapshot is on the screen, or else such an
address is spelled in another way there. -/
theorem screen_faithful :
    (∀ (a b : Snapshot) (ctx : ReportContext), a.agree b = true → a.ShownAlike b →
      a.report ctx = b.report ctx) ∧
    (∀ (f : Follower) (s : Snapshot),
      (f.observe s).1 = false ↔ ∃ last, f.last? = some last ∧ last.agree s = true) ∧
    ∀ (first : Snapshot) (n : Nat) (log : Watch.Log), (Watch.run first n).Branch log () →
      ∃ shown latest, (Watch.drawn log).getLast? = some shown ∧
        (first :: Watch.polled log).getLast? = some latest ∧ shown.agree latest = true ∧
        ∀ ctx : ReportContext, shown.report ctx = latest.report ctx ∨ ¬shown.ShownAlike latest := by
  refine ⟨fun a b ctx h hs => report_eq h hs ctx, fun f s => Follower.fst_observe, ?_⟩
  intro first n log h
  obtain ⟨shown, latest, hshown, hlatest, hagree⟩ := Watch.shown_agrees h
  refine ⟨shown, latest, hshown, hlatest, hagree, fun ctx => ?_⟩
  by_cases hs : shown.ShownAlike latest
  · exact .inl (report_eq hagree hs ctx)
  · exact .inr hs

/-- A peer whose own address is given. -/
def activePeer (address : String) : Peer where
  address := address
  isActive := true
  targetAddresses := ["10.0.0.1:5582"]
  usedTargetAddress := "10.0.0.1:5582"

/-- Two hosts, as a daemon reports them at one time. -/
def twoHosts : Snapshot where
  localAddress := "fc94::1"
  websetupAddress := "fc94::2"
  base := { address := "1.2.3.4", port := 443, kind := "udp" }
  whitelist := ["fc94::2", "FC94:0::1", "a name"]
  hosts := .ofList [("alpha", "fc94::1"), ("beta", "fc94:0:0::2")]
  peers := [activePeer "fc94::2"]

/-- The same hosts at another time: in another order, and with bare addresses spelled anew. -/
def twoHostsLater : Snapshot :=
  { twoHosts with
    localAddress := "fc94:0000::0001"
    websetupAddress := "FC94::2"
    whitelist := ["fc94:0::2", "fc94::1", "a name"]
    hosts := .ofList [("beta", "fc94::2"), ("alpha", "fc94::0:1")]
    peers := [activePeer " FC94::0002"] }

/-- The screen stays as it is when the daemon spells its addresses anew. -/
theorem screen_faithful_twoHosts (ctx : ReportContext) :
    twoHosts.agree twoHostsLater = true ∧ twoHosts.report ctx = twoHostsLater.report ctx := by
  have hagree : twoHosts.agree twoHostsLater = true := by decide +kernel
  refine ⟨hagree, screen_faithful.1 _ _ ctx hagree ⟨rfl, .inl ⟨_, rfl⟩, ?_, ?_⟩⟩
  · exact .cons (.inl ⟨_, rfl⟩) (.cons (.inl ⟨_, rfl⟩) (.cons (.inr rfl) .nil))
  · exact .cons ⟨rfl, rfl⟩ .nil

end MeshControl.Daemon
