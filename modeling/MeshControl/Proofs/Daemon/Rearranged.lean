import MeshControl.Proofs.Daemon.Report

/-!
# Reports on rearranged snapshots

A report puts what it lists in an order of its own, so the order in which the daemon lists its
tables, its whitelist and the targets of its peers does not show (`report_arranged`).  For the
tables this is a case of snapshots that look the same.  The whitelist is sorted by the addresses as
they are shown, and several of its entries may be shown by one text; they stand in the order they
came in then, but each has the same block, because a block is told by the text that its entry is
shown by (`whitelistBlock_eq_of_shown`): entries that are shown alike are equal or have one bare
address.
-/

namespace MeshControl.Daemon

open MeshControl.Address MeshControl.Terminal MeshControl.Text

/-! ### Peers whose targets are listed in another way -/

/-- A peer is another one but for the order in which its target addresses are listed, and how often.
-/
structure Peer.Retargeted (p q : Peer) : Prop where
  others : q = { p with targetAddresses := q.targetAddresses }
  targets : ∀ x, x ∈ p.targetAddresses ↔ x ∈ q.targetAddresses

theorem Peer.Retargeted.refl (p : Peer) : p.Retargeted p :=
  ⟨rfl, fun _ => .rfl⟩

/-! ### Tables in another order -/

/-- A snapshot looks the same with tables of the same values. -/
theorem looksLike_of_tables {s : Snapshot} {connections : NameMap Bool}
    {settings hosts : NameMap String} (hconnections : s.connections.get? = connections.get?)
    (hsettings : s.settings.get? = settings.get?) (hhosts : s.hosts.get? = hosts.get?) :
    LooksLike s { s with connections := connections, settings := settings, hosts := hosts } where
  version := rfl
  dashboardHost := rfl
  notices := rfl
  websetup := rfl
  base := rfl
  ownValue := rfl
  ownSpelled := .inr rfl
  isJoined := rfl
  isReady := rfl
  isReadyToJoin := rfl
  connections := hconnections
  whitelist := List.forall₂_same.mpr fun _ _ => ⟨rfl, .inr rfl⟩
  settings := hsettings
  hosts := fun name => by rw [hhosts]
  peers := List.forall₂_same.mpr fun p _ => PeerAlike.refl p

namespace Report

variable {s t : Snapshot} {p q : Peer} {x y : String}

/-- Texts in order, each once, are those that are in the list. -/
theorem sortedOnce_spec (texts : List String) :
    (sortedOnce texts).Pairwise (· < ·) ∧ ∀ x, x ∈ sortedOnce texts ↔ x ∈ texts := by
  have hsorted : (texts.mergeSort fun a b => a ≤ b).Pairwise (· ≤ ·) := pairwise_mergeSort_key texts
  obtain ⟨hpairwise, hmem⟩ := eraseReps_spec hsorted
  exact ⟨hpairwise, fun x => (hmem x).trans List.mem_mergeSort⟩

theorem sortedOnce_eq {xs ys : List String} (h : ∀ x, x ∈ xs ↔ x ∈ ys) :
    sortedOnce xs = sortedOnce ys := by
  obtain ⟨hxs, hmemXs⟩ := sortedOnce_spec xs
  obtain ⟨hys, hmemYs⟩ := sortedOnce_spec ys
  refine eq_of_pairwise_lt hxs hys fun x => ?_
  rw [hmemXs, hmemYs, h]

theorem isEmpty_eq {xs ys : List String} (h : ∀ x, x ∈ xs ↔ x ∈ ys) : xs.isEmpty = ys.isEmpty := by
  rw [Bool.eq_iff_iff, List.isEmpty_iff, List.isEmpty_iff, List.eq_nil_iff_forall_not_mem,
    List.eq_nil_iff_forall_not_mem]
  exact forall_congr' fun x => not_congr (h x)

theorem peerFlags_retargeted (h : p.Retargeted q) : peerFlags p = peerFlags q := by
  rw [h.others]
  rfl

theorem peerAddressLines_retargeted (h : p.Retargeted q) (hbase : s.base = t.base) :
    peerAddressLines s p = peerAddressLines t q := by
  have hused : p.usedTargetAddress = q.usedTargetAddress := by
    rw [h.others]
  unfold peerAddressLines
  rw [isEmpty_eq h.targets, sortedOnce_eq h.targets, hused, hbase]

/-- A block does not depend on how the targets of peers are listed. -/
theorem whitelistBlock_retargeted {peers : List Peer}
    (h : List.Forall₂ Peer.Retargeted s.peers peers) (isDetailed : Bool) (x : String) :
    whitelistBlock s isDetailed x = whitelistBlock { s with peers := peers } isDetailed x := by
  have haddress : ∀ p q, Peer.Retargeted p q →
      Canonical.ofText p.address = Canonical.ofText q.address := by
    intro p q hpq
    rw [hpq.others]
  have hfound : Option.Rel Peer.Retargeted (s.peerAt? x)
      (Snapshot.peerAt? { s with peers := peers } x) := rel_peerAt? h haddress rfl
  have hpeer : Peer.Retargeted ((s.peerAt? x).getD {})
      ((Snapshot.peerAt? { s with peers := peers } x).getD {}) := by
    generalize s.peerAt? x = p? at hfound ⊢
    generalize Snapshot.peerAt? { s with peers := peers } x = q? at hfound ⊢
    cases hfound with
    | none => exact .refl _
    | some hpq => exact hpq
  have haddresses : peerAddressLines s ((s.peerAt? x).getD {}) =
      peerAddressLines { s with peers := peers }
        ((Snapshot.peerAt? { s with peers := peers } x).getD {}) :=
    peerAddressLines_retargeted hpeer rfl
  unfold whitelistBlock
  dsimp only
  rw [peerFlags_retargeted hpeer, haddresses]
  rfl

/-! ### The whitelist in another order -/

/-- **A block is told by the text that its entry is shown by.** -/
theorem whitelistBlock_eq_of_shown (s : Snapshot) (isDetailed : Bool)
    (h : expandedOrSelf x = expandedOrSelf y) :
    whitelistBlock s isDetailed x = whitelistBlock s isDetailed y := by
  obtain rfl | ⟨⟨ip, hip⟩, hsame⟩ := expandedOrSelf_eq_iff.mp h
  · rfl
  · -- both spell one bare address, and all of a block is found by value
    have hself : LooksLike s s := looksLike_of_tables rfl rfl rfl
    exact whitelistBlock_eq hself ⟨same_iff.mp hsame, .inl ⟨ip, hip⟩⟩ isDetailed

/-- The blocks of a whitelist in another order. -/
theorem whitelistLines_of_perm {whitelist : List String} (h : s.whitelist.Perm whitelist)
    (isDetailed : Bool) :
    whitelistLines s isDetailed = whitelistLines { s with whitelist := whitelist } isDetailed := by
  have hblocks := map_mergeSort_eq_of_perm expandedOrSelf (whitelistBlock s isDetailed) h
    fun x y => whitelistBlock_eq_of_shown s isDetailed
  unfold whitelistLines sortedWhitelist
  rw [List.flatMap_def, List.flatMap_def, hblocks]
  rfl

theorem whitelistLines_nil (s : Snapshot) (isDetailed : Bool) :
    whitelistLines { s with whitelist := [] } isDetailed = [] := by
  unfold whitelistLines sortedWhitelist
  rw [List.mergeSort_nil, List.flatMap_nil]

/-- The blocks of the whitelist stand behind what is reported of a snapshot without one. -/
theorem lines_eq_append (s : Snapshot) (ctx : ReportContext) :
    lines s ctx = lines { s with whitelist := [] } ctx ++ whitelistLines s ctx.isDetailed := by
  unfold lines
  rw [whitelistLines_nil]
  exact List.append_cons _ _ _

/-- The heading of the whitelist ends what is reported of a snapshot without one. -/
theorem getLast?_lines_nil (s : Snapshot) (ctx : ReportContext) :
    (lines { s with whitelist := [] } ctx).getLast? = some (underline "Whitelist") := by
  unfold lines
  rw [whitelistLines_nil, List.getLast?_append]
  rfl

/-- Peers are reported in the whitelist only. -/
theorem lines_nil_peers (s : Snapshot) (peers : List Peer) (ctx : ReportContext) :
    lines { s with whitelist := [] } ctx =
      lines { s with whitelist := [], peers := peers } ctx := by
  unfold lines
  rw [whitelistLines_nil, whitelistLines_nil { s with peers := peers }]
  rfl

/-- The first line of a block has the address as it is shown, the labels of this device and of the
websetup host, and the names of the address in their order. -/
theorem exists_whitelistBlock_eq (s : Snapshot) (isDetailed : Bool) (x : String) :
    ∃ names rest, whitelistBlock s isDetailed x =
        trimmedEnd (expandedOrSelf x ++ " " ++ " ".intercalate
          ((if same x s.localAddress then ["(localhost)"] else []) ++
            (if same x s.websetupAddress then ["(websetup)"] else []) ++ names)) :: rest ∧
      names.Pairwise (· < ·) ∧
      ∀ name, name ∈ names ↔ ∃ value, s.hosts.get? name = some value ∧ same value x = true :=
  ⟨s.hostnamesFor x, _, rfl, pairwise_hostnamesFor s x, fun _ => mem_hostnamesFor_iff⟩

end Report

/-- A snapshot listed in another way: its whitelist and its tables in another order, the targets of
each peer in another order and as often as may be. -/
structure Snapshot.Rearranged (s t : Snapshot) : Prop where
  others : t = { s with
    whitelist := t.whitelist, connections := t.connections, settings := t.settings,
    hosts := t.hosts, peers := t.peers }
  whitelist : s.whitelist.Perm t.whitelist
  connections : s.connections.entries.Perm t.connections.entries
  settings : s.settings.entries.Perm t.settings.entries
  hosts : s.hosts.entries.Perm t.hosts.entries
  peers : List.Forall₂ Peer.Retargeted s.peers t.peers

theorem report_rearranged {s t : Snapshot} (h : s.Rearranged t) (ctx : ReportContext) :
    s.report ctx = t.report ctx := by
  -- the tables first, then the targets of peers, then the whitelist
  let tabled : Snapshot :=
    { s with connections := t.connections, settings := t.settings, hosts := t.hosts }
  have htabled : LooksLike s tabled := looksLike_of_tables
    (NameMap.get?_eq_of_perm h.connections) (NameMap.get?_eq_of_perm h.settings)
    (NameMap.get?_eq_of_perm h.hosts)
  have hblocks : Report.whitelistLines tabled ctx.isDetailed =
      Report.whitelistLines t ctx.isDetailed := by
    calc Report.whitelistLines tabled ctx.isDetailed
        = Report.whitelistLines { tabled with peers := t.peers } ctx.isDetailed := by
          have hblock := Report.whitelistBlock_retargeted (s := tabled) h.peers ctx.isDetailed
          unfold Report.whitelistLines
          rw [funext hblock]
          rfl
      _ = Report.whitelistLines
            { tabled with peers := t.peers, whitelist := t.whitelist } ctx.isDetailed :=
          Report.whitelistLines_of_perm (s := { tabled with peers := t.peers }) h.whitelist
            ctx.isDetailed
      _ = Report.whitelistLines t ctx.isDetailed := by
          rw [h.others]
  have hfront : Report.lines { tabled with whitelist := [] } ctx =
      Report.lines { t with whitelist := [] } ctx := by
    rw [Report.lines_nil_peers tabled t.peers, h.others]
  unfold Snapshot.report
  rw [Report.lines_eq htabled, Report.lines_eq_append tabled, hfront, hblocks,
    ← Report.lines_eq_append t]

/-- **Reports are arranged anew.**  A report is the same however the daemon lists its tables, its
whitelist and, for each peer, the targets, be they repeated or not.  It ends with the whitelist:
behind the heading one block for each entry, repeated ones and other spellings of one address
included, in the order of the addresses as they are shown.  A block begins with the address as it is
shown, labelled if it is this device's or the websetup host's, and the names that the host table has
for it, in their order. -/
theorem report_arranged (s : Snapshot) (ctx : ReportContext) :
    (∀ t : Snapshot, s.Rearranged t → s.report ctx = t.report ctx) ∧
    ∃ entries : List String, entries.Perm s.whitelist ∧
      entries.Pairwise (fun x y => expandedOrSelf x ≤ expandedOrSelf y) ∧
      s.report ctx = "\n".intercalate (Report.lines { s with whitelist := [] } ctx ++
        entries.flatMap (Report.whitelistBlock s ctx.isDetailed)) ∧
      (Report.lines { s with whitelist := [] } ctx).getLast? = some (underline "Whitelist") ∧
      ∀ entry ∈ entries, ∃ names rest, Report.whitelistBlock s ctx.isDetailed entry =
          trimmedEnd (expandedOrSelf entry ++ " " ++ " ".intercalate
            ((if same entry s.localAddress then ["(localhost)"] else []) ++
              (if same entry s.websetupAddress then ["(websetup)"] else []) ++ names)) :: rest ∧
        names.Pairwise (· < ·) ∧
        ∀ name, name ∈ names ↔
          ∃ value, s.hosts.get? name = some value ∧ same value entry = true := by
  refine ⟨fun t h => report_rearranged h ctx, Report.sortedWhitelist s, List.mergeSort_perm _ _,
    pairwise_mergeSort_key s.whitelist, ?_, Report.getLast?_lines_nil s ctx,
    fun entry _ => Report.exists_whitelistBlock_eq s ctx.isDetailed entry⟩
  unfold Snapshot.report
  rw [Report.lines_eq_append]
  rfl

/-- A snapshot with an address in two spellings on its whitelist and a target that is repeated. -/
def spelledTwice : Snapshot :=
  { twoHosts with
    whitelist := ["fc94::2", "FC94:0::2", "a name"]
    peers := [{ activePeer "fc94::2" with targetAddresses := ["b", "a", "b"] }] }

/-- The two spellings may change places, and the target may be listed once. -/
theorem report_arranged_spelledTwice (ctx : ReportContext) :
    spelledTwice.report ctx = Snapshot.report
      { spelledTwice with
        whitelist := ["FC94:0::2", "a name", "fc94::2"]
        hosts := .ofList [("beta", "fc94:0:0::2"), ("alpha", "fc94::1")]
        peers := [{ activePeer "fc94::2" with targetAddresses := ["a", "b"] }] } ctx := by
  refine (report_arranged spelledTwice ctx).1 _ ⟨rfl, ?_, .refl _, .refl _, ?_, ?_⟩
  · decide
  · decide
  · exact .cons ⟨rfl, by simp⟩ .nil

end MeshControl.Daemon
