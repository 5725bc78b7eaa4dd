import MeshControl.Proofs.Address.Expanded
import MeshControl.Proofs.Daemon.Questions
import MeshControl.Wait.Condition

/-!
# Waiting for a host

A connection to a host goes through stages, in a fixed order: enough hosts are known, the target stands
for an address, the address names a host, a peer has it, and the first such peer is active and then
secure (`Reached`).  The condition is met if all stages are reached, and its hint is the one of the
first stage that is not (`host_stages`).

What is said of a host depends on the addresses by value (`hostVerdict_congr`).  So a host is waited
for by its name just as by its address, in any spelling.
-/

namespace MeshControl.Wait.Condition

open MeshControl.Address MeshControl.Daemon MeshControl.Text

variable {a b s : Snapshot} {target x y address : String}

/-! ### Stages -/

/-- A stage of a connection to a host. -/
inductive Stage where
  /-- There are enough entries in the host table. -/
  | hosts
  /-- The target stands for an address. -/
  | located
  /-- The address names a host. -/
  | specified
  /-- There is a peer at the address. -/
  | known
  | active
  | secure
  deriving DecidableEq, Repr

namespace Stage

/-- The stages in their order. -/
def inOrder : List Stage := [hosts, located, specified, known, active, secure]

/-- What is said of a stage that is not reached. -/
def hint : Stage → String
  | hosts => "not enough hosts in the host table yet"
  | located => "peer addr is not known yet"
  | specified => "peer addr is not known yet"
  | known => "unable to find peer in the peer list"
  | active => "peer is not active yet"
  | secure => "secure connection has not yet been established"

theorem mem_inOrder (stage : Stage) : stage ∈ inOrder := by
  cases stage <;> decide

end Stage

/-- A target stands for the address that it has in the host table, and otherwise for itself if it is an
address. -/
inductive StandsFor (s : Snapshot) (target : String) : String → Prop
  | entry {address : String} (h : s.hosts.get? target = some address) : StandsFor s target address
  | literal (h : s.hosts.get? target = none) (ip : (Ip.ofText? target).isSome = true) :
      StandsFor s target target

/-- A stage is reached. -/
def Reached (s : Snapshot) (target : String) : Stage → Prop
  | .hosts => 2 ≤ s.hosts.size
  | .located => ∃ address, StandsFor s target address
  | .specified => ∃ address, StandsFor s target address ∧ isUnspecified address = false
  | .known => ∃ address, StandsFor s target address ∧ ∃ p ∈ s.peers, same p.address address = true
  | .active => ∃ address, StandsFor s target address ∧
      ∃ place p, s.FirstPeer address place p ∧ p.isActive = true
  | .secure => ∃ address, StandsFor s target address ∧
      ∃ place p, s.FirstPeer address place p ∧ p.isSecure = true

theorem hostAddress?_eq_some_iff :
    hostAddress? s target = some address ↔ StandsFor s target address := by
  unfold hostAddress?
  constructor
  · intro h
    split at h
    · rename_i entry hentry
      cases h
      exact .entry hentry
    · rename_i hnone
      split at h
      · rename_i hip
        cases h
        exact .literal hnone hip
      · cases h
  · rintro (hentry | ⟨hnone, hip⟩)
    · rw [hentry]
    · rw [hnone]
      exact if_pos hip

/-- A target stands for one address at the most, so what holds of some such address holds of it. -/
theorem StandsFor.exists_iff {p : String → Prop} (h : StandsFor s target address) :
    (∃ other, StandsFor s target other ∧ p other) ↔ p address := by
  constructor
  · rintro ⟨other, hother, hp⟩
    rw [← hostAddress?_eq_some_iff] at h hother
    cases h.symm.trans hother
    exact hp
  · exact fun hp => ⟨address, h, hp⟩

/-- What holds of some first peer at an address holds of the one that there is. -/
theorem exists_firstPeer_iff {holds : Peer → Prop} {place : Nat} {p : Peer}
    (h : s.FirstPeer address place p) :
    (∃ place q, s.FirstPeer address place q ∧ holds q) ↔ holds p := by
  constructor
  · rintro ⟨other, q, hq, hholds⟩
    cases (peerAt?_eq_some_iff.mpr ⟨place, h⟩).symm.trans (peerAt?_eq_some_iff.mpr ⟨other, hq⟩)
    exact hholds
  · exact fun hholds => ⟨place, p, h, hholds⟩

/-! ### Verdicts -/

/-- A verdict judges stages in their order: the first one that is not reached is hinted at. -/
inductive Judged (reached : Stage → Prop) : List Stage → Verdict → Prop
  | done : Judged reached [] .done
  | unmet {stage : Stage} {rest : List Stage} (h : ¬reached stage) :
      Judged reached (stage :: rest) (.pending stage.hint)
  | met {stage : Stage} {rest : List Stage} {verdict : Verdict} (h : reached stage)
      (later : Judged reached rest verdict) : Judged reached (stage :: rest) verdict

section Judged

variable {reached : Stage → Prop} {stages : List Stage} {verdict : Verdict}

/-- All stages are reached if and only if there is nothing left to wait for. -/
theorem Judged.isDone_iff (h : Judged reached stages verdict) :
    verdict.isDone = true ↔ ∀ stage ∈ stages, reached stage := by
  induction h with
  | done => exact ⟨fun _ _ hmem => absurd hmem List.not_mem_nil, fun _ => rfl⟩
  | unmet h => exact ⟨nofun, fun hall => absurd (hall _ List.mem_cons_self) h⟩
  | met h _ ih => rw [ih, List.forall_mem_cons, and_iff_right h]

theorem Judged.eq_done (h : Judged reached stages verdict) (hdone : verdict.isDone = true) :
    verdict = .done := by
  induction h with
  | done => rfl
  | unmet h => cases hdone
  | met _ _ ih => exact ih hdone

/-- The first stage that is not reached is hinted at. -/
theorem Judged.eq_pending {before after : List Stage} {stage : Stage}
    (h : Judged reached (before ++ stage :: after) verdict) (hbefore : ∀ e ∈ before, reached e)
    (hunmet : ¬reached stage) : verdict = .pending stage.hint := by
  induction before with
  | nil =>
    cases h with
    | unmet h => rfl
    | met h later => exact absurd h hunmet
  | cons e before ih =>
    obtain ⟨he, hrest⟩ := List.forall_mem_cons.mp hbefore
    cases h with
    | unmet h => exact absurd he h
    | met h later => exact ih later hrest

end Judged

/-- **What is said of a host** judges the stages of the connection to it. -/
theorem judged_hostVerdict (s : Snapshot) (target : String) :
    Judged (Reached s target) Stage.inOrder (hostVerdict s target) := by
  -- each guard of the verdict is a stage, so the cases follow the guards
  unfold hostVerdict
  split
  · rename_i hsize
    exact .unmet (Nat.not_le.mpr hsize)
  rename_i hsize
  refine .met (Nat.not_lt.mp hsize) ?_
  cases haddress : hostAddress? s target with
  | none =>
    refine .unmet ?_
    rintro ⟨address, hstands⟩
    cases haddress.symm.trans (hostAddress?_eq_some_iff.mpr hstands)
  | some address =>
    have hstands := hostAddress?_eq_some_iff.mp haddress
    refine .met ⟨address, hstands⟩ ?_
    cases hunspecified : isUnspecified address with
    | true =>
      have hunmet : ¬Reached s target .specified := by simp [Reached, hstands.exists_iff, hunspecified]
      rw [Option.filter_some, hunspecified]
      exact .unmet hunmet
    | false =>
      rw [Option.filter_some, hunspecified, Bool.not_false, if_pos rfl]
      refine .met (hstands.exists_iff.mpr hunspecified) ?_
      dsimp only
      cases hpeer : s.peerAt? address with
      | none =>
        have hnone := peerAt?_eq_none_iff.mp hpeer
        refine .unmet fun hknown => ?_
        obtain ⟨p, hp, hsame⟩ := hstands.exists_iff.mp hknown
        cases (hnone p hp).symm.trans hsame
      | some p =>
        obtain ⟨place, hfirst⟩ := peerAt?_eq_some_iff.mp hpeer
        have hmem : p ∈ s.peers := List.mem_of_getElem? hfirst.stands
        have hactive : Reached s target .active ↔ p.isActive = true :=
          hstands.exists_iff.trans (exists_firstPeer_iff hfirst)
        have hsecure : Reached s target .secure ↔ p.isSecure = true :=
          hstands.exists_iff.trans (exists_firstPeer_iff hfirst)
        refine .met (hstands.exists_iff.mpr ⟨p, hmem, hfirst.same_address⟩) ?_
        dsimp only
        cases hpActive : p.isActive with
        | false => exact .unmet fun h => Bool.false_ne_true (hpActive.symm.trans (hactive.mp h))
        | true =>
          refine .met (hactive.mpr hpActive) ?_
          cases hpSecure : p.isSecure with
          | false => exact .unmet fun h => Bool.false_ne_true (hpSecure.symm.trans (hsecure.mp h))
          | true => exact .met (hsecure.mpr hpSecure) .done

/-! ### Names and addresses -/

/-- What is said of a host depends on its address by value, and on the peers by value. -/
theorem hostVerdict_congr (hsize : a.hosts.size = b.hosts.size)
    (haddress : (hostAddress? a x).map Canonical.ofText = (hostAddress? b y).map Canonical.ofText)
    (hpeers : a.peers.map Peer.canonical = b.peers.map Peer.canonical) :
    hostVerdict a x = hostVerdict b y := by
  unfold hostVerdict
  rw [hsize]
  congr 1
  cases hx : hostAddress? a x with
  | none =>
    rw [hx, Option.map_none] at haddress
    rw [Option.map_eq_none_iff.mp haddress.symm]
    rfl
  | some u =>
    rw [hx, Option.map_some] at haddress
    obtain ⟨v, hy, huv⟩ := Option.map_eq_some_iff.mp haddress.symm
    have hspecified : isUnspecified u = isUnspecified v := congrArg Canonical.isUnspecified huv.symm
    rw [hy, Option.filter_some, Option.filter_some, hspecified]
    cases isUnspecified v with
    | true => rfl
    | false =>
      rcases peerAt?_alike hpeers huv.symm with ⟨hu, hv⟩ | ⟨_, p, q, hu, hv, _, _, hpq⟩
      · simp [hu, hv]
      · have hactive : p.isActive = q.isActive := congrArg CanonicalPeer.isActive hpq
        have hsecure : p.isSecure = q.isSecure := congrArg CanonicalPeer.isSecure hpq
        simp [hu, hv, hactive, hsecure]

/-- A spelling of a bare address that is no name in the host table stands for the address. -/
theorem hostAddress?_of_ip (hip : IsIp x) (hnone : s.hosts.get? (trimmed x) = none) :
    (hostAddress? s (trimmed x)).map Canonical.ofText = some (Canonical.ofText x) := by
  obtain ⟨ip, hip⟩ := hip
  have hread := ofText_eq_ip_iff.mp hip
  have htext : Ip.ofText? (trimmed x) = some ip := by
    rw [Ip.ofText?, toList_trimmed]
    exact hread
  have hvalue : Canonical.ofText (trimmed x) = .ip ip := by
    rw [ofText_eq_ip_iff, toList_trimmed, Ip.trim_eq_self hread]
    exact hread
  rw [hip, hostAddress?, hnone, htext]
  show some (Canonical.ofText (trimmed x)) = _
  rw [hvalue]

/-- **A name is waited for like its address**, however that is spelled. -/
theorem check_host_of_entry {name : String} (hname : trimmed name = name)
    (hentry : s.hosts.get? name = some address) (hip : IsIp address) (hsame : same address x = true)
    (hnone : s.hosts.get? (trimmed x) = none) : (host name).check s = (host x).check s := by
  have hvalue := same_iff.mp hsame
  obtain ⟨ip, haddress⟩ := hip
  show hostVerdict s (trimmed name) = hostVerdict s (trimmed x)
  refine hostVerdict_congr rfl ?_ rfl
  rw [hostAddress?_of_ip ⟨ip, hvalue.symm.trans haddress⟩ hnone, hname, hostAddress?, hentry,
    Option.map_some, hvalue]

/-- **Stage by stage.** Waiting for a host is over if and only if all stages of the connection are
reached, and then there is no hint; before that the hint is the one of the first stage that is not
reached.  A name whose entry in the host table is a bare address is waited for just as that address is,
in any spelling that is itself no name in the table. -/
theorem host_stages :
    (∀ s target, ((host target).check s).isDone = true ↔ ∀ stage, Reached s (trimmed target) stage) ∧
    (∀ s target, ((host target).check s).isDone = true → ((host target).check s).hint = "") ∧
    (∀ s target before stage after, Stage.inOrder = before ++ stage :: after →
      (∀ e ∈ before, Reached s (trimmed target) e) → ¬Reached s (trimmed target) stage →
      (host target).check s = ⟨false, stage.hint⟩) ∧
    (∀ (s : Snapshot) (name address x : String), trimmed name = name →
      s.hosts.get? name = some address → IsIp address → same address x = true →
      s.hosts.get? (trimmed x) = none → (host name).check s = (host x).check s) := by
  have hjudged : ∀ s target, Judged (Reached s (trimmed target)) Stage.inOrder
      ((host target).check s) := fun s target => judged_hostVerdict s (trimmed target)
  refine ⟨fun s target => ?_, fun s target hdone => ?_, ?_, ?_⟩
  · rw [(hjudged s target).isDone_iff]
    exact ⟨fun h stage => h stage stage.mem_inOrder, fun h stage _ => h stage⟩
  · rw [(hjudged s target).eq_done hdone]
    rfl
  · intro s target before stage after horder hbefore hunmet
    have h := hjudged s target
    rw [horder] at h
    exact h.eq_pending hbefore hunmet
  · intro s name address x hname hentry hip hsame hnone
    exact check_host_of_entry hname hentry hip hsame hnone

/-- A host with two peers at its address, and a name that looks like an address. -/
def doublyPeered : Snapshot where
  hosts := .ofList [("alpha", " FC94::0:1 "), ("fc94::2", "fc94::3")]
  peers := [{ address := "fc94:0::1", isActive := true, isSecure := true }, { address := "fc94::1" }]

/-- The first peer counts, whichever way the host is given; and a name that looks like an address stands
for what the host table says. -/
theorem host_stages_doublyPeered :
    (host "alpha").check doublyPeered = ⟨true, ""⟩ ∧
    (host "fc94:0000::0001").check doublyPeered = ⟨true, ""⟩ ∧
    (host "fc94::2").check doublyPeered = ⟨false, "unable to find peer in the peer list"⟩ := by
  obtain ⟨_, _, hhint, hname⟩ := host_stages
  have halpha : (host "alpha").check doublyPeered = ⟨true, ""⟩ := by decide +kernel
  have hspelled : (host "alpha").check doublyPeered = (host "fc94:0000::0001").check doublyPeered :=
    hname doublyPeered "alpha" " FC94::0:1 " "fc94:0000::0001" (by decide) (by decide)
      ⟨.v6 ⟨0xFC94, 0, 0, 0, 0, 0, 0, 1⟩, by decide +kernel⟩ (by decide +kernel) (by decide)
  refine ⟨halpha, hspelled ▸ halpha, ?_⟩
  have hstands : StandsFor doublyPeered (trimmed "fc94::2") "fc94::3" := .entry (by decide)
  have hreached : ∀ e ∈ [Stage.hosts, .located, .specified],
      Reached doublyPeered (trimmed "fc94::2") e := by
    simp only [List.forall_mem_cons]
    exact ⟨Nat.le_refl 2, ⟨_, hstands⟩, ⟨_, hstands, by decide +kernel⟩, nofun⟩
  have hnone : ∀ p ∈ doublyPeered.peers, same p.address "fc94::3" = false := by decide +kernel
  refine hhint doublyPeered "fc94::2" _ .known [.active, .secure] rfl hreached fun hknown => ?_
  obtain ⟨p, hp, hsame⟩ := hstands.exists_iff.mp hknown
  cases (hnone p hp).symm.trans hsame

end MeshControl.Wait.Condition
