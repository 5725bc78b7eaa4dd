import Mathlib.Tactic.IntervalCases
import MeshControl.Proofs.Address.Placed
import MeshControl.Proofs.Identity.Regular
import MeshControl.Proofs.Text.Blank

/-!
# Prefixes of identities

An identity has a prefix if the expanded form of its address begins with it, in any case of letters.
So the address counts by value, and what a prefix begins with is a prefix as well.  A text that can
be searched for is the prefix of some identity exactly if its colons stand where those of expanded
forms do (`Fits`).  Many other texts can be searched for, and the search for such a text uses up all
its attempts (`prefix_found_iff_fits`).
-/

namespace MeshControl.Identity

open Dialogue MeshControl.Address MeshControl.Text

variable {c : Char} {output start other : String} {i j : Identity} {ip : V6}

/-! ### Characters of a prefix -/

/-- What holds of all ASCII characters, looked at one by one. -/
theorem forall_ascii {p : Char → Prop} (h : ∀ n < 128, p (Char.ofNat n)) (hc : c.toNat < 128) :
    p c := by
  have hp := h c.toNat hc
  rwa [Char.ofNat_toNat] at hp

theorem isPrefixChar_iff : isPrefixChar c = true ↔ (hexValue? c).isSome = true ∨ c = ':' := by
  rw [isPrefixChar, Bool.or_eq_true, beq_iff_eq]

theorem toNat_of_isPrefixChar (h : isPrefixChar c = true) : c.toNat < 128 := by
  rcases isPrefixChar_iff.mp h with hhex | rfl
  · have hcode := toNat_of_hex hhex
    omega
  · decide

/-- The small form of a colon is a colon, and that of a digit is a small digit. -/
theorem toLower_of_isPrefixChar (h : isPrefixChar c = true) :
    if c = ':' then c.toLower = ':' else IsSmallHex c.toLower :=
  forall_ascii (p := fun c => isPrefixChar c = true →
    if c = ':' then c.toLower = ':' else IsSmallHex c.toLower) (by decide)
    (toNat_of_isPrefixChar h) h

/-- Blanks are not changed by the case of letters. -/
theorem isBlank_toLower (c : Char) : isBlank c.toLower = isBlank c := by
  by_cases hc : c.toNat < 128
  · exact forall_ascii (p := fun c => isBlank c.toLower = isBlank c) (by decide) hc
  · have hsame : c.toLower = c := by
      have hnot : ¬(c.val ≥ 'A'.val ∧ c.val ≤ 'Z'.val) := fun h =>
        hc (Nat.lt_of_le_of_lt (UInt32.le_iff_toNat_le.mp h.2) (by decide))
      exact dif_neg hnot
    rw [hsame]

theorem isBlank_of_isPrefixChar (h : isPrefixChar c = true) : isBlank c = false := by
  rcases isPrefixChar_iff.mp h with hhex | rfl
  · exact isBlank_of_hex hhex
  · rfl

theorem forall_isPrefixChar (searchable : isSearchable start = true) :
    ∀ c ∈ start.toList, isPrefixChar c = true := by
  have hall : start.toList.all isPrefixChar = true :=
    ((Bool.and_eq_true _ _).mp searchable).2
  exact List.all_eq_true.mp hall

/-- What is looked for in expanded forms. -/
def sought (start : String) : List Char :=
  start.toList.map Char.toLower

theorem toList_asciiLowered (s : String) : (asciiLowered s).toList = sought s := by
  rw [asciiLowered, String.toList_ofList, sought]

theorem sought_eq_of_same (hcase : sameIgnoringAsciiCase start other = true) :
    sought start = sought other := by
  have heq : asciiLowered start = asciiLowered other := beq_iff_eq.mp hcase
  rw [← toList_asciiLowered, ← toList_asciiLowered, heq]

/-- A prefix has no blanks around it, in whichever case of letters it is given. -/
theorem trim_of_sought_eq (searchable : isSearchable start = true)
    (h : sought start = sought other) : trim other.toList = other.toList := by
  refine trim_eq_self fun c hc => ?_
  have hlower : c.toLower ∈ sought start := h ▸ List.mem_map_of_mem hc
  obtain ⟨d, hd, hdc⟩ := List.mem_map.mp hlower
  rw [← isBlank_toLower, ← hdc, isBlank_toLower]
  exact isBlank_of_isPrefixChar (forall_isPrefixChar searchable d hd)

/-! ### Identities -/

/-- The address of an identity is one of version 6. -/
theorem exists_v6_of_ofOutput? (h : ofOutput? output = some i) :
    ∃ ip, Canonical.ofText i.address = .ip (.v6 ip) := by
  unfold ofOutput? at h
  split at h
  · rename_i address rest hwords
    split_ifs at h with hsome
    obtain ⟨ip, hip⟩ := Option.isSome_iff_exists.mp hsome
    obtain rfl := Option.some.inj h
    exact ⟨ip, ofText_ofList (Ip.ofChars?_of_v6 (V6.colon_mem_of_ofChars? hip) hip)⟩
  · cases h

/-- Each address of version 6 is that of an identity. -/
theorem exists_ofOutput? (ip : V6) :
    ∃ output i, ofOutput? output = some i ∧ Canonical.ofText i.address = .ip (.v6 ip) := by
  have hread : V6.ofChars? ip.expandedChars = some ip := V6.ofChars?_join group?_hexPadded ip
  have hip : Ip.ofChars? ip.expandedChars = some (.v6 ip) := Ip.ofChars?_expandedChars (.v6 ip)
  have hblank : ∀ c ∈ ip.expandedChars, isBlank c = false := fun c hc =>
    isBlank_of_isAddressChar (Ip.isAddressChar_of_ofChars? hip c hc)
  have hne : ip.expandedChars ≠ [] := List.ne_nil_of_mem (V6.colon_mem_of_ofChars? hread)
  have hwords : words (String.ofList ip.expandedChars).toList = [ip.expandedChars] := by
    rw [words, String.toList_ofList, List.splitOnP_eq_singleton hblank]
    simp [hne]
  refine ⟨String.ofList ip.expandedChars,
    ⟨String.ofList ip.expandedChars, trimmed (String.ofList ip.expandedChars)⟩, ?_,
    ofText_ofList hip⟩
  rw [ofOutput?, hwords]
  simp only [hread]
  rfl

theorem hasPrefix_iff (hip : Canonical.ofText i.address = .ip (.v6 ip))
    (htrim : trim start.toList = start.toList) :
    i.hasPrefix start = true ↔ sought start <+: ip.expandedChars := by
  have hexpanded := expanded?_eq_some_iff.mpr ⟨_, hip, rfl⟩
  have hstart : trimmed start = start := by rw [trimmed, htrim, String.ofList_toList]
  rw [hasPrefix, hexpanded, Option.any_some, startsWith, List.isPrefixOf_iff_prefix, hstart,
    toList_asciiLowered, String.toList_ofList]
  rfl

/-- **The value counts**: neither the spelling of the address nor the case of letters does. -/
theorem hasPrefix_congr (searchable : isSearchable start = true)
    (hi : ofOutput? output = some i) (hsame : same i.address j.address = true)
    (hcase : sameIgnoringAsciiCase start other = true) :
    i.hasPrefix start = j.hasPrefix other := by
  obtain ⟨ip, hip⟩ := exists_v6_of_ofOutput? hi
  have hjp : Canonical.ofText j.address = .ip (.v6 ip) := (same_iff.mp hsame).symm.trans hip
  have hsought := sought_eq_of_same hcase
  rw [Bool.eq_iff_iff, hasPrefix_iff hip (trim_of_sought_eq searchable rfl),
    hasPrefix_iff hjp (trim_of_sought_eq searchable hsought), hsought]

/-- **Shorter prefixes**: what a text that can be searched for begins with can be searched for, and
is a prefix of as many identities. -/
theorem hasPrefix_of_prefix (searchable : isSearchable start = true) (hne : other ≠ "")
    (hshorter : other.toList <+: start.toList) :
    isSearchable other = true ∧ ∀ output i, ofOutput? output = some i →
      i.hasPrefix start = true → i.hasPrefix other = true := by
  have searchable' : isSearchable other = true := by
    have hall : other.toList.all isPrefixChar = true := List.all_eq_true.mpr fun c hc =>
      forall_isPrefixChar searchable c (hshorter.subset hc)
    have hnonempty : other.isEmpty = false := by
      rw [Bool.eq_false_iff, ne_eq, String.isEmpty_iff]
      exact hne
    rw [isSearchable, hnonempty, hall]
    rfl
  refine ⟨searchable', fun output i hi h => ?_⟩
  obtain ⟨ip, hip⟩ := exists_v6_of_ofOutput? hi
  rw [hasPrefix_iff hip (trim_of_sought_eq searchable rfl)] at h
  rw [hasPrefix_iff hip (trim_of_sought_eq searchable' rfl)]
  exact (hshorter.map Char.toLower).trans h

/-! ### Texts that are prefixes -/

/-- A text is no longer than expanded forms, and its colons stand where theirs do. -/
structure Fits (start : String) : Prop where
  length_le : start.length ≤ 39
  colons : ∀ k c, start.toList[k]? = some c → (c = ':' ↔ k % 5 = 4)

theorem isPlaced_sought_iff (searchable : isSearchable start = true) :
    IsPlaced (sought start) ↔ ∀ k c, start.toList[k]? = some c → (c = ':' ↔ k % 5 = 4) := by
  have hcolon : ¬IsSmallHex ':' := by decide
  constructor
  · intro h k c hk
    have hchar := forall_isPrefixChar searchable c (List.mem_of_getElem? hk)
    have hlower := toLower_of_isPrefixChar hchar
    have hplace := h k c.toLower (by rw [sought, List.getElem?_map, hk]; rfl)
    split_ifs at hlower hplace with hc hmod hmod
    · exact iff_of_true hc hmod
    · exact absurd (hlower ▸ hplace) hcolon
    · exact absurd (hplace ▸ hlower) hcolon
    · exact iff_of_false hc hmod
  · intro h k d hk
    rw [sought, List.getElem?_map] at hk
    obtain ⟨c, hc, rfl⟩ := Option.map_eq_some_iff.mp hk
    have hchar := forall_isPrefixChar searchable c (List.mem_of_getElem? hc)
    have hlower := toLower_of_isPrefixChar hchar
    simpa only [h k c hc] using hlower

/-- **A text is the prefix of an identity if and only if it fits.** -/
theorem exists_hasPrefix_iff (searchable : isSearchable start = true) :
    (∃ output i, ofOutput? output = some i ∧ i.hasPrefix start = true) ↔ Fits start := by
  have htrim : trim start.toList = start.toList := trim_of_sought_eq searchable rfl
  have hlength : (sought start).length = start.length := by
    rw [sought, List.length_map, String.length_toList]
  have hfits : (∃ ip : V6, sought start <+: ip.expandedChars) ↔ Fits start := by
    rw [exists_expandedChars_iff, isPlaced_sought_iff searchable, hlength]
    exact ⟨fun h => ⟨h.1, h.2⟩, fun h => ⟨h.length_le, h.colons⟩⟩
  rw [← hfits]
  constructor
  · rintro ⟨output, i, hi, h⟩
    obtain ⟨ip, hip⟩ := exists_v6_of_ofOutput? hi
    exact ⟨ip, (hasPrefix_iff hip htrim).mp h⟩
  · rintro ⟨ip, h⟩
    obtain ⟨output, i, hi, hip⟩ := exists_ofOutput? ip
    exact ⟨output, i, hi, (hasPrefix_iff hip htrim).mpr h⟩

/-! ### Searching in vain -/

namespace Search

variable {workers : Workers} {attempts : Nat} {steps : List Step} {s : State}

/-- The generator yields an identity that was read from some output. -/
def Yields (outcome : Outcome) : Prop :=
  ∃ output i, ofOutput? output = some i ∧ outcome = .ok i

/-- No identity that is read from an output is a match. -/
theorem isMiss_of_yields {outcome : Outcome}
    (hnone : ¬∃ output i, ofOutput? output = some i ∧ i.hasPrefix start = true)
    (h : Yields outcome) : IsMiss start outcome := by
  obtain ⟨output, i, hi, rfl⟩ := h
  have hmiss : ¬i.hasPrefix start = true := fun hprefix => hnone ⟨output, i, hi, hprefix⟩
  exact ⟨by rw [match?, if_neg hmiss], rfl⟩

/-- **A search in vain** makes all its attempts and yields nothing. -/
theorem Run.result_of_miss (run : Run workers start { left := attempts } steps s)
    (hmiss : ∀ outcome ∈ generated steps, IsMiss start outcome) (hover : s.phase = .over) :
    s.result = .ok none ∧ (generated steps).length = attempts := by
  have hregular := run.regular
  have hnone := (hregular.result_eq_none_iff hover).mpr hmiss
  exact ⟨hnone, hregular.calls_of_none hover hnone⟩

/-- A search that is not over has a move whatever identity comes next. -/
theorem State.exists_move_yielding (hover : s.phase ≠ .over) (outcome : Outcome) :
    ∃ move, generated [⟨s, move⟩] ⊆ [outcome] ∧ (s.step? workers start move).isSome := by
  obtain ⟨move, hmove⟩ : ∃ move, (s.step? workers start move).isSome := State.exists_move hover
  cases move with
  | generate task other =>
    refine ⟨.generate task outcome, List.Subset.refl _, ?_⟩
    simp only [State.step?] at hmove ⊢
    split at hmove
    · rfl
    · cases hmove
  | advance | record _ | release _ => exact ⟨_, List.nil_subset _, hmove⟩

end Search

/-- **Which prefixes are found.**  Whether an identity has a prefix is a matter of the value of its
address and of the letters of the prefix in any case, and an identity has each shorter prefix of one
that it has.  A text that can be searched for is the prefix of some identity if and only if it fits
into an expanded form.  The search for any other uses up its attempts, if the generator never fails,
and finds nothing, however many workers it has of those that there can be: in each order in which they
may take their turns no run is longer than a bound, a run that is not over can go on with any identity,
and one that is over has made all the attempts. -/
theorem prefix_found_iff_fits (start : String) (searchable : isSearchable start = true) :
    (∀ output output' i j other, ofOutput? output = some i → ofOutput? output' = some j →
      same i.address j.address = true → sameIgnoringAsciiCase start other = true →
      i.hasPrefix start = j.hasPrefix other) ∧
    (∀ output i other, ofOutput? output = some i → i.hasPrefix start = true → other ≠ "" →
      other.toList <+: start.toList → isSearchable other = true ∧ i.hasPrefix other = true) ∧
    ((∃ output i, ofOutput? output = some i ∧ i.hasPrefix start = true) ↔ Fits start) ∧
    (¬Fits start → ∀ (workers : Search.Workers) (count attempts : Nat), workers.count = max 1 count →
      (∀ steps s, Search.Run workers start { left := attempts } steps s →
        (∀ outcome ∈ Search.generated steps, Search.Yields outcome) →
          steps.length ≤ 8 * attempts + 6 ∧
          (s.phase ≠ .over → ∀ output i, ofOutput? output = some i →
            ∃ move, Search.generated [⟨s, move⟩] ⊆ [.ok i] ∧
              (s.step? workers start move).isSome) ∧
          (s.phase = .over →
            s.result = .ok none ∧ (Search.generated steps).length = attempts)) ∧
      ∀ log result?, (search start count attempts).Branch log result? →
        (∀ outcome ∈ Search.outcomes log, Search.Yields outcome) →
          result? = some (.ok none) ∧ log.length = attempts) := by
  refine ⟨fun output output' i j other hi _ => hasPrefix_congr searchable hi, ?_,
    exists_hasPrefix_iff searchable, ?_⟩
  · intro output i other hi h hne hshorter
    obtain ⟨searchable', hlonger⟩ := hasPrefix_of_prefix searchable hne hshorter
    exact ⟨searchable', hlonger output i hi h⟩
  · intro hfits workers count attempts hcount
    have hmiss : ∀ outcome, Search.Yields outcome → Search.IsMiss start outcome := fun outcome =>
      Search.isMiss_of_yields (hfits ∘ (exists_hasPrefix_iff searchable).mp)
    constructor
    · intro steps s run hyields
      refine ⟨run.regular.length_le, fun hover output i _ => ?_, fun hover => ?_⟩
      · exact Search.State.exists_move_yielding hover (.ok i)
      · exact run.result_of_miss (fun outcome hmem => hmiss outcome (hyields outcome hmem)) hover
    · intro log result? h hyields
      obtain ⟨steps, s, run, hover, rfl, hgenerated⟩ :=
        Search.exists_run_of_branch_search hcount searchable h
      obtain ⟨hnone, hlength⟩ := run.result_of_miss
        (fun outcome hmem => hmiss outcome (hyields outcome (hgenerated ▸ hmem))) hover
      rw [hgenerated, Search.outcomes, List.length_map] at hlength
      exact ⟨congrArg some hnone, hlength⟩

/-- A search with two workers whose generator yields one identity again and again. -/
def searchAmong (i : Identity) (start : String) (attempts : Nat) :
    Option (Except SearchError (Option Identity)) × Unit ×
      List (Exchange Search.Call Search.Call.Answer) :=
  (search start 2 attempts).runLogged (fun s q => match q with | .generate => (.ok i, s)) ()

/-- The address `fc94:a::1` is found by a prefix with all digits of its second group, and not by one
that leaves zeros out: the search for that one is in vain. -/
theorem prefix_found_iff_fits_shortGroup :
    isSearchable "FC94:000a" = true ∧ (∃ output i, ofOutput? output = some i ∧
      i.hasPrefix "FC94:000a" = true) ∧
    isSearchable "fc94:a:" = true ∧ ¬Fits "fc94:a:" ∧
    (searchAmong ⟨"fc94:a::1", "fc94:a::1 key"⟩ "fc94:a:" 2).1 = some (.ok none) := by
  have searchable : isSearchable "FC94:000a" = true := by decide
  have searchable' : isSearchable "fc94:a:" = true := by decide
  have hfits : Fits "FC94:000a" := by
    refine ⟨by decide, fun k c hk => ?_⟩
    have hlist : "FC94:000a".toList = ['F', 'C', '9', '4', ':', '0', '0', '0', 'a'] := rfl
    rw [hlist] at hk
    have hlt : k < 9 := (List.getElem?_eq_some_iff.mp hk).1
    interval_cases k <;> obtain rfl := Option.some.inj hk <;> decide
  have hmisplaced : ¬Fits "fc94:a:" := fun h =>
    absurd ((h.colons 6 ':' rfl).mp rfl) (by decide)
  have hyields : Search.Yields (.ok ⟨"fc94:a::1", "fc94:a::1 key"⟩) :=
    ⟨"fc94:a::1 key", _, by decide +kernel, rfl⟩
  have hbranch : (search "fc94:a:" 2 2).Branch
      (searchAmong ⟨"fc94:a::1", "fc94:a::1 key"⟩ "fc94:a:" 2).2.2
      (searchAmong ⟨"fc94:a::1", "fc94:a::1 key"⟩ "fc94:a:" 2).1 := branch_runLogged _ _ _
  have hmiss : hasPrefix ⟨"fc94:a::1", "fc94:a::1 key"⟩ "fc94:a:" = false := by decide +kernel
  have hworkers : Search.Workers.ofCount? 2 = some Search.pair :=
    Search.Workers.ofCount?_eq_some_iff.mpr rfl
  have hlog : (searchAmong ⟨"fc94:a::1", "fc94:a::1 key"⟩ "fc94:a:" 2).2.2 =
      [⟨.generate, .ok ⟨"fc94:a::1", "fc94:a::1 key"⟩⟩,
        ⟨.generate, .ok ⟨"fc94:a::1", "fc94:a::1 key"⟩⟩] := by
    simp [searchAmong, search, searchable', hworkers, Search.rounds, Search.State.isDone,
      Search.State.isFilled, Search.State.note, runLogged, query, hmiss]
  rw [hlog] at hbranch
  obtain ⟨_, _, hfound, _⟩ := prefix_found_iff_fits "FC94:000a" searchable
  obtain ⟨_, _, _, hvain⟩ := prefix_found_iff_fits "fc94:a:" searchable'
  have hall : ∀ outcome ∈ Search.outcomes [⟨.generate, .ok ⟨"fc94:a::1", "fc94:a::1 key"⟩⟩,
      ⟨.generate, .ok ⟨"fc94:a::1", "fc94:a::1 key"⟩⟩], Search.Yields outcome :=
    List.forall_mem_cons.mpr ⟨hyields, List.forall_mem_singleton.mpr hyields⟩
  have hresult := ((hvain hmisplaced Search.pair 2 2 rfl).2 _ _ hbranch hall).1
  exact ⟨searchable, hfound.mpr hfits, searchable', hmisplaced, hresult⟩

end MeshControl.Identity
