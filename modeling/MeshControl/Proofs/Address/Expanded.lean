import MeshControl.Address.Canonical
import MeshControl.Identity.Basic
import MeshControl.Proofs.Address.Reading
import MeshControl.Proofs.Sorting

/-!
# The expanded form

Each bare address has one expanded form, and that is a text of the address: a dotted quad
(`IsDottedQuad`) or eight groups of four digits (`IsEightGroups`).  These two forms are described here
by their characters alone, and the expanded texts are exactly the texts of one of them
(`expanded?_eq_self_iff`).

So equality of expanded texts is equality of addresses, and what compares such texts compares
addresses: texts that are shown, lists that are put into order by them, and prefixes that are looked
for in them (`expanded_names_address`).
-/

namespace MeshControl.Address

open MeshControl.Text

/-- A text of a bare address. -/
def IsIp (a : String) : Prop :=
  ∃ ip, Canonical.ofText a = .ip ip

/-- Four decimal numbers below 256 with dots between them. -/
def IsDottedQuad (x : String) : Prop :=
  ∃ octets : List Nat, octets.length = 4 ∧ (∀ n ∈ octets, n < 256) ∧
    x.toList = ['.'].intercalate (octets.map (Nat.toDigits 10))

/-- Eight groups of four small hexadecimal digits with colons between them, 39 characters in all. -/
structure IsEightGroups (x : String) : Prop where
  length_eq : x.length = 39
  groups : ∃ groups : List (List Char), groups.length = 8 ∧
    (∀ g ∈ groups, g.length = 4 ∧ ∀ c ∈ g, IsSmallHex c) ∧ x.toList = [':'].intercalate groups

variable {a b x y : String} {c : Char} {cs : List Char}

/-! ### Values of texts -/

theorem ofText_eq_ip_iff {ip : Ip} :
    Canonical.ofText a = .ip ip ↔ Ip.ofChars? (trim a.toList) = some ip := by
  unfold Canonical.ofText
  cases Ip.ofChars? (trim a.toList) with
  | some address => simp
  | none => cases Socket.ofChars? (trim a.toList) <;> simp

/-- What is written as an address has that value. -/
theorem ofText_ofList {ip : Ip} (h : Ip.ofChars? cs = some ip) :
    Canonical.ofText (String.ofList cs) = .ip ip := by
  rw [ofText_eq_ip_iff, String.toList_ofList, Ip.trim_eq_self h]
  exact h

theorem expanded?_eq_some_iff :
    expanded? a = some x ↔ ∃ ip, Canonical.ofText a = .ip ip ∧ x = String.ofList ip.expandedChars := by
  rw [expanded?, Option.map_eq_some_iff]
  simp only [ofText_eq_ip_iff, eq_comm (a := x)]

/-! ### Reading the expanded form -/

theorem colon_mem_join (p q : List Char) (parts : List (List Char)) :
    ':' ∈ join (p :: q :: parts) := by
  rw [join_cons_cons]
  exact List.mem_append_right _ List.mem_cons_self

/-- The expanded form of an address is one of its texts. -/
theorem Ip.ofChars?_expandedChars (ip : Ip) : Ip.ofChars? ip.expandedChars = some ip := by
  cases ip with
  | v4 quad => exact Ip.ofChars?_of_v4 quad.ofChars?_chars
  | v6 groups =>
    exact Ip.ofChars?_of_v6 (colon_mem_join _ _ _) (V6.ofChars?_join group?_hexPadded groups)

theorem ofText_expandedChars (ip : Ip) :
    Canonical.ofText (String.ofList ip.expandedChars) = .ip ip :=
  ofText_ofList ip.ofChars?_expandedChars

/-- **The expanded form keeps the address** and is its own expanded form. -/
theorem ofText_of_expanded? (h : expanded? a = some x) :
    Canonical.ofText a = Canonical.ofText x ∧ expanded? x = some x := by
  obtain ⟨ip, hip, rfl⟩ := expanded?_eq_some_iff.mp h
  have hread := ofText_expandedChars ip
  exact ⟨hip.trans hread.symm, expanded?_eq_some_iff.mpr ⟨ip, hread, rfl⟩⟩

/-- **One form for each address.** Expanded forms are equal if and only if they are of one address. -/
theorem expanded?_eq_iff (ha : expanded? a = some x) (hb : expanded? b = some y) :
    x = y ↔ same a b = true := by
  rw [same_iff, (ofText_of_expanded? ha).1, (ofText_of_expanded? hb).1]
  constructor
  · rintro rfl
    rfl
  · intro h
    obtain ⟨ip, hip, rfl⟩ := expanded?_eq_some_iff.mp (ofText_of_expanded? ha).2
    obtain ⟨jp, hjp, rfl⟩ := expanded?_eq_some_iff.mp (ofText_of_expanded? hb).2
    rw [hip, hjp] at h
    cases h
    rfl

/-! ### The two forms -/

theorem isDottedQuad_iff : IsDottedQuad x ↔ ∃ ip : V4, x = String.ofList ip.chars := by
  constructor
  · rintro ⟨octets, hlength, hlt, hx⟩
    obtain ⟨a, b, c, d, rfl⟩ : ∃ a b c d, octets = [a, b, c, d] := by
      match octets, hlength with
      | [a, b, c, d], _ => exact ⟨a, b, c, d, rfl⟩
    refine ⟨⟨.ofNat a, .ofNat b, .ofNat c, .ofNat d⟩, ?_⟩
    have hoctet : ∀ n ∈ [a, b, c, d], (UInt8.ofNat n).toNat = n :=
      fun n hn => UInt8.toNat_ofNat_of_lt' (hlt n hn)
    rw [← String.toList_inj, String.toList_ofList, hx, V4.chars_eq]
    dsimp only
    rw [hoctet a (by simp), hoctet b (by simp), hoctet c (by simp), hoctet d (by simp)]
    rfl
  · rintro ⟨ip, rfl⟩
    refine ⟨[ip.a.toNat, ip.b.toNat, ip.c.toNat, ip.d.toNat], rfl, ?_, ?_⟩
    · intro n hn
      simp only [List.mem_cons, List.not_mem_nil, or_false] at hn
      obtain rfl | rfl | rfl | rfl := hn <;> exact UInt8.toNat_lt _
    · rw [String.toList_ofList, V4.chars_eq]
      rfl

/-- Four small digits are the digits of a group. -/
theorem exists_group {g : List Char} (hlength : g.length = 4) (hsmall : ∀ c ∈ g, IsSmallHex c) :
    ∃ n : UInt16, g = hexPadded 4 n.toNat := by
  obtain ⟨n, hn, hdigits⟩ := exists_hexPadded hsmall
  rw [hlength] at hn hdigits
  have hvalue : (UInt16.ofNat n).toNat = n := UInt16.toNat_ofNat_of_lt' hn
  exact ⟨.ofNat n, by rw [hvalue, hdigits]⟩

theorem exists_groups {groups : List (List Char)}
    (h : ∀ g ∈ groups, g.length = 4 ∧ ∀ c ∈ g, IsSmallHex c) :
    ∃ ns : List UInt16, groups = ns.map fun n => hexPadded 4 n.toNat := by
  induction groups with
  | nil => exact ⟨[], rfl⟩
  | cons g rest ih =>
    obtain ⟨hlength, hsmall⟩ := h g List.mem_cons_self
    obtain ⟨n, rfl⟩ := exists_group hlength hsmall
    obtain ⟨ns, rfl⟩ := ih fun g hg => h g (List.mem_cons_of_mem _ hg)
    exact ⟨n :: ns, rfl⟩

theorem isEightGroups_iff : IsEightGroups x ↔ ∃ ip : V6, x = String.ofList ip.expandedChars := by
  constructor
  · rintro ⟨_, groups, hlength, hgroups, hx⟩
    obtain ⟨ns, rfl⟩ := exists_groups hgroups
    rw [List.length_map] at hlength
    match ns, hlength with
    | [a, b, c, d, e, f, g, h], _ =>
      exact ⟨⟨a, b, c, d, e, f, g, h⟩, by rw [← String.toList_inj, String.toList_ofList, hx]; rfl⟩
  · rintro ⟨ip, rfl⟩
    refine ⟨?_, ip.groups.map fun g => hexPadded 4 g.toNat, rfl, ?_, ?_⟩
    · rw [String.length_ofList]
      simp [V6.expandedChars, V6.groups, List.intercalate_cons_cons, List.intercalate_singleton]
    · intro g hg
      obtain ⟨n, _, rfl⟩ := List.mem_map.mp hg
      exact ⟨length_hexPadded 4 _, fun c hc => isSmallHex_of_mem_hexPadded hc⟩
    · rw [String.toList_ofList, V6.expandedChars]

/-- **The expanded texts** are the dotted quads and the texts of eight groups. -/
theorem expanded?_eq_self_iff : expanded? x = some x ↔ IsDottedQuad x ∨ IsEightGroups x := by
  rw [isDottedQuad_iff, isEightGroups_iff]
  constructor
  · intro h
    obtain ⟨ip | ip, _, hx⟩ := expanded?_eq_some_iff.mp h
    · exact .inl ⟨ip, hx⟩
    · exact .inr ⟨ip, hx⟩
  · rintro (⟨ip, rfl⟩ | ⟨ip, rfl⟩)
    · exact expanded?_eq_some_iff.mpr ⟨.v4 ip, ofText_expandedChars (.v4 ip), rfl⟩
    · exact expanded?_eq_some_iff.mpr ⟨.v6 ip, ofText_expandedChars (.v6 ip), rfl⟩

/-! ### Texts that are shown -/

/-- Texts are shown alike if they are equal or of one bare address. -/
theorem expandedOrSelf_eq_iff :
    expandedOrSelf a = expandedOrSelf b ↔ a = b ∨ IsIp a ∧ same a b = true := by
  constructor
  · unfold expandedOrSelf
    cases ha : expanded? a with
    | some x =>
      obtain ⟨ip, hip, _⟩ := expanded?_eq_some_iff.mp ha
      intro h
      cases hb : expanded? b with
      | some y =>
        rw [hb] at h
        exact .inr ⟨⟨ip, hip⟩, (expanded?_eq_iff ha hb).mp h⟩
      | none =>
        -- a text that is no address is not shown like one, because that would be an address
        rw [hb] at h
        obtain rfl : x = b := h
        cases hb.symm.trans (ofText_of_expanded? ha).2
    | none =>
      intro h
      cases hb : expanded? b with
      | some y =>
        rw [hb] at h
        obtain rfl : a = y := h
        cases ha.symm.trans (ofText_of_expanded? hb).2
      | none =>
        rw [hb] at h
        exact .inl h
  · rintro (rfl | ⟨⟨ip, hip⟩, hsame⟩)
    · rfl
    · have hb : Canonical.ofText b = .ip ip := (same_iff.mp hsame).symm.trans hip
      rw [expandedOrSelf, expandedOrSelf, expanded?_eq_some_iff.mpr ⟨ip, hip, rfl⟩,
        expanded?_eq_some_iff.mpr ⟨ip, hb, rfl⟩, Option.getD_some, Option.getD_some]

/-- In the order of the texts that are shown, the texts of one address stand together. -/
theorem same_of_between {entries front middle back : List String} {z : String}
    (h : (entries.mergeSort fun a b => expandedOrSelf a ≤ expandedOrSelf b) =
      front ++ a :: (middle ++ z :: back)) (ha : IsIp a) (hz : same a z = true) (hb : b ∈ middle) :
    same a b = true := by
  have hsorted : (entries.mergeSort fun a b => expandedOrSelf a ≤ expandedOrSelf b).Pairwise
      fun a b => expandedOrSelf a ≤ expandedOrSelf b := pairwise_mergeSort_key entries
  rw [h] at hsorted
  obtain ⟨_, hsorted, _⟩ := List.pairwise_append.mp hsorted
  obtain ⟨hfirst, hsorted⟩ := List.pairwise_cons.mp hsorted
  obtain ⟨_, _, hlast⟩ := List.pairwise_append.mp hsorted
  have hab : expandedOrSelf a ≤ expandedOrSelf b := hfirst b (List.mem_append_left _ hb)
  have hbz : expandedOrSelf b ≤ expandedOrSelf z := hlast b hb z List.mem_cons_self
  have haz : expandedOrSelf a = expandedOrSelf z := expandedOrSelf_eq_iff.mpr (.inr ⟨ha, hz⟩)
  rw [← haz] at hbz
  rcases expandedOrSelf_eq_iff.mp (String.le_antisymm hab hbz) with rfl | ⟨_, hsame⟩
  · exact same_refl a
  · exact hsame

/-! ### Prefixes -/

theorem mem_expandedChars {ip : Ip} (h : c ∈ ip.expandedChars) :
    IsSmallHex c ∨ c = ':' ∨ c = '.' := by
  cases ip with
  | v4 quad =>
    rcases V4.digit_or_dot quad.ofChars?_chars h with hdigit | hdot
    · unfold decimalValue? at hdigit
      split at hdigit
      · rename_i hrange
        exact .inl (.inl hrange)
      · cases hdigit
    · exact .inr (.inr hdot)
  | v6 groups =>
    rcases mem_of_mem_intercalate h with hcolon | ⟨p, hp, hc⟩
    · exact .inr (.inl hcolon)
    · obtain ⟨g, _, rfl⟩ := List.mem_map.mp hp
      exact .inl (isSmallHex_of_mem_hexPadded hc)

/-- A prefix that is an expanded text is looked for as it is. -/
theorem asciiLowered_of_expanded? (h : expanded? a = some x) : asciiLowered (trimmed x) = x := by
  obtain ⟨ip, _, rfl⟩ := expanded?_eq_some_iff.mp h
  have hlower : ∀ c ∈ ip.expandedChars, c.toLower = c := by
    intro c hc
    rcases mem_expandedChars hc with hsmall | rfl | rfl
    · obtain ⟨d, hd, rfl⟩ := exists_digitChar hsmall
      exact (by decide : ∀ d < 16, (Nat.digitChar d).toLower = Nat.digitChar d) d hd
    · rfl
    · rfl
  rw [asciiLowered, toList_trimmed, String.toList_ofList, Ip.trim_eq_self ip.ofChars?_expandedChars,
    List.map_congr_left hlower, List.map_id']

/-- Identities with the same prefixes have the same address. -/
theorem hasPrefix_eq_iff {i j : Identity} (hi : IsIp i.address) (hj : IsIp j.address) :
    (∀ start, i.hasPrefix start = j.hasPrefix start) ↔ same i.address j.address = true := by
  obtain ⟨ip, hip⟩ := hi
  obtain ⟨jp, hjp⟩ := hj
  have hx := expanded?_eq_some_iff.mpr ⟨ip, hip, rfl⟩
  have hy := expanded?_eq_some_iff.mpr ⟨jp, hjp, rfl⟩
  rw [← expanded?_eq_iff hx hy]
  constructor
  · intro h
    -- each of the two texts is a prefix of itself, and so of the other one
    have hxy := h (String.ofList ip.expandedChars)
    have hyx := h (String.ofList jp.expandedChars)
    simp only [Identity.hasPrefix, hx, hy, Option.any_some, startsWith,
      asciiLowered_of_expanded? hx, asciiLowered_of_expanded? hy] at hxy hyx
    rw [List.isPrefixOf_iff_prefix.mpr (List.prefix_refl _)] at hxy hyx
    have hle := List.isPrefixOf_iff_prefix.mp hxy.symm
    have hge := List.isPrefixOf_iff_prefix.mp hyx
    exact String.toList_inj.mp (hle.eq_of_length_le hge.length_le)
  · intro h start
    rw [Identity.hasPrefix, Identity.hasPrefix, hx, hy, h]

/-! ### Together -/

/-- **An expanded text names one address, and an address has one expanded text.** The expanded text of
an address is a text of it, is its own expanded text, and is a dotted quad or eight groups of four
digits, as every such text is.  Bare addresses are the texts that have one, and two of them are the same
address if and only if they have the same.

So nothing that compares expanded texts takes two addresses for one or one for two: texts shown are
equal only if they were equal or are of one address, in a list in the order of these texts the texts of
one address stand together, and identities have the same prefixes if and only if they have the same
address. -/
theorem expanded_names_address :
    (∀ a x, expanded? a = some x →
      same a x = true ∧ expanded? x = some x ∧ (IsDottedQuad x ∨ IsEightGroups x)) ∧
    (∀ x, IsDottedQuad x ∨ IsEightGroups x → expanded? x = some x) ∧
    (∀ a, (∃ x, expanded? a = some x) ↔ ∃ ip, Canonical.ofText a = .ip ip) ∧
    (∀ a b x y, expanded? a = some x → expanded? b = some y → (x = y ↔ same a b = true)) ∧
    (∀ a b, expandedOrSelf a = expandedOrSelf b ↔ a = b ∨ IsIp a ∧ same a b = true) ∧
    (∀ (entries front middle back : List String) (a z : String),
      (entries.mergeSort fun a b => expandedOrSelf a ≤ expandedOrSelf b) =
        front ++ a :: (middle ++ z :: back) →
      IsIp a → same a z = true → ∀ b ∈ middle, same a b = true) ∧
    (∀ i j : Identity, IsIp i.address → IsIp j.address →
      ((∀ start, i.hasPrefix start = j.hasPrefix start) ↔ same i.address j.address = true)) := by
  refine ⟨?_, fun x => expanded?_eq_self_iff.mpr, ?_, fun a b x y => expanded?_eq_iff,
    fun a b => expandedOrSelf_eq_iff, ?_, fun i j => hasPrefix_eq_iff⟩
  · intro a x h
    obtain ⟨hvalue, hself⟩ := ofText_of_expanded? h
    exact ⟨same_iff.mpr hvalue, hself, expanded?_eq_self_iff.mp hself⟩
  · intro a
    constructor
    · rintro ⟨x, hx⟩
      obtain ⟨ip, hip, _⟩ := expanded?_eq_some_iff.mp hx
      exact ⟨ip, hip⟩
    · rintro ⟨ip, hip⟩
      exact ⟨_, expanded?_eq_some_iff.mpr ⟨ip, hip, rfl⟩⟩
  · intro entries front middle back a z h ha hz b hb
    exact same_of_between h ha hz hb

/-- An address that is spelled in two ways, one of them with a part in decimal digits, has one expanded
text; and an address of version 4 is kept apart from the one of version 6 that maps it. -/
theorem expanded_names_address_mapped :
    expanded? " ::FFFF:102:304" = some "0000:0000:0000:0000:0000:ffff:0102:0304" ∧
    same " ::FFFF:102:304" "0:0:0:0:0:ffff:1.2.3.4" = true ∧
    expanded? "1.2.3.4" = some "1.2.3.4" ∧ same " ::FFFF:102:304" "1.2.3.4" = false := by
  have hsmall : expanded? "0:0:0:0:0:ffff:1.2.3.4" =
      some "0000:0000:0000:0000:0000:ffff:0102:0304" := by decide +kernel
  have hcapital : expanded? " ::FFFF:102:304" =
      some "0000:0000:0000:0000:0000:ffff:0102:0304" := by decide +kernel
  have hquad : expanded? "1.2.3.4" = some "1.2.3.4" := by decide +kernel
  obtain ⟨_, _, _, hiff, _⟩ := expanded_names_address
  refine ⟨hcapital, (hiff _ _ _ _ hcapital hsmall).mp rfl, hquad, Bool.eq_false_iff.mpr fun h => ?_⟩
  exact absurd ((hiff _ _ _ _ hcapital hquad).mpr h) (by decide)

end MeshControl.Address
