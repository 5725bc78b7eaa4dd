import MeshControl.Proofs.Address.Parts

/-!
# Reading addresses

What the readers accept and what they read back.  Every reader takes a text apart completely, so the
text of an address has no other characters than hexadecimal digits, colons and dots
(`isAddressChar_of_ofChars?`), and a text with a colon is no dotted quad (`V4.ofChars?_eq_none`).

A way of writing groups that is read group by group (`hwrite`) is also read as a whole, with all eight
groups written (`V6.ofChars?_join`) and with a double colon in place of zero groups
(`V6.ofChars?_double`).
-/

namespace MeshControl.Address

open MeshControl.Text

variable {c : Char} {cs p : List Char}

/-! ### Numbers -/

theorem octet?_decimal (n : UInt8) : octet? (decimal n.toNat) = some n := by
  have h : ∀ n < 256, octet? (decimal n) = some (UInt8.ofNat n) := by decide +kernel
  rw [h n.toNat n.toNat_lt, UInt8.ofNat_toNat]

theorem group?_of_hexadecimal? {n : UInt16} (hlength : cs.length ≤ 4)
    (h : hexadecimal? cs = some n.toNat) : group? cs = some n := by
  rw [group?, if_pos hlength, h, Option.map_some, UInt16.ofNat_toNat]

theorem group?_hexadecimal (n : UInt16) : group? (hexadecimal n.toNat) = some n := by
  have hlength : (hexadecimal n.toNat).length ≤ 4 :=
    (Nat.length_toDigits_le_iff (by omega) (by omega)).mpr n.toNat_lt
  exact group?_of_hexadecimal? hlength (hexadecimal?_hexadecimal _)

theorem group?_hexPadded (n : UInt16) : group? (hexPadded 4 n.toNat) = some n :=
  group?_of_hexadecimal? (Nat.le_of_eq (length_hexPadded 4 _))
    (hexadecimal?_hexPadded (by omega) n.toNat_lt)

theorem port?_decimal (n : UInt16) : port? (decimal n.toNat) = some n := by
  rw [port?, decimal?_decimal, Option.bind_some, if_pos n.toNat_lt, UInt16.ofNat_toNat]

theorem scope?_decimal (n : UInt32) : scope? (decimal n.toNat) = some n := by
  rw [scope?, decimal?_decimal, Option.bind_some, if_pos n.toNat_lt, UInt32.ofNat_toNat]

theorem isSome_of_octet? {n : UInt8} (h : octet? cs = some n) :
    ∀ c ∈ cs, (decimalValue? c).isSome = true := by
  unfold octet? at h
  split at h
  · obtain ⟨m, hm, _⟩ := Option.bind_eq_some_iff.mp h
    exact isSome_of_decimal? hm
  · cases h

theorem isSome_of_group? {n : UInt16} (h : group? cs = some n) :
    cs ≠ [] ∧ ∀ c ∈ cs, (hexValue? c).isSome = true := by
  unfold group? at h
  split at h
  · obtain ⟨m, hm, _⟩ := Option.map_eq_some_iff.mp h
    exact isSome_of_hexadecimal? hm
  · cases h

theorem ne_of_hex {d : Char} (hc : (hexValue? c).isSome = true)
    (hd : (hexValue? d).isSome = false) : c ≠ d := by
  rintro rfl
  cases hc.symm.trans hd

/-- The text of a group is a part between colons. -/
theorem isPart_of_group? {n : UInt16} (h : group? p = some n) : IsPart p := by
  obtain ⟨hne, hhex⟩ := isSome_of_group? h
  exact ⟨hne, fun hmem => ne_of_hex (hhex _ hmem) rfl rfl⟩

/-! ### Dotted quads -/

namespace V4

theorem chars_eq (ip : V4) : ip.chars = ['.'].intercalate
    [decimal ip.a.toNat, decimal ip.b.toNat, decimal ip.c.toNat, decimal ip.d.toNat] := by
  simp [chars, List.intercalate_cons_cons, List.intercalate_singleton]

/-- A dotted quad is read back. -/
theorem ofChars?_chars (ip : V4) : ofChars? ip.chars = some ip := by
  have hsplit : ip.chars.splitOn '.' =
      [decimal ip.a.toNat, decimal ip.b.toNat, decimal ip.c.toNat, decimal ip.d.toNat] := by
    rw [chars_eq]
    refine List.splitOn_intercalate '.' (fun p hp hdot => ?_) (List.cons_ne_nil _ _)
    have hdigit : ∀ n : Nat, '.' ∉ decimal n := by
      intro n hmem
      cases Nat.isDigit_of_mem_toDigits (by omega) (by omega) hmem
    simp only [List.mem_cons, List.not_mem_nil, or_false] at hp
    obtain rfl | rfl | rfl | rfl := hp <;> exact hdigit _ hdot
  rw [ofChars?, hsplit]
  simp only [octet?_decimal]
  rfl

/-- A dotted quad has digits and dots only. -/
theorem digit_or_dot {ip : V4} (h : ofChars? cs = some ip) (hc : c ∈ cs) :
    (decimalValue? c).isSome = true ∨ c = '.' := by
  unfold ofChars? at h
  split at h
  · rename_i first second third fourth hsplit
    obtain ⟨a, ha, h⟩ := Option.bind_eq_some_iff.mp h
    obtain ⟨b, hb, h⟩ := Option.bind_eq_some_iff.mp h
    obtain ⟨c', hc', h⟩ := Option.bind_eq_some_iff.mp h
    obtain ⟨d, hd, _⟩ := Option.bind_eq_some_iff.mp h
    obtain hdot | ⟨p, hp, hmem⟩ := mem_part_of_mem '.' hc
    · exact .inr hdot
    · rw [hsplit] at hp
      simp only [List.mem_cons, List.not_mem_nil, or_false] at hp
      left
      obtain rfl | rfl | rfl | rfl := hp
      · exact isSome_of_octet? ha c hmem
      · exact isSome_of_octet? hb c hmem
      · exact isSome_of_octet? hc' c hmem
      · exact isSome_of_octet? hd c hmem
  · cases h

/-- A text with a colon is no dotted quad. -/
theorem ofChars?_eq_none (h : ':' ∈ cs) : ofChars? cs = none := by
  rw [Option.eq_none_iff_forall_ne_some]
  intro ip hip
  rcases digit_or_dot hip h with hdigit | hdot
  · cases hdigit
  · cases hdot

/-- A text without a dot is no dotted quad. -/
theorem ofChars?_eq_none_of_notMem (h : '.' ∉ cs) : ofChars? cs = none := by
  rw [ofChars?, List.splitOn_eq_singleton h]

theorem isPart_chars (ip : V4) : IsPart ip.chars := by
  refine ⟨fun hnil => ?_, fun hcolon => ?_⟩
  · have hread := ofChars?_chars ip
    rw [hnil] at hread
    cases hread
  · have hread := ofChars?_chars ip
    rw [ofChars?_eq_none hcolon] at hread
    cases hread

end V4

/-! ### Groups -/

section Groups

variable {write : UInt16 → List Char} (hwrite : ∀ g, group? (write g) = some g)
include hwrite

theorem isPart_of_mem_map (groups : List UInt16) : ∀ p ∈ groups.map write, IsPart p := by
  intro p hp
  obtain ⟨g, _, rfl⟩ := List.mem_map.mp hp
  exact isPart_of_group? (hwrite g)

theorem mapM_group?_map (groups : List UInt16) : (groups.map write).mapM group? = some groups := by
  induction groups with
  | nil => rfl
  | cons g rest ih =>
    rw [List.map_cons, List.mapM_cons, hwrite, ih]
    rfl

theorem mixedGroups?_map (groups : List UInt16) :
    mixedGroups? (groups.map write) = some groups := by
  induction groups with
  | nil => rfl
  | cons g rest ih =>
    -- the last part may be a dotted quad, and this one has no dot
    have hdot : '.' ∉ write g := by
      intro hmem
      exact ne_of_hex ((isSome_of_group? (hwrite g)).2 _ hmem) rfl rfl
    cases rest with
    | nil =>
      show mixedGroups? [write g] = some [g]
      rw [mixedGroups?, V4.ofChars?_eq_none_of_notMem hdot, hwrite]
      rfl
    | cons g' rest =>
      show (do let g ← group? (write g); let gs ← mixedGroups? ((g' :: rest).map write); return g :: gs)
        = _
      rw [hwrite, ih]
      rfl

/-- Eight groups with colons between them are read back. -/
theorem V6.ofChars?_join (ip : V6) : V6.ofChars? (join (ip.groups.map write)) = some ip := by
  have hnone : splitDoubleColon? (join (ip.groups.map write)) = none := by
    have h := splitDoubleColon?_join (isPart_of_mem_map hwrite ip.groups) []
    rwa [List.append_nil] at h
  rw [V6.ofChars?, hnone]
  show (mixedGroups? (colonParts (join (ip.groups.map write)))).bind V6.ofGroups? = _
  rw [colonParts_join (isPart_of_mem_map hwrite _), mixedGroups?_map hwrite]
  rfl

/-- A double colon stands for the groups that are missing. -/
theorem V6.ofChars?_double {front back : List UInt16} (hlength : front.length + back.length ≤ 7) :
    V6.ofChars? (join (front.map write) ++ ':' :: ':' :: join (back.map write)) =
      V6.ofGroups? (front ++ List.replicate (8 - front.length - back.length) 0 ++ back) := by
  have hsplit : splitDoubleColon? (join (front.map write) ++ ':' :: ':' :: join (back.map write)) =
      some (join (front.map write), join (back.map write)) := by
    rw [splitDoubleColon?_join (isPart_of_mem_map hwrite _)]
    simp [splitDoubleColon?]
  rw [V6.ofChars?, hsplit]
  simp only [colonParts_join (isPart_of_mem_map hwrite _), mapM_group?_map hwrite,
    mixedGroups?_map hwrite]
  exact if_pos hlength

end Groups

/-! ### What is accepted -/

theorem isAddressChar_of_digit_or_dot (h : (decimalValue? c).isSome = true ∨ c = '.') :
    IsAddressChar c :=
  h.imp isSome_hexValue?_of_decimal .inr

theorem isAddressChar_of_mixedGroups? {parts : List (List Char)} {groups : List UInt16}
    (h : mixedGroups? parts = some groups) : ∀ p ∈ parts, ∀ c ∈ p, IsAddressChar c := by
  induction parts generalizing groups with
  | nil => exact nofun
  | cons part rest ih =>
    cases rest with
    | nil =>
      intro p hp c hc
      obtain rfl := List.mem_singleton.mp hp
      unfold mixedGroups? at h
      split at h
      · rename_i ip hquad
        exact isAddressChar_of_digit_or_dot (V4.digit_or_dot hquad hc)
      · obtain ⟨g, hg, _⟩ := Option.map_eq_some_iff.mp h
        exact .inl ((isSome_of_group? hg).2 c hc)
    | cons next rest =>
      obtain ⟨g, hg, h⟩ := Option.bind_eq_some_iff.mp h
      obtain ⟨gs, hgs, _⟩ := Option.bind_eq_some_iff.mp h
      intro p hp c hc
      rcases List.mem_cons.mp hp with rfl | hp
      · exact .inl ((isSome_of_group? hg).2 c hc)
      · exact ih hgs p hp c hc

theorem isAddressChar_of_colonParts {groups : List UInt16}
    (h : mixedGroups? (colonParts cs) = some groups) : ∀ c ∈ cs, IsAddressChar c := by
  intro c hc
  have hne : cs.isEmpty = false := List.isEmpty_eq_false_iff.mpr (List.ne_nil_of_mem hc)
  obtain rfl | ⟨p, hp, hmem⟩ := mem_part_of_mem ':' hc
  · exact .inr (.inl rfl)
  · refine isAddressChar_of_mixedGroups? h p ?_ c hmem
    rw [colonParts, hne]
    exact hp

theorem exists_group_of_mapM {parts : List (List Char)} {groups : List UInt16}
    (h : parts.mapM group? = some groups) : ∀ p ∈ parts, ∃ g, group? p = some g := by
  induction parts generalizing groups with
  | nil => exact nofun
  | cons part rest ih =>
    rw [List.mapM_cons] at h
    obtain ⟨g, hg, h⟩ := Option.bind_eq_some_iff.mp h
    obtain ⟨gs, hgs, _⟩ := Option.bind_eq_some_iff.mp h
    intro p hp
    rcases List.mem_cons.mp hp with rfl | hp
    · exact ⟨g, hg⟩
    · exact ih hgs p hp

theorem V6.isAddressChar_of_ofChars? {ip : V6} (h : V6.ofChars? cs = some ip) :
    ∀ c ∈ cs, IsAddressChar c := by
  unfold V6.ofChars? at h
  split at h
  · rename_i before after hsplit
    obtain ⟨front, hfront, h⟩ := Option.bind_eq_some_iff.mp h
    obtain ⟨back, hback, _⟩ := Option.bind_eq_some_iff.mp h
    intro c hc
    rw [eq_of_splitDoubleColon? hsplit] at hc
    rcases List.mem_append.mp hc with hc | hc
    · obtain rfl | ⟨p, hp, hmem⟩ := mem_part_of_mem ':' hc
      · exact .inr (.inl rfl)
      · have hne : before.isEmpty = false := List.isEmpty_eq_false_iff.mpr (List.ne_nil_of_mem hc)
        rw [colonParts, hne] at hfront
        obtain ⟨g, hg⟩ := exists_group_of_mapM hfront p hp
        exact .inl ((isSome_of_group? hg).2 c hmem)
    · simp only [List.mem_cons] at hc
      rcases hc with rfl | rfl | hc
      · exact .inr (.inl rfl)
      · exact .inr (.inl rfl)
      · exact isAddressChar_of_colonParts hback c hc
  · obtain ⟨groups, hgroups, _⟩ := Option.bind_eq_some_iff.mp h
    exact isAddressChar_of_colonParts hgroups

/-- **The characters of an address.** A text with any other character is no address. -/
theorem Ip.isAddressChar_of_ofChars? {ip : Ip} (h : Ip.ofChars? cs = some ip) :
    ∀ c ∈ cs, IsAddressChar c := by
  unfold Ip.ofChars? at h
  split at h
  · rename_i quad hquad
    exact fun c hc => isAddressChar_of_digit_or_dot (V4.digit_or_dot hquad hc)
  · obtain ⟨v6, hv6, _⟩ := Option.map_eq_some_iff.mp h
    exact V6.isAddressChar_of_ofChars? hv6

/-- A part without a colon is one or two groups, too few for an address. -/
theorem V6.colon_mem_of_ofChars? {ip : V6} (h : V6.ofChars? cs = some ip) : ':' ∈ cs := by
  by_contra hcolon
  have hnone : splitDoubleColon? cs = none := by
    have hfront := splitDoubleColon?_append hcolon []
    rwa [List.append_nil] at hfront
  rw [V6.ofChars?, hnone] at h
  obtain ⟨groups, hgroups, hip⟩ := Option.bind_eq_some_iff.mp h
  have hcount : groups.length ≤ 2 := by
    cases cs with
    | nil =>
      obtain rfl := Option.some.inj hgroups
      exact Nat.zero_le 2
    | cons c cs =>
      have hparts : colonParts (c :: cs) = [c :: cs] := List.splitOn_eq_singleton hcolon
      rw [hparts, mixedGroups?] at hgroups
      split at hgroups
      · obtain rfl := Option.some.inj hgroups
        exact Nat.le_refl 2
      · obtain ⟨g, _, rfl⟩ := Option.map_eq_some_iff.mp hgroups
        exact Nat.le_succ 1
  unfold V6.ofGroups? at hip
  split at hip
  · simp at hcount
  · cases hip

/-- An address of version 6 holds a colon, so it is read as such. -/
theorem Ip.ofChars?_of_v6 {ip : V6} (hcolon : ':' ∈ cs) (h : V6.ofChars? cs = some ip) :
    Ip.ofChars? cs = some (.v6 ip) := by
  rw [Ip.ofChars?, V4.ofChars?_eq_none hcolon]
  show (V6.ofChars? cs).map Ip.v6 = _
  rw [h]
  rfl

theorem Ip.ofChars?_of_v4 {ip : V4} (h : V4.ofChars? cs = some ip) :
    Ip.ofChars? cs = some (.v4 ip) := by
  rw [Ip.ofChars?, h]

theorem isBlank_of_isAddressChar (h : IsAddressChar c) : isBlank c = false := by
  rcases h with h | rfl | rfl
  · exact isBlank_of_hex h
  · rfl
  · rfl

/-- An address has no blanks around it. -/
theorem Ip.trim_eq_self {ip : Ip} (h : Ip.ofChars? cs = some ip) : trim cs = cs :=
  Text.trim_eq_self fun c hc => isBlank_of_isAddressChar (isAddressChar_of_ofChars? h c hc)

end MeshControl.Address
