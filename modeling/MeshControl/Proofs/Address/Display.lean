import MeshControl.Proofs.Address.Expanded
import MeshControl.Proofs.Text.Search

/-!
# The display of an address is read back

An address is displayed with its first longest stretch of zero groups as a double colon.  For reading
it back only this counts: the groups are those in front, zeros, and those behind
(`exists_zeroStretch`), and the double colon stands for as many zeros as are missing.  An address that
maps version 4 is displayed in mixed form, and a socket address with a port and with a scope that is
left out if it is zero.

So every value is read back from its display (`ofText_text_ip`, `ofText_text_socket`), and the display
of what a text says is a normal form of the text (`ofText_text`).
-/

namespace MeshControl.Address

open MeshControl.Text

/-! ### Zero groups -/

theorem zerosAtFront_eq (groups : List UInt16) :
    ∃ back, groups = List.replicate (V6.zerosAtFront groups) 0 ++ back := by
  have hzeros : groups.takeWhile (· == 0) = List.replicate (V6.zerosAtFront groups) 0 := by
    refine List.eq_replicate_of_mem fun g hg => ?_
    have hzero := List.mem_takeWhile_imp hg
    exact beq_iff_eq.mp hzero
  exact ⟨groups.dropWhile (· == 0), by rw [← hzeros, List.takeWhile_append_dropWhile]⟩

/-- The stretch of zeros that is left out stands between the groups in front of it and the groups
behind it. -/
theorem exists_zeroStretch (start : Nat) (groups : List UInt16) :
    ∃ front back, groups = front ++ List.replicate (V6.zeroStretch start groups).2 0 ++ back ∧
      (V6.zeroStretch start groups).1 = start + front.length := by
  induction groups generalizing start with
  | nil => exact ⟨[], [], rfl, rfl⟩
  | cons g rest ih =>
    rw [V6.zeroStretch]
    split
    · -- no later stretch is longer, so the groups begin with this one
      obtain ⟨back, hback⟩ := zerosAtFront_eq (g :: rest)
      exact ⟨[], back, hback, rfl⟩
    · obtain ⟨front, back, hrest, hstart⟩ := ih (start + 1)
      refine ⟨g :: front, back, ?_, ?_⟩
      · rw [List.cons_append, List.cons_append, ← hrest]
      · rw [hstart, List.length_cons]
        omega

/-! ### Mixed form -/

/-- The two halves of a group make it up again. -/
theorem halves_eq (g : UInt16) :
    UInt16.ofNat ((UInt8.ofNat (g.toNat / 256)).toNat * 256 + (UInt8.ofNat (g.toNat % 256)).toNat) =
      g := by
  have hg := g.toNat_lt
  have hhigh : (UInt8.ofNat (g.toNat / 256)).toNat = g.toNat / 256 :=
    UInt8.toNat_ofNat_of_lt' (Nat.div_lt_of_lt_mul hg)
  have hlow : (UInt8.ofNat (g.toNat % 256)).toNat = g.toNat % 256 :=
    UInt8.toNat_ofNat_of_lt' (Nat.mod_lt _ (by omega))
  rw [hhigh, hlow, Nat.div_add_mod', UInt16.ofNat_toNat]

/-- An address that maps version 4 ends in the groups of the address that it maps. -/
theorem groups_of_mapped? {ip : V6} {quad : V4} (h : ip.mapped? = some quad) :
    ip.groups = [0, 0, 0, 0, 0, 0xFFFF] ++ quad.groups := by
  unfold V6.mapped? at h
  split at h
  · rename_i g h'
    cases h
    rw [V4.groups, halves_eq, halves_eq]
    rfl
  · cases h

theorem mixedGroups?_quad (first : List Char) (quad : V4) {g : UInt16} (h : group? first = some g) :
    mixedGroups? [first, quad.chars] = some (g :: quad.groups) := by
  show (do let g ← group? first; let gs ← mixedGroups? [quad.chars]; return g :: gs) = _
  have hlast : mixedGroups? [quad.chars] = some quad.groups := by
    rw [mixedGroups?, quad.ofChars?_chars]
  rw [h, hlast]
  rfl

/-! ### Version 6 -/

theorem V6.groupChars_eq (groups : List UInt16) :
    V6.groupChars groups = join (groups.map fun g => hexadecimal g.toNat) :=
  rfl

/-- The mixed form is read back. -/
theorem V6.ofChars?_mixed {ip : V6} {quad : V4} (h : ip.mapped? = some quad) :
    V6.ofChars? ("::ffff:".toList ++ quad.chars) = some ip := by
  have hgroup : group? "ffff".toList = some 0xFFFF := by decide
  have hparts : ∀ p ∈ ["ffff".toList, quad.chars], IsPart p := by
    intro p hp
    simp only [List.mem_cons, List.not_mem_nil, or_false] at hp
    obtain rfl | rfl := hp
    · exact isPart_of_group? hgroup
    · exact quad.isPart_chars
  have htext : "::ffff:".toList ++ quad.chars = ':' :: ':' :: join ["ffff".toList, quad.chars] := by
    rw [join_cons_cons, join_singleton]
    rfl
  rw [htext, V6.ofChars?, splitDoubleColon?]
  simp only [colonParts_join hparts, mixedGroups?_quad _ _ hgroup]
  have hgroups := groups_of_mapped? h
  show V6.ofGroups? ([0, 0, 0, 0, 0, 0xFFFF] ++ quad.groups) = _
  rw [← hgroups]
  rfl

theorem V6.ofChars?_chars (ip : V6) : V6.ofChars? ip.chars = some ip := by
  unfold V6.chars
  split
  · rename_i quad hquad
    exact V6.ofChars?_mixed hquad
  · obtain ⟨front, back, hgroups, hstart⟩ := exists_zeroStretch 0 ip.groups
    generalize V6.zeroStretch 0 ip.groups = stretch at hgroups hstart ⊢
    obtain ⟨start, length⟩ := stretch
    dsimp only at hgroups hstart ⊢
    rw [Nat.zero_add] at hstart
    have hlength : front.length + length + back.length = 8 := by
      have h := congrArg List.length hgroups
      simp only [List.length_append, List.length_replicate] at h
      exact h.symm
    split
    · -- what is left out are as many zeros as are missing when the rest is read
      have htake : ip.groups.take start = front := by
        rw [hgroups, hstart, List.append_assoc, List.take_left]
      have hdrop : ip.groups.drop (start + length) = back := by
        have hfront : (front ++ List.replicate length (0 : UInt16)).length = start + length := by
          rw [List.length_append, List.length_replicate, hstart]
        rw [hgroups, ← hfront, List.drop_left]
      have hmissing : 8 - front.length - back.length = length := by omega
      rw [htake, hdrop, V6.groupChars_eq, V6.groupChars_eq, List.append_assoc]
      refine (V6.ofChars?_double group?_hexadecimal (by omega)).trans ?_
      rw [hmissing, ← hgroups]
      rfl
    · exact V6.ofChars?_join group?_hexadecimal ip

theorem V6.colon_mem_chars (ip : V6) : ':' ∈ ip.chars := by
  unfold V6.chars
  split
  · exact List.mem_append_left _ (by decide)
  · dsimp only
    split
    · exact List.mem_append_left _ (List.mem_append_right _ List.mem_cons_self)
    · exact colon_mem_join _ _ _

/-- **The display of a bare address is read back.** -/
theorem Ip.ofChars?_chars (ip : Ip) : Ip.ofChars? ip.chars = some ip := by
  cases ip with
  | v4 quad => exact Ip.ofChars?_of_v4 quad.ofChars?_chars
  | v6 groups => exact Ip.ofChars?_of_v6 groups.colon_mem_chars groups.ofChars?_chars

theorem ofText_text_ip (ip : Ip) : Canonical.ofText ip.text = .ip ip :=
  ofText_ofList ip.ofChars?_chars

/-! ### Socket addresses -/

variable {c : Char} {cs : List Char}

theorem notMem_of_ip {ip : Ip} (h : Ip.ofChars? cs = some ip) (hhex : (hexValue? c).isSome = false)
    (hcolon : c ≠ ':') (hdot : c ≠ '.') : c ∉ cs := by
  intro hmem
  rcases Ip.isAddressChar_of_ofChars? h c hmem with hc | hc | hc
  · cases hhex.symm.trans hc
  · exact hcolon hc
  · exact hdot hc

theorem isSome_hexValue?_decimal {n : Nat} (h : c ∈ decimal n) : (hexValue? c).isSome = true :=
  isSome_hexValue?_of_decimal (isSome_of_decimal? (decimal?_decimal n) c h)

theorem notMem_decimal {n : Nat} (hhex : (hexValue? c).isSome = false) : c ∉ decimal n := by
  intro hmem
  cases hhex.symm.trans (isSome_hexValue?_decimal hmem)

/-- What stands between the brackets of a socket address. -/
def scopedChars (ip : V6) (scope : UInt32) : List Char :=
  ip.chars ++ if scope = 0 then [] else '%' :: decimal scope.toNat

theorem scopedIp?_scopedChars (ip : V6) (scope : UInt32) :
    scopedIp? (scopedChars ip scope) = some (ip, scope) := by
  have hpercent : '%' ∉ ip.chars :=
    notMem_of_ip (Ip.ofChars?_chars (.v6 ip)) rfl (by decide) (by decide)
  unfold scopedChars scopedIp?
  split_ifs with hscope
  · rw [List.append_nil, splitFirst?_eq_none_iff.mpr hpercent]
    show (V6.ofChars? ip.chars).map (·, (0 : UInt32)) = _
    rw [ip.ofChars?_chars, hscope]
    rfl
  · rw [splitFirst?_mark hpercent]
    show (do return (← V6.ofChars? ip.chars, ← scope? (decimal scope.toNat))) = _
    rw [ip.ofChars?_chars, scope?_decimal]
    rfl

theorem notMem_scopedChars (ip : V6) (scope : UInt32) : ']' ∉ scopedChars ip scope := by
  intro hmem
  rcases List.mem_append.mp hmem with hmem | hmem
  · exact notMem_of_ip (Ip.ofChars?_chars (.v6 ip)) rfl (by decide) (by decide) hmem
  · split_ifs at hmem
    · cases hmem
    · rcases List.mem_cons.mp hmem with heq | hmem
      · cases heq
      · exact notMem_decimal rfl hmem

theorem Socket.chars_v6 (ip : V6) (port : UInt16) (scope : UInt32) :
    (Socket.v6 ip port scope).chars =
      '[' :: (scopedChars ip scope ++ ']' :: ':' :: decimal port.toNat) := by
  simp [Socket.chars, scopedChars]

/-- The display of a socket address is read back. -/
theorem Socket.ofChars?_chars (e : Socket) : Socket.ofChars? e.chars = some e := by
  cases e with
  | v4 ip port =>
    have hcolon : ':' ∉ ip.chars := ip.isPart_chars.noColon
    have hsplit : splitFirst? ':' (ip.chars ++ ':' :: decimal port.toNat) =
        some (ip.chars, decimal port.toNat) := splitFirst?_mark hcolon _
    obtain ⟨c, tail, htail⟩ := List.exists_cons_of_ne_nil ip.isPart_chars.ne_nil
    have hbracket : c ≠ '[' := by
      have hdigit := V4.digit_or_dot ip.ofChars?_chars (htail ▸ List.mem_cons_self)
      rintro rfl
      rcases hdigit with hdigit | hdigit
      · cases hdigit
      · cases hdigit
    rw [Socket.chars]
    unfold Socket.ofChars?
    split
    · rename_i rest heq
      rw [htail] at heq
      cases heq
      exact absurd rfl hbracket
    · rw [hsplit]
      show (do return Socket.v4 (← V4.ofChars? ip.chars) (← port? (decimal port.toNat))) = _
      rw [ip.ofChars?_chars, port?_decimal]
      rfl
  | v6 ip port scope =>
    rw [Socket.chars_v6, Socket.ofChars?, splitFirst?_mark (notMem_scopedChars ip scope)]
    simp only [scopedIp?_scopedChars, port?_decimal]
    rfl

/-- A dotted quad with a port is no address of version 6: it has two parts between colons, and the
first of them is no group. -/
theorem V6.ofChars?_port (quad : V4) (port : UInt16) :
    V6.ofChars? (quad.chars ++ ':' :: decimal port.toNat) = none := by
  have hne : decimal port.toNat ≠ [] := Nat.toDigits_ne_nil
  have hparts : ∀ p ∈ [quad.chars, decimal port.toNat], IsPart p := by
    intro p hp
    simp only [List.mem_cons, List.not_mem_nil, or_false] at hp
    obtain rfl | rfl := hp
    · exact quad.isPart_chars
    · exact ⟨hne, notMem_decimal rfl⟩
  have htext : quad.chars ++ ':' :: decimal port.toNat = join [quad.chars, decimal port.toNat] := by
    rw [join_cons_cons, join_singleton]
  have hsplit : splitDoubleColon? (join [quad.chars, decimal port.toNat]) = none := by
    have h := splitDoubleColon?_join hparts []
    rwa [List.append_nil] at h
  have hgroup : group? quad.chars = none := by
    rw [Option.eq_none_iff_forall_ne_some]
    intro g hg
    have hdot : '.' ∈ quad.chars := by simp [V4.chars]
    cases (isSome_of_group? hg).2 _ hdot
  rw [htext, V6.ofChars?, hsplit]
  show (mixedGroups? (colonParts (join [quad.chars, decimal port.toNat]))).bind V6.ofGroups? = _
  rw [colonParts_join hparts]
  show (do
    let g ← group? quad.chars
    let gs ← mixedGroups? [decimal port.toNat]
    return g :: gs).bind V6.ofGroups? = _
  rw [hgroup]
  rfl

/-- A socket address is no bare address. -/
theorem Socket.ipOfChars?_chars (e : Socket) : Ip.ofChars? e.chars = none := by
  cases e with
  | v4 quad port =>
    have hcolon : ':' ∈ quad.chars ++ ':' :: decimal port.toNat :=
      List.mem_append_right _ List.mem_cons_self
    rw [Socket.chars, Ip.ofChars?, V4.ofChars?_eq_none hcolon]
    show (V6.ofChars? (quad.chars ++ ':' :: decimal port.toNat)).map Ip.v6 = none
    rw [V6.ofChars?_port]
    rfl
  | v6 ip port scope =>
    rw [Option.eq_none_iff_forall_ne_some]
    intro bare h
    rw [Socket.chars_v6] at h
    exact notMem_of_ip h rfl (by decide) (by decide) List.mem_cons_self

theorem isBlank_of_mem_ip (ip : Ip) (h : c ∈ ip.chars) : isBlank c = false :=
  isBlank_of_isAddressChar (Ip.isAddressChar_of_ofChars? ip.ofChars?_chars c h)

theorem isBlank_of_mem_decimal {n : Nat} (h : c ∈ decimal n) : isBlank c = false :=
  isBlank_of_hex (isSome_hexValue?_decimal h)

theorem Socket.isBlank_of_mem_chars {e : Socket} (h : c ∈ e.chars) : isBlank c = false := by
  cases e with
  | v4 quad port =>
    simp only [Socket.chars, List.mem_append, List.mem_cons] at h
    rcases h with h | rfl | h
    · exact isBlank_of_mem_ip (.v4 quad) h
    · rfl
    · exact isBlank_of_mem_decimal h
  | v6 ip port scope =>
    have hscope : ∀ d ∈ (if scope = 0 then [] else '%' :: decimal scope.toNat),
        isBlank d = false := by
      intro d hd
      split_ifs at hd
      · cases hd
      · rcases List.mem_cons.mp hd with rfl | hd
        · rfl
        · exact isBlank_of_mem_decimal hd
    simp only [Socket.chars_v6, scopedChars, List.mem_append, List.mem_cons] at h
    rcases h with rfl | (h | h) | rfl | rfl | h
    · rfl
    · exact isBlank_of_mem_ip (.v6 ip) h
    · exact hscope c h
    · rfl
    · rfl
    · exact isBlank_of_mem_decimal h

/-- **The display of a socket address is read back.** -/
theorem ofText_text_socket (e : Socket) :
    Canonical.ofText (String.ofList e.chars) = .socket e := by
  have htrim : trim e.chars = e.chars := trim_eq_self fun c hc => Socket.isBlank_of_mem_chars hc
  rw [Canonical.ofText, String.toList_ofList, htrim, Socket.ipOfChars?_chars, Socket.ofChars?_chars]

/-! ### Normal forms -/

theorem eq_of_ofText_eq_raw {a s : String} (h : Canonical.ofText a = .raw s) : s = a := by
  unfold Canonical.ofText at h
  split at h
  · cases h
  · split at h
    · cases h
    · cases h
      rfl

/-- **The display of what a text says is a normal form of the text.** -/
theorem ofText_text (a : String) :
    Canonical.ofText (Canonical.ofText a).text = Canonical.ofText a := by
  cases h : Canonical.ofText a with
  | ip ip => exact ofText_text_ip ip
  | socket e => exact ofText_text_socket e
  | raw s =>
    obtain rfl := eq_of_ofText_eq_raw h
    exact h

/-- Texts are one address if and only if they are displayed alike. -/
theorem same_iff_text {a b : String} :
    same a b = true ↔ (Canonical.ofText a).text = (Canonical.ofText b).text := by
  rw [same_iff]
  constructor
  · intro h
    rw [h]
  · intro h
    rw [← ofText_text a, h, ofText_text b]

end MeshControl.Address
