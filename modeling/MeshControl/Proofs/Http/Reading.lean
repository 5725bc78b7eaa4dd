import MeshControl.Http.Url
import MeshControl.Proofs.Except
import MeshControl.Proofs.Http.Path
import MeshControl.Proofs.Text.Search

/-!
# Reading an address that was put together

An address is put together from a host on the web, the names of a path and an end of which nothing is
known (`IsBare`, `IsName`).  What is read as its path are the names and the segments of what counts of
the end, and what is read as its query stands in the end (`read_eq_ok`).

* What counts of the end is all of it exactly if it holds no tab or line break and ends in no blank or
  control (`kept_eq_self_iff`).
* The last segment that is read stands for the whole end only if nothing separates that
  (`plain_of_lastPart_eq_self`), it is not made of dots and it has nothing in percent form
  (`whole_of_percentDecode_lastSegment`).  Characters are only ever lost on the way, so the bytes that
  the last segment stands for can be all bytes of the end only if no character was lost.
-/

namespace MeshControl.Http.Url

open MeshControl.Text
open String (utf8EncodeChar)

/-! ### What counts of an end -/

/-- Whether a character counts wherever it stands. -/
def counts (c : Char) : Bool :=
  c ≠ '\t' && c ≠ '\n' && c ≠ '\r'

/-- Whether a character does not count around an address. -/
def isEdge (c : Char) : Bool :=
  c.toNat ≤ 0x20

/-- What counts of the end of an address: no blanks and controls behind it, and no tab or line break
in it. -/
def kept (cs : List Char) : List Char :=
  (cs.reverse.dropWhile isEdge).reverse.filter counts

theorem cleaned_eq (cs : List Char) :
    cleaned cs = kept (cs.dropWhile isEdge) :=
  rfl

/-- Of an address that does not begin or go on with a blank or a control, only the end is cut. -/
theorem cleaned_append (front cs : List Char) {first last : Char} (hfirst : isEdge first = false)
    (hlast : isEdge last = false) :
    cleaned (first :: front ++ last :: cs) = (first :: front ++ [last]).filter counts ++ kept cs := by
  have hcut : (first :: front ++ last :: cs).reverse.dropWhile isEdge =
      cs.reverse.dropWhile isEdge ++ (first :: front ++ [last]).reverse := by
    have hreverse : (first :: front ++ last :: cs).reverse =
        cs.reverse ++ last :: (first :: front).reverse := by simp
    rw [hreverse, List.dropWhile_append, List.dropWhile_cons_of_neg (Bool.eq_false_iff.mp hlast),
      List.reverse_append, List.reverse_singleton, List.singleton_append]
    split
    next hempty => rw [List.isEmpty_iff.mp hempty, List.nil_append]
    next => rfl
  rw [cleaned_eq, List.cons_append, List.dropWhile_cons_of_neg (Bool.eq_false_iff.mp hfirst), kept,
    ← List.cons_append, hcut, List.reverse_append, List.reverse_reverse, List.filter_append, kept]

theorem kept_sublist (cs : List Char) : (kept cs).Sublist cs := by
  refine List.filter_sublist.trans ?_
  rw [← List.reverse_sublist, List.reverse_reverse]
  exact List.dropWhile_sublist _

/-- All of an end counts exactly if it holds no tab or line break and ends in no blank or control. -/
theorem kept_eq_self_iff {cs : List Char} :
    kept cs = cs ↔ (∀ c ∈ cs, counts c = true) ∧ ∀ c ∈ cs.getLast?, isEdge c = false := by
  have hend : cs.reverse.dropWhile isEdge = cs.reverse ↔ ∀ c ∈ cs.getLast?, isEdge c = false := by
    rw [← List.head?_reverse]
    cases cs.reverse with
    | nil => simp
    | cons c rest =>
      cases hc : isEdge c with
      | false => simp [hc]
      | true =>
        have hlength := (List.dropWhile_sublist (l := rest) isEdge).length_le
        rw [List.dropWhile_cons_of_pos hc]
        refine ⟨fun heq => ?_, fun h => absurd (h c rfl) (by rw [hc]; exact nofun)⟩
        rw [heq, List.length_cons] at hlength
        omega
  rw [kept, ← hend, ← List.filter_eq_self]
  constructor
  · intro heq
    -- nothing is lost in the end, so nothing is lost on the way
    have hsub := List.dropWhile_sublist (l := cs.reverse) isEdge
    have hlength := (List.filter_sublist (p := counts)
      (l := (cs.reverse.dropWhile isEdge).reverse)).length_le
    rw [heq, List.length_reverse] at hlength
    have hwhole := hsub.eq_of_length_le (by rwa [List.length_reverse])
    rw [hwhole, List.reverse_reverse] at heq
    exact ⟨heq, hwhole⟩
  · rintro ⟨hfilter, hwhole⟩
    rw [hwhole, List.reverse_reverse, hfilter]

/-! ### The ends of an address -/

theorem splitEnds_append {front : List Char} (hhash : '#' ∉ front) (hmark : '?' ∉ front)
    (cs : List Char) :
    splitEnds (front ++ cs) = (front ++ (splitEnds cs).1, (splitEnds cs).2) := by
  rw [splitEnds, splitEnds, splitFirst?_append hhash]
  cases splitFirst? '#' cs with
  | none =>
    dsimp only [Option.map_none]
    rw [splitFirst?_append hmark]
    cases splitFirst? '?' cs <;> rfl
  | some cut =>
    dsimp only [Option.map_some]
    rw [splitFirst?_append hmark]
    cases splitFirst? '?' cut.1 <;> rfl

/-- The text before a query and a fragment is all of it exactly if neither begins in it. -/
theorem splitEnds_of_notMem {cs : List Char} (hhash : '#' ∉ cs) (hmark : '?' ∉ cs) :
    splitEnds cs = (cs, none, none) := by
  rw [splitEnds, splitFirst?_eq_none_iff.mpr hhash]
  dsimp only
  rw [splitFirst?_eq_none_iff.mpr hmark]

/-- The text before a character, and all of it where the character does not occur. -/
def beforeFirst (c : Char) (cs : List Char) : List Char :=
  ((splitFirst? c cs).map Prod.fst).getD cs

theorem beforeFirst_sublist (c : Char) (cs : List Char) : (beforeFirst c cs).Sublist cs := by
  rw [beforeFirst]
  cases hcut : splitFirst? c cs with
  | none => exact List.Sublist.refl cs
  | some cut =>
    obtain ⟨rfl, _⟩ := splitFirst?_eq_some hcut
    exact List.sublist_append_left cut.1 _

theorem notMem_beforeFirst (c : Char) (cs : List Char) : c ∉ beforeFirst c cs := by
  rw [beforeFirst]
  cases hcut : splitFirst? c cs with
  | none => exact splitFirst?_eq_none_iff.mp hcut
  | some cut => exact (splitFirst?_eq_some hcut).2

theorem splitEnds_fst_eq (cs : List Char) :
    (splitEnds cs).1 = beforeFirst '?' (beforeFirst '#' cs) := by
  rw [splitEnds, beforeFirst, beforeFirst]
  cases splitFirst? '#' cs with
  | none => cases hmark : splitFirst? '?' cs <;> simp [hmark]
  | some cut => cases hmark : splitFirst? '?' cut.1 <;> simp [hmark]

theorem splitEnds_fst (cs : List Char) :
    (splitEnds cs).1.Sublist cs ∧ '#' ∉ (splitEnds cs).1 ∧ '?' ∉ (splitEnds cs).1 := by
  have hhash : (beforeFirst '#' cs).Sublist cs := beforeFirst_sublist '#' cs
  have hmark : (beforeFirst '?' (beforeFirst '#' cs)).Sublist (beforeFirst '#' cs) :=
    beforeFirst_sublist '?' _
  rw [splitEnds_fst_eq]
  exact ⟨hmark.trans hhash, fun h => notMem_beforeFirst '#' cs (hmark.subset h),
    notMem_beforeFirst '?' _⟩

/-! ### The host -/

section Authority

variable {host path : List Char}

/-- Characters without a slash of any kind. -/
def IsFlat (cs : List Char) : Prop :=
  ∀ c ∈ cs, Kind.web.isSlash c = false

theorem takeWhile_slash (h : IsFlat host) :
    (host ++ '/' :: path).takeWhile (!Kind.web.isSlash ·) = host := by
  have hall : ∀ c ∈ host, (!Kind.web.isSlash c) = true := fun c hc => by rw [h c hc, Bool.not_false]
  rw [List.takeWhile_append_of_pos hall, List.takeWhile_cons_of_neg (by decide), List.append_nil]

theorem dropWhile_slash (h : IsFlat host) :
    (host ++ '/' :: path).dropWhile (!Kind.web.isSlash ·) = '/' :: path := by
  have hall : ∀ c ∈ host, (!Kind.web.isSlash c) = true := fun c hc => by rw [h c hc, Bool.not_false]
  rw [List.dropWhile_append_of_pos hall, List.dropWhile_cons_of_neg (by decide)]

/-- A user ends before the first slash. -/
theorem readUser_eq_ok (h : IsFlat host) {user : User} {rest : List Char}
    (hread : readUser .web (host ++ '/' :: path) = .ok (user, rest)) :
    ∃ tail, IsFlat tail ∧ rest = tail ++ '/' :: path := by
  rw [readUser, takeWhile_slash h] at hread
  cases hcut : splitFirst? '@' host.reverse with
  | none =>
    rw [hcut] at hread
    cases hread
    exact ⟨host, h, rfl⟩
  | some cut =>
    rw [hcut] at hread
    dsimp only at hread
    split at hread
    next => cases hread
    next =>
      cases hread
      -- the user is what stands before the last at sign
      have hhost : host = (cut.2.reverse ++ ['@']) ++ cut.1.reverse := by
        rw [← List.reverse_reverse host, (splitFirst?_eq_some hcut).1]
        simp
      refine ⟨cut.1.reverse, fun c hc => h c (hhost ▸ List.mem_append_right _ hc), ?_⟩
      rw [hhost, List.append_assoc, List.drop_left' (by simp)]

/-- A host ends before a colon or before the first slash. -/
theorem splitHost_snd (h : IsFlat host) (inBrackets : Bool) :
    ∃ tail, IsFlat tail ∧ (tail = [] ∨ ∃ rest, tail = ':' :: rest) ∧
      (splitHost .web inBrackets (host ++ '/' :: path)).2 = tail ++ '/' :: path := by
  induction host generalizing inBrackets with
  | nil => exact ⟨[], nofun, .inl rfl, rfl⟩
  | cons c rest ih =>
    rw [List.cons_append, splitHost, h c List.mem_cons_self, Bool.false_or]
    split
    next hcolon =>
      obtain ⟨hc, _⟩ := Bool.and_eq_true_iff.mp hcolon
      exact ⟨c :: rest, h, .inr ⟨rest, by rw [beq_iff_eq.mp hc]⟩, rfl⟩
    next => exact ih (fun d hd => h d (List.mem_cons_of_mem c hd)) _

/-- A host with its user and its port ends before the first slash. -/
theorem readAuthority_eq_ok {scheme : String} (hkind : kind scheme = .web) (h : IsFlat host)
    {url : Url} {rest : List Char}
    (hread : readAuthority scheme (host ++ '/' :: path) = .ok (url, rest)) : rest = '/' :: path := by
  rw [readAuthority, hkind] at hread
  obtain ⟨⟨user, cs⟩, huser, hread⟩ := bind_eq_ok_iff.mp hread
  obtain ⟨tail, htail, rfl⟩ := readUser_eq_ok h huser
  obtain ⟨name, _, hread⟩ := bind_eq_ok_iff.mp hread
  dsimp only at hread
  split at hread
  next =>
    obtain ⟨_, hthrow, _⟩ := bind_eq_ok_iff.mp hread
    cases hthrow
  next =>
    obtain ⟨_, hflat, rfl | ⟨digits, rfl⟩, hrest⟩ := splitHost_snd htail false
    · rw [hrest, List.nil_append] at hread
      obtain ⟨_, _, hread⟩ := bind_eq_ok_iff.mp hread
      cases hread
      rfl
    · rw [hrest, List.cons_append] at hread
      obtain ⟨_, _, hread⟩ := bind_eq_ok_iff.mp hread
      cases hread
      exact dropWhile_slash fun c hc => hflat c (List.mem_cons_of_mem _ hc)

/-- What is read as the path of an address on the web begins with the first slash behind its host. -/
theorem readWeb_eq_ok {scheme : String} (hkind : kind scheme = .web) (h : IsFlat host)
    (hne : host ≠ []) {url : Url}
    (hread : readWeb scheme ('/' :: '/' :: (host ++ '/' :: path)) = .ok url) :
    url.segments = Kind.web.segmentsFromTop ('/' :: path) := by
  have hdrop : ('/' :: '/' :: (host ++ '/' :: path)).dropWhile Kind.web.isSlash =
      host ++ '/' :: path := by
    rw [List.dropWhile_cons_of_pos (by decide), List.dropWhile_cons_of_pos (by decide)]
    cases host with
    | nil => exact absurd rfl hne
    | cons c rest =>
      exact List.dropWhile_cons_of_neg (by rw [h c List.mem_cons_self]; exact Bool.false_ne_true)
  rw [readWeb, hdrop] at hread
  obtain ⟨⟨place, rest⟩, hplace, hread⟩ := bind_eq_ok_iff.mp hread
  cases hread
  rw [readAuthority_eq_ok hkind h hplace]

end Authority

/-! ### The path -/

/-- What may not stand in a name: what separates segments, begins a query or a fragment, or does not
count. -/
def separators : List Char :=
  ['/', '\\', '?', '#', '\t', '\n', '\r']

/-- Characters that are one segment of a path wherever they stand, and stand for themselves there. -/
structure IsName (name : List Char) : Prop where
  plain : ∀ c ∈ name, c ∉ separators
  isDots : isDots name = false
  encoded : encodeSegment name = name

theorem isName_iff {name : List Char} :
    IsName name ↔ name.all (fun c => decide (c ∉ separators)) = true ∧ isDots name = false ∧
      encodeSegment name = name := by
  rw [List.all_eq_true]
  exact ⟨fun h => ⟨fun c hc => decide_eq_true (h.plain c hc), h.isDots, h.encoded⟩,
    fun ⟨h₁, h₂, h₃⟩ => ⟨fun c hc => of_decide_eq_true (h₁ c hc), h₂, h₃⟩⟩

instance (name : List Char) : Decidable (IsName name) :=
  decidable_of_iff' _ isName_iff

theorem isSlash_iff {c : Char} : Kind.web.isSlash c = true ↔ c = '/' ∨ c = '\\' := by
  rw [Kind.isSlash, Bool.or_eq_true, beq_iff_eq, beq_iff_eq]
  exact nofun

theorem isFlat_of_plain {cs : List Char} (h : ∀ c ∈ cs, c ∉ separators) : IsFlat cs := by
  intro c hc
  rw [Bool.eq_false_iff, Ne, isSlash_iff]
  rintro (rfl | rfl) <;> exact h _ hc (by decide)

/-- The last part between slashes is itself without slashes. -/
theorem getLast?_splitOnP (cs : List Char) :
    ∀ last ∈ (cs.splitOnP Kind.web.isSlash).getLast?, last.Sublist cs ∧ IsFlat last := by
  induction cs with
  | nil =>
    rintro last ⟨⟩
    exact ⟨List.Sublist.refl _, nofun⟩
  | cons c cs ih =>
    rw [List.splitOnP_cons_eq_if_modifyHead]
    cases hparts : cs.splitOnP Kind.web.isSlash with
    | nil => exact absurd hparts (List.splitOnP_ne_nil _ _)
    | cons first rest =>
      rw [hparts] at ih
      cases hc : Kind.web.isSlash c with
      | true =>
        intro last hlast
        rw [if_pos rfl, List.getLast?_cons_cons] at hlast
        obtain ⟨hsub, hflat⟩ := ih last hlast
        exact ⟨hsub.cons c, hflat⟩
      | false =>
        rw [if_neg Bool.false_ne_true, List.modifyHead_cons]
        cases rest with
        | nil =>
          rintro last ⟨⟩
          obtain ⟨hsub, hflat⟩ := ih first rfl
          exact ⟨hsub.cons_cons c, List.forall_mem_cons.mpr ⟨hc, hflat⟩⟩
        | cons second rest =>
          intro last hlast
          obtain ⟨hsub, hflat⟩ := ih last hlast
          exact ⟨hsub.cons c, hflat⟩

/-- What an address ends in: the last part between slashes of what counts of its end. -/
def lastPart (cs : List Char) : List Char :=
  ((splitEnds (kept cs)).1.splitOnP Kind.web.isSlash).getLast (List.splitOnP_ne_nil _ _)

theorem lastPart_sublist_place (cs : List Char) :
    (lastPart cs).Sublist (splitEnds (kept cs)).1 ∧ IsFlat (lastPart cs) :=
  getLast?_splitOnP _ _ (List.getLast?_eq_some_getLast (List.splitOnP_ne_nil _ _))

theorem lastPart_sublist (cs : List Char) : (lastPart cs).Sublist cs :=
  (lastPart_sublist_place cs).1.trans ((splitEnds_fst (kept cs)).1.trans (kept_sublist cs))

/-- If an address ends in all of its end, nothing of that is left out, and nothing separates it. -/
theorem plain_of_lastPart_eq_self {cs : List Char} (h : lastPart cs = cs) :
    (∀ c ∈ cs, c ∉ separators) ∧ ∀ c ∈ cs.getLast?, isEdge c = false := by
  obtain ⟨hpart, hflat⟩ := lastPart_sublist_place cs
  obtain ⟨hplace, hhash, hmark⟩ := splitEnds_fst (kept cs)
  rw [h] at hpart hflat
  have hkept : kept cs = cs := (kept_sublist cs).eq_of_length_le (hpart.trans hplace).length_le
  have hwhole : (splitEnds (kept cs)).1 = cs :=
    (hplace.trans (kept_sublist cs)).eq_of_length_le hpart.length_le
  rw [hwhole] at hhash hmark
  obtain ⟨hcounts, hedge⟩ := kept_eq_self_iff.mp hkept
  refine ⟨fun c hc hsep => ?_, hedge⟩
  simp only [separators, List.mem_cons, List.not_mem_nil, or_false] at hsep
  rcases hsep with rfl | rfl | rfl | rfl | rfl | rfl | rfl
  · exact absurd (hflat _ hc) (by decide)
  · exact absurd (hflat _ hc) (by decide)
  · exact hmark hc
  · exact hhash hc
  all_goals exact absurd (hcounts _ hc) (by decide)

/-- The last segment that is read of an address: what it ends in, or nothing in place of dots. -/
def lastSegment (cs : List Char) : List Char :=
  if isDots (lastPart cs) then [] else encodeSegment (lastPart cs)

theorem slash_notMem_lastSegment (cs : List Char) : '/' ∉ lastSegment cs := by
  rw [lastSegment]
  split
  · exact List.not_mem_nil
  · exact slash_notMem_encodeSegment fun hc =>
      absurd ((lastPart_sublist_place cs).2 _ hc) (by decide)

/-- The last segment that is read stands for the whole end only if the address ends in all of it, and
that is not made of dots and has nothing in percent form. -/
theorem whole_of_percentDecode_lastSegment {cs : List Char}
    (h : percentDecode (lastSegment cs) = cs.flatMap utf8EncodeChar) :
    lastPart cs = cs ∧ isDots cs = false ∧ hasEscape cs = false := by
  have hsub := lastPart_sublist cs
  have hdots : isDots (lastPart cs) = false := by
    rw [Bool.eq_false_iff]
    intro hdots
    rw [lastSegment, if_pos hdots] at h
    -- dots stand for nothing, but nothing is not made of dots
    have hnil : cs = [] := List.eq_nil_iff_forall_not_mem.mpr fun c hc =>
      String.utf8EncodeChar_ne_nil (List.flatMap_eq_nil_iff.mp h.symm c hc)
    rw [hnil, List.sublist_nil] at hsub
    rw [hnil, hsub] at hdots
    cases hdots
  rw [lastSegment, if_neg (by rw [hdots]; exact Bool.false_ne_true), percentDecode_encodeSegment] at h
  have hwhole : lastPart cs = cs := by
    refine eq_of_sublist_of_length_le hsub ?_
    rw [← h]
    exact (length_percentDecode (lastPart cs)).1
  rw [hwhole] at h hdots
  exact ⟨hwhole, hdots, percentDecode_eq_iff.mp h⟩

/-- The names at the front of a path are its first segments. -/
theorem segmentsFromTop_pathText {names : List (List Char)} (h : ∀ n ∈ names, IsName n)
    (cs : List Char) :
    Kind.web.segmentsFromTop (pathText names ++ '/' :: cs) =
      Kind.web.normalize names.reverse (cs.splitOnP Kind.web.isSlash) := by
  have hsplit : ∀ {names : List (List Char)}, (∀ n ∈ names, IsName n) →
      ∃ rest, pathText names ++ '/' :: cs = '/' :: rest ∧
        rest.splitOnP Kind.web.isSlash = names ++ cs.splitOnP Kind.web.isSlash := by
    intro names
    induction names with
    | nil => exact fun _ => ⟨cs, rfl, rfl⟩
    | cons name names ih =>
      intro h
      obtain ⟨rest, heq, hrest⟩ := ih fun n hn => h n (List.mem_cons_of_mem _ hn)
      refine ⟨name ++ '/' :: rest, ?_, ?_⟩
      · rw [← heq]
        simp [pathText]
      · rw [List.splitOnP_append_cons_of_forall_mem
          (isFlat_of_plain (h name List.mem_cons_self).plain) _ (by decide), hrest, List.cons_append]
  obtain ⟨rest, heq, hrest⟩ := hsplit h
  have hdots : ∀ n ∈ names, isDots n = false := fun n hn => (h n hn).isDots
  have hmap : names.map encodeSegment = names :=
    (List.map_congr_left fun n hn => (h n hn).encoded).trans (List.map_id' names)
  rw [heq, Kind.segmentsFromTop, if_pos (by rfl), List.drop_one, List.tail_cons, Kind.segments, hrest,
    normalize_append hdots [] (List.splitOnP_ne_nil _ _), List.append_nil, hmap]

/-! ### The whole address -/

/-- What is read as the scheme of an address on the web. -/
structure IsWebScheme (scheme : String) : Prop where
  head : ∃ c rest, scheme.toList = c :: rest ∧ isEdge c = false
  counts : ∀ c ∈ scheme.toList, counts c = true
  isRead : ∀ rest, scheme? (scheme.toList ++ ':' :: rest) = some (scheme, rest)
  kind : kind scheme = .web

theorem isWebScheme {scheme : String} (h : scheme = "http" ∨ scheme = "https") :
    IsWebScheme scheme := by
  rcases h with rfl | rfl <;>
    exact ⟨⟨'h', _, rfl, by decide⟩, forall_mem_of_all (by decide), fun _ => rfl, by decide⟩

/-- What ends a host. -/
def hostEnds : List Char :=
  ['/', '\\', '?', '#']

/-- An address of the web that ends with its host. -/
def IsBare (written : String) : Prop :=
  ∃ scheme host, (scheme = "http" ∨ scheme = "https") ∧
    written.toList = scheme.toList ++ ':' :: '/' :: '/' :: host ∧
    (∀ c ∈ host, c ∉ hostEnds) ∧ ∃ c ∈ host, counts c = true

section Whole

variable {names : List (List Char)} {scheme : String} {host cs : List Char}

theorem eq_slash_or_plain (h : ∀ n ∈ names, IsName n) {c : Char} (hc : c ∈ pathText names) :
    c = '/' ∨ c ∉ separators := by
  obtain ⟨name, hname, hc⟩ := List.mem_flatMap.mp hc
  exact (List.mem_cons.mp hc).imp_right ((h name hname).plain c)

theorem counts_of_plain {c : Char} (h : c ∉ separators) : counts c = true := by
  simp only [separators, List.mem_cons, not_or] at h
  simp [counts, h]

theorem cleaned_text (hscheme : IsWebScheme scheme) (hnames : ∀ n ∈ names, IsName n) :
    cleaned (scheme.toList ++ ':' :: '/' :: '/' :: (host ++ (pathText names ++ '/' :: cs))) =
      scheme.toList ++
        ':' :: '/' :: '/' :: (host.filter counts ++ (pathText names ++ '/' :: kept cs)) := by
  have hpath : (pathText names).filter counts = pathText names := by
    refine List.filter_eq_self.mpr fun c hc => ?_
    rcases eq_slash_or_plain hnames hc with rfl | hplain
    · decide
    · exact counts_of_plain hplain
  obtain ⟨c, rest, htoList, hc⟩ := hscheme.head
  have hsplit : scheme.toList ++ ':' :: '/' :: '/' :: (host ++ (pathText names ++ '/' :: cs)) =
      c :: (rest ++ ':' :: '/' :: '/' :: (host ++ pathText names)) ++ '/' :: cs := by
    simp [htoList]
  rw [hsplit, cleaned_append _ _ hc (by decide), ← List.cons_append, ← htoList, List.filter_append,
    List.filter_append, List.filter_eq_self.mpr hscheme.counts]
  simp [counts, hpath]

theorem isFlat_of_host (h : ∀ c ∈ host, c ∉ hostEnds) : IsFlat host := by
  intro c hc
  rw [Bool.eq_false_iff, Ne, isSlash_iff]
  rintro (rfl | rfl) <;> exact h _ hc (by decide)

/-- No query and no fragment begins before the end of an address that was put together. -/
theorem splitEnds_text (hhost : ∀ c ∈ host, c ∉ hostEnds) (hnames : ∀ n ∈ names, IsName n) :
    splitEnds ('/' :: '/' :: (host ++ (pathText names ++ '/' :: cs))) =
      ('/' :: '/' :: (host ++ (pathText names ++ '/' :: (splitEnds cs).1)), (splitEnds cs).2) := by
  have hfront : ∀ mark ∈ hostEnds, mark ∈ separators → mark ≠ '/' →
      mark ∉ '/' :: '/' :: (host ++ (pathText names ++ ['/'])) := by
    intro mark hmark hseparates hne hmem
    simp only [List.mem_cons, List.mem_append, List.not_mem_nil, or_false] at hmem
    rcases hmem with heq | heq | hmem | hmem | heq
    · exact hne heq
    · exact hne heq
    · exact hhost mark hmem hmark
    · exact (eq_slash_or_plain hnames hmem).elim hne (absurd hseparates)
    · exact hne heq
  have h := splitEnds_append (hfront '#' (by decide) (by decide) (by decide))
    (hfront '?' (by decide) (by decide) (by decide)) cs
  simpa using h

/-- What is read as the path and the query of an address that was put together. -/
theorem read_eq_ok {base : String} (hbase : IsBare base) (hnames : ∀ n ∈ names, IsName n)
    {url : Url} (hread : read (base ++ String.ofList (pathText names ++ '/' :: cs)) = .ok url) :
    url.segments =
        Kind.web.normalize names.reverse ((splitEnds (kept cs)).1.splitOnP Kind.web.isSlash) ∧
      url.query? = (splitEnds (kept cs)).2.1.map Kind.web.encodeQuery := by
  obtain ⟨scheme, host, hscheme, htext, hplain, d, hd, hcounts⟩ := hbase
  have hscheme := isWebScheme hscheme
  have hlist : (base ++ String.ofList (pathText names ++ '/' :: cs)).toList =
      scheme.toList ++ ':' :: '/' :: '/' :: (host ++ (pathText names ++ '/' :: cs)) := by
    rw [String.toList_append, String.toList_ofList, htext]
    simp
  have hhost : ∀ c ∈ host.filter counts, c ∉ hostEnds := fun c hc =>
    hplain c (List.mem_filter.mp hc).1
  have hne : host.filter counts ≠ [] := List.ne_nil_of_mem (List.mem_filter.mpr ⟨hd, hcounts⟩)
  rw [read, hlist, cleaned_text hscheme hnames, hscheme.isRead] at hread
  dsimp only at hread
  rw [splitEnds_text hhost hnames, hscheme.kind] at hread
  dsimp only at hread
  split at hread
  next place hweb =>
    cases hread
    obtain ⟨rest, hrest⟩ :
        ∃ rest, pathText names ++ '/' :: (splitEnds (kept cs)).1 = '/' :: rest := by
      cases names with
      | nil => exact ⟨_, rfl⟩
      | cons name names => exact ⟨_, rfl⟩
    rw [hrest] at hweb
    refine ⟨?_, rfl⟩
    rw [← segmentsFromTop_pathText hnames, hrest,
      ← readWeb_eq_ok hscheme.kind (isFlat_of_host hhost) hne hweb]
  next => cases hread
  next => cases hread

/-- What stands behind the names in the path that is read is the last segment. -/
theorem eq_lastSegment {base : String} (hbase : IsBare base) (hnames : ∀ n ∈ names, IsName n)
    {url : Url} (hread : read (base ++ String.ofList (pathText names ++ '/' :: cs)) = .ok url)
    {segment : List Char} (hpath : pathText url.segments = pathText names ++ '/' :: segment)
    (hsegment : '/' ∉ segment) : segment = lastSegment cs := by
  have hlast : url.segments.getLast? = some (lastSegment cs) := by
    rw [(read_eq_ok hbase hnames hread).1]
    exact getLast?_normalize names.reverse (List.splitOnP_ne_nil _ _)
  obtain ⟨before, heq⟩ := List.getLast?_eq_some_iff.mp hlast
  have hends : pathText names ++ '/' :: segment = pathText before ++ '/' :: lastSegment cs := by
    rw [← hpath, heq, pathText_append]
    simp [pathText]
  exact (eq_of_append_slash hends hsegment (slash_notMem_lastSegment cs)).2

end Whole

end MeshControl.Http.Url
