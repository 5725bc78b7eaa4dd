import Mathlib.Tactic.SplitIfs
import MeshControl.Files.Tree
import MeshControl.Proofs.Except

/-!
# What stands under a name after a step

A name leads to the same place as before as long as every directory stays one (`Keeps.place`), and
putting or removing a file removes no directory.  So what is written under a name is found under it
(`findFile_of_write`), and what stands under a name is found under the name it is given
(`findFile_of_rename`).
-/

namespace MeshControl.Files.Tree

variable {t u v : Tree} {p q : Place} {path old new : String}

/-! ### Putting and removing -/

theorem get?_nil : t.get? [] = some .directory := rfl

theorem get?_of_ne_nil (hp : p ≠ []) : t.get? p = t.entries.lookup p := by
  rw [get?, List.isEmpty_eq_false_iff.mpr hp, if_neg Bool.false_ne_true]

theorem lookup_filter_ne (entries : List (Place × Entry)) :
    (entries.filter fun e => e.1 ≠ q).lookup p = if p = q then none else entries.lookup p := by
  induction entries with
  | nil => rw [List.filter_nil, List.lookup_nil, ite_self]
  | cons e rest ih =>
    obtain ⟨r, entry⟩ := e
    by_cases hr : r = q
    · subst hr
      rw [List.filter_cons_of_neg (by simp), ih, List.lookup_cons]
      split_ifs with hp
      · rfl
      · rw [beq_eq_false_iff_ne.mpr hp]
    · rw [List.filter_cons_of_pos (by simpa using hr), List.lookup_cons, List.lookup_cons, ih]
      by_cases hp : p = r
      · rw [hp, beq_self_eq_true]
        exact (if_neg hr).symm
      · rw [beq_eq_false_iff_ne.mpr hp]

theorem get?_erase (hp : p ≠ []) : (t.erase q).get? p = if p = q then none else t.get? p := by
  rw [get?_of_ne_nil hp, get?_of_ne_nil hp]
  exact lookup_filter_ne t.entries

theorem get?_put (hp : p ≠ []) {entry : Entry} :
    (t.put q entry).get? p = if p = q then some entry else t.get? p := by
  have hentries : (t.put q entry).entries = (q, entry) :: (t.erase q).entries := rfl
  rw [get?_of_ne_nil hp, hentries, List.lookup_cons, ← get?_of_ne_nil hp, get?_erase hp]
  split_ifs with h
  · rw [beq_iff_eq.mpr h]
  · rw [beq_eq_false_iff_ne.mpr h]

/-! ### Directories that stay -/

/-- The directories of a tree are directories of another one with the same working directory. -/
structure Keeps (t u : Tree) : Prop where
  here_eq : u.here = t.here
  directory : ∀ p, t.get? p = some .directory → u.get? p = some .directory

theorem Keeps.trans (h : Keeps t u) (h' : Keeps u v) : Keeps t v where
  here_eq := h'.here_eq.trans h.here_eq
  directory p hp := h'.directory p (h.directory p hp)

theorem keeps_erase (h : t.get? q ≠ some .directory) : Keeps t (t.erase q) where
  here_eq := rfl
  directory p hp := by
    by_cases hnil : p = []
    · rw [hnil, get?_nil]
    · have hne : p ≠ q := fun heq => h (heq.symm ▸ hp)
      rw [get?_erase hnil, if_neg hne, hp]

theorem keeps_put (h : t.get? q ≠ some .directory) {entry : Entry} : Keeps t (t.put q entry) where
  here_eq := rfl
  directory p hp := by
    by_cases hnil : p = []
    · rw [hnil, get?_nil]
    · have hne : p ≠ q := fun heq => h (heq.symm ▸ hp)
      rw [get?_put hnil, if_neg hne, hp]

theorem requireDirectory_eq_ok_iff {x : Unit} :
    t.requireDirectory p = .ok x ↔ t.get? p = some .directory := by
  rw [requireDirectory]
  split <;> simp_all

/-- Names that lead somewhere lead there as long as the directories stay. -/
theorem Keeps.follow (h : Keeps t u) {names : List String} (hp : t.follow q names = .ok p) :
    u.follow q names = .ok p := by
  induction names generalizing q with
  | nil => exact hp
  | cons name rest ih =>
    rw [Tree.follow] at hp ⊢
    obtain ⟨x, hq, hp⟩ := bind_eq_ok_iff.mp hp
    have hq' := h.directory q (requireDirectory_eq_ok_iff.mp hq)
    refine bind_eq_ok_iff.mpr ⟨x, requireDirectory_eq_ok_iff.mpr hq', ?_⟩
    split_ifs at hp ⊢
    · exact ih hp
    · exact ih hp
    · exact ih hp

theorem Keeps.start_eq (h : Keeps t u) : u.start path = t.start path := by
  rw [start, start, h.here_eq]

/-- A path that leads somewhere leads there as long as the directories stay. -/
theorem Keeps.place (h : Keeps t u) (hp : t.place path = .ok p) : u.place path = .ok p := by
  obtain ⟨x, hpath, hp⟩ := bind_eq_ok_iff.mp hp
  refine bind_eq_ok_iff.mpr ⟨x, hpath, ?_⟩
  rw [h.start_eq]
  exact h.follow hp

/-! ### Files under names -/

theorem findFile_eq_ok_iff {contents : List UInt8} {mode : Nat} :
    t.findFile path = .ok (p, contents, mode) ↔
      t.place path = .ok p ∧ t.get? p = some (.file contents mode) := by
  constructor
  · intro h
    obtain ⟨⟨q, entry⟩, hfind, h⟩ := bind_eq_ok_iff.mp h
    cases entry with
    | directory => cases h
    | file =>
      obtain ⟨r, hplace, hfind⟩ := bind_eq_ok_iff.mp hfind
      cases h
      split at hfind
      · next hr => cases hfind; exact ⟨hplace, hr⟩
      · cases hfind
  · rintro ⟨hplace, hentry⟩
    refine bind_eq_ok_iff.mpr ⟨(p, .file contents mode), bind_eq_ok_iff.mpr ⟨p, hplace, ?_⟩, rfl⟩
    rw [hentry]
    rfl

/-- What was written under a name is found under it. -/
theorem findFile_of_write {contents : List UInt8} (h : t.write path contents = .ok u) :
    ∃ p mode, u.findFile path = .ok (p, contents, mode) := by
  obtain ⟨p, hplace, h⟩ := bind_eq_ok_iff.mp h
  have key : ∀ mode, t.get? p ≠ some .directory →
      (t.put p (.file contents mode)).findFile path = .ok (p, contents, mode) := by
    intro mode hp
    have hnil : p ≠ [] := fun hnil => hp (hnil ▸ get?_nil)
    exact findFile_eq_ok_iff.mpr ⟨(keeps_put hp).place hplace, by rw [get?_put hnil, if_pos rfl]⟩
  split at h
  · cases h
  · next mode hp =>
    cases h
    exact ⟨p, mode, key mode (by rw [hp]; nofun)⟩
  · next hp =>
    cases h
    exact ⟨p, commonMode, key commonMode (by rw [hp]; nofun)⟩

theorem keeps_write {contents : List UInt8} (h : t.write path contents = .ok u) : Keeps t u := by
  obtain ⟨p, _, h⟩ := bind_eq_ok_iff.mp h
  split at h
  · cases h
  · next hp =>
    cases h
    exact keeps_put (by rw [hp]; nofun)
  · next hp =>
    cases h
    exact keeps_put (by rw [hp]; nofun)

/-- A file that is there can be written. -/
theorem exists_write {contents : List UInt8} {mode : Nat} (h : t.findFile path = .ok (p, contents, mode))
    (contents' : List UInt8) : ∃ u, t.write path contents' = .ok u := by
  obtain ⟨hplace, hentry⟩ := findFile_eq_ok_iff.mp h
  refine ⟨t.put p (.file contents' mode), bind_eq_ok_iff.mpr ⟨p, hplace, ?_⟩⟩
  rw [hentry]
  rfl

/-- A step succeeds with the tree that it comes to. -/
theorem settle_eq_ok_iff {r : Except Error Tree} :
    t.settle r = (.ok (), u) ↔ r = .ok u := by
  cases r with
  | error e => exact ⟨nofun, nofun⟩
  | ok v => exact ⟨fun h => congrArg Except.ok (Prod.mk.inj h).2,
      fun h => congrArg _ (Except.ok.inj h)⟩

/-! ### Directories made -/

theorem keeps_makeDirectories {hasMade : Bool} {names : List String} :
    Keeps t (t.makeDirectories hasMade p names).2 := by
  have hself : ∀ t : Tree, Keeps t t := fun t => ⟨rfl, fun _ h => h⟩
  induction names generalizing t hasMade p with
  | nil => exact hself t
  | cons name rest ih =>
    rw [makeDirectories]
    split_ifs
    · exact hself t
    all_goals
      split
      · exact ih
      · exact hself t
      · next hnone => exact (keeps_put (by rw [hnone]; nofun)).trans ih

/-- Directories that were made need not be made again. -/
theorem makeDirectories_again {hasMade hasMade' : Bool} {names : List String}
    (h : t.makeDirectories hasMade p names = (.ok (), u)) (hkeeps : Keeps u v) :
    v.makeDirectories hasMade' p names = (.ok (), v) := by
  induction names generalizing t hasMade hasMade' p with
  | nil => rfl
  | cons name rest ih =>
    rw [makeDirectories] at h ⊢
    generalize (if name = ".." then p.dropLast else p ++ [name]) = next at h ⊢
    have hstep : ∀ {t : Tree} {hasMade : Bool}, t.makeDirectories hasMade next rest = (.ok (), u) →
        t.get? next = some .directory → v.get? next = some .directory := by
      intro t hasMade hmade hdirectory
      have hu : Keeps t (t.makeDirectories hasMade next rest).2 := keeps_makeDirectories
      rw [hmade] at hu
      exact hkeeps.directory next (hu.directory next hdirectory)
    by_cases hlength : nameLimit < name.utf8ByteSize
    · rw [if_pos hlength] at h
      cases (Prod.mk.inj h).1
    · rw [if_neg hlength] at h ⊢
      split at h
      · next hdirectory =>
        rw [hstep h hdirectory]
        exact ih h
      · cases (Prod.mk.inj h).1
      · next hnone =>
        have hnil : next ≠ [] := by
          rintro rfl
          cases hnone
        rw [hstep h (by rw [get?_put hnil, if_pos rfl])]
        exact ih h

theorem endsWith_iff {s ending : String} :
    s.endsWith ending = true ↔ ending.toList <:+ s.toList := by
  rw [← String.endsWith_toSlice, String.Slice.endsWith_string_iff, String.copy_toSlice]

/-- Without a mark at its end, a text has no marks to lose. -/
theorem dropEndMarks_eq_self {mark : Char} {text : List Char} (h : ¬ [mark] <:+ text) :
    Text.dropEndMarks mark text = text := by
  rw [Text.dropEndMarks]
  cases hrev : text.reverse with
  | nil => rw [List.reverse_eq_nil_iff.mp hrev]; rfl
  | cons c rest =>
    have hc : (c == mark) = false := by
      refine beq_eq_false_iff_ne.mpr fun hc => h ?_
      rw [← List.reverse_reverse text, hrev, List.reverse_cons, hc]
      exact List.suffix_append _ _
    rw [List.dropWhile_cons, hc, ← hrev]
    exact List.reverse_reverse text

/-- A file that was renamed stood under its old name and went to where no directory is. -/
theorem rename_eq_ok (h : t.rename old new = .ok u) :
    ∃ p contents mode q, t.findFile old = .ok (p, contents, mode) ∧ t.place new = .ok q ∧
      t.get? q ≠ some .directory ∧ u = (t.erase p).put q (.file contents mode) := by
  rw [rename] at h
  split at h
  · cases h
  · obtain ⟨⟨p, contents, mode⟩, hold, h⟩ := bind_eq_ok_iff.mp h
    obtain ⟨_, hpath, h⟩ := bind_eq_ok_iff.mp h
    obtain ⟨q, hfollow, h⟩ := bind_eq_ok_iff.mp h
    dsimp only at h
    split_ifs at h with hbusy hend hend
    · cases h
    · cases h
    · cases h
    · split at h
      · cases h
      · next hdir =>
        cases h
        have hmarks : Text.dropEndMarks '/' new.toList = new.toList :=
          dropEndMarks_eq_self fun h => hend (endsWith_iff.mpr h)
        rw [hmarks] at hfollow
        exact ⟨p, contents, mode, q, hold, bind_eq_ok_iff.mpr ⟨_, hpath, hfollow⟩, hdir, rfl⟩

/-- What stands under a name is found under the name it was given. -/
theorem findFile_of_rename {contents : List UInt8} {mode : Nat}
    (hold : t.findFile old = .ok (p, contents, mode)) (h : t.rename old new = .ok u) :
    ∃ q, u.findFile new = .ok (q, contents, mode) := by
  obtain ⟨p', contents', mode', q, hold', hnew, hq, rfl⟩ := rename_eq_ok h
  obtain ⟨rfl, rfl, rfl⟩ : p = p' ∧ contents = contents' ∧ mode = mode' := by
    rw [hold] at hold'
    cases hold'
    exact ⟨rfl, rfl, rfl⟩
  have hnil : q ≠ [] := fun hnil => hq (hnil ▸ get?_nil)
  have herase : (t.erase p).get? q ≠ some .directory := by
    rw [get?_erase hnil]
    split_ifs
    · nofun
    · exact hq
  have hp : t.get? p ≠ some .directory := by
    rw [(findFile_eq_ok_iff.mp hold).2]
    nofun
  have hput : Keeps (t.erase p) ((t.erase p).put q (.file contents mode)) := keeps_put herase
  have hkeeps := (keeps_erase hp).trans hput
  exact ⟨q, findFile_eq_ok_iff.mpr ⟨hkeeps.place hnew, by rw [get?_put hnil, if_pos rfl]⟩⟩

end MeshControl.Files.Tree
