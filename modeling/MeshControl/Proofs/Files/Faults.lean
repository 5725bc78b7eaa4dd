import MeshControl.Proofs.Dialogue.Branch
import MeshControl.Proofs.Files.Tree

/-!
# Steps that fail part of the way

A step on a tree of files may do what it should, or fail: without a trace, or with some of the
directories made, or with some of the bytes written (`Faulty`).  A temporary file may get any name of
its kind that nothing has.  Whatever happens, no directory is lost, and a place that no step is about
keeps what stands there (`Beside`).

* `Tree.Faulty`: what may come of a step.
* `get?_makeDirectories`: directories are made only where they are when all of them were made.
* `Keeps.of_makeDirectories`: whoever makes the directories that others made has them all.
* `ComesTo`: how far a path leads.
* `isTemporary_of_place_join`: where the name of a temporary file leads.
-/

namespace MeshControl.Files

open MeshControl.Text

/-- The answer that a step failed. -/
def Call.failing (e : Error) : (q : Call) → q.Answer
  | .isThere _ => false
  | .read _ | .makeDirectories _ | .makeTemporary _ | .protect _ | .write _ _ | .sync _
  | .rename _ _ | .remove _ => .error e

namespace Tree

/-- A name of the kind that temporary files have. -/
structure IsTemporaryName (name : String) : Prop where
  start : startsWith name temporaryStart = true
  noSlash : '/' ∉ name.toList

/-- What may come of a step: its answer and the tree behind it. -/
inductive Faulty (t : Tree) : (q : Call) → q.Answer → Tree → Prop
  /-- The step does what it should. -/
  | works (q : Call) : Faulty t q (t.answer q).1 (t.answer q).2
  /-- It fails without a trace. -/
  | idle (q : Call) (e : Error) : Faulty t q (q.failing e) t
  /-- It fails with the first directories made. -/
  | partlyMade (path : String) (n : Nat) (e : Error) :
    Faulty t (.makeDirectories path) (.error e)
      (t.makeDirectories false (t.start path) ((parts path).take n)).2
  /-- It gives a temporary file any name that nothing has. -/
  | named {directory name : String} {place : Place} (mode : Nat)
      (hplace : t.place directory = .ok place) (hdirectory : t.get? place = some .directory)
      (hname : IsTemporaryName name) (hfresh : t.get? (place ++ [name]) = none) :
    Faulty t (.makeTemporary directory) (.ok (join directory name))
      (t.put (place ++ [name]) (.file [] mode))
  /-- It fails with the first bytes written. -/
  | partlyWritten {path text : String} {place : Place} {contents bytes : List UInt8} {mode : Nat}
      (hfile : t.findFile path = .ok (place, contents, mode)) (hbytes : bytes <+: Utf8.encode text)
      (e : Error) :
    Faulty t (.write path text) (.error e) (t.put place (.file bytes mode))

/-- Steps that follow one another, each with what came of it. -/
inductive Steps : Tree → List (Dialogue.Exchange Call Call.Answer) → Tree → Prop
  | nil (t : Tree) : Steps t [] t
  | cons {t u v : Tree} {call : Call} {answer : call.Answer}
      {log : List (Dialogue.Exchange Call Call.Answer)} (head : Faulty t call answer u)
      (tail : Steps u log v) : Steps t (⟨call, answer⟩ :: log) v

variable {t t' u v : Tree} {p q x : Place} {path : String}

theorem Keeps.refl (t : Tree) : Keeps t t :=
  ⟨rfl, fun _ => id⟩

/-- A run in surroundings that hold a tree takes steps on it, if each answer is what may come of one. -/
theorem steps_runLogged_of_faulty {α σ : Type} {tree : σ → Tree}
    {world : σ → (q : Call) → q.Answer × σ}
    (faulty : ∀ s q, Faulty (tree s) q (world s q).1 (tree (world s q).2)) (d : Asking α) (s : σ) :
    Steps (tree s) (d.runLogged world s).2.2 (tree (d.runLogged world s).2.1) := by
  induction d generalizing s with
  | done value => exact .nil (tree s)
  | ask call next ih => exact .cons (faulty s call) (ih _ _)

/-- A run on a tree takes steps that do what they should. -/
theorem steps_runLogged {α : Type} (d : Asking α) (t : Tree) :
    Steps t (d.runLogged Tree.answer t).2.2 (d.runLogged Tree.answer t).2.1 :=
  @steps_runLogged_of_faulty α Tree id Tree.answer (fun _ q => .works q) d t

/-! ### Making directories -/

theorem makeDirectories_of_answer {directory : String}
    (h : t.answer (.makeDirectories directory) = (.ok (), u)) :
    t.makeDirectories false (t.start directory) (parts directory) = (.ok (), u) := by
  rw [Tree.answer] at h
  cases hpath : requirePath directory with
  | error e =>
    rw [hpath] at h
    cases (Prod.mk.inj h).1
  | ok _ =>
    rw [hpath] at h
    exact h

/-- If directories were made, the first of them is one now, and the others were made behind it. -/
theorem makeDirectories_cons_eq_ok {hasMade : Bool} {name : String} {rest : List String}
    (h : t.makeDirectories hasMade q (name :: rest) = (.ok (), u)) :
    let next := if name = ".." then q.dropLast else q ++ [name]
    ¬nameLimit < name.utf8ByteSize ∧ u.get? next = some .directory ∧
      ∃ s hasMade', s.makeDirectories hasMade' next rest = (.ok (), u) ∧
        s.get? next = some .directory ∧
        (s = t ∨ t.get? next = none ∧ s = t.put next .directory) := by
  rw [makeDirectories] at h
  generalize (if name = ".." then q.dropLast else q ++ [name]) = next at h ⊢
  have hstays : ∀ {s : Tree} {hasMade : Bool}, s.makeDirectories hasMade next rest = (.ok (), u) →
      s.get? next = some .directory → u.get? next = some .directory := by
    intro s hasMade hmade hdirectory
    have hkeeps : Keeps s (s.makeDirectories hasMade next rest).2 := keeps_makeDirectories
    rw [hmade] at hkeeps
    exact hkeeps.directory next hdirectory
  by_cases hlong : nameLimit < name.utf8ByteSize
  · rw [if_pos hlong] at h
    cases (Prod.mk.inj h).1
  · rw [if_neg hlong] at h
    refine ⟨hlong, ?_⟩
    split at h
    · next hdirectory => exact ⟨hstays h hdirectory, t, hasMade, h, hdirectory, .inl rfl⟩
    · cases (Prod.mk.inj h).1
    · next hnone =>
      have hnil : next ≠ [] := by
        rintro rfl
        cases hnone
      have hput : (t.put next .directory).get? next = some .directory := by
        rw [get?_put hnil, if_pos rfl]
      exact ⟨hstays h hput, _, true, h, hput, .inr ⟨hnone, rfl⟩⟩

/-- **Directories are made only where they are when all of them were made**, however few of them are
made. -/
theorem get?_makeDirectories {hasMade : Bool} {names : List String}
    (h : t.makeDirectories hasMade q names = (.ok (), t')) (u : Tree) (hasMade' : Bool) (n : Nat)
    (x : Place) :
    (u.makeDirectories hasMade' q (names.take n)).2.get? x = u.get? x ∨
      u.get? x = none ∧ (u.makeDirectories hasMade' q (names.take n)).2.get? x = some .directory ∧
        t'.get? x = some .directory := by
  induction names generalizing t u q n hasMade hasMade' with
  | nil =>
    rw [List.take_nil]
    exact .inl rfl
  | cons name rest ih =>
    cases n with
    | zero => exact .inl rfl
    | succ n =>
      obtain ⟨hlong, hnext, s, _, hrest, -⟩ := makeDirectories_cons_eq_ok h
      rw [List.take_succ_cons, makeDirectories, if_neg hlong]
      generalize (if name = ".." then q.dropLast else q ++ [name]) = next at hnext hrest ⊢
      split
      · exact ih hrest u _ n
      · exact .inl rfl
      · next hnone =>
        by_cases hx : x = next
        · subst hx
          have hnil : x ≠ [] := by
            rintro rfl
            cases hnone
          exact .inr ⟨hnone, keeps_makeDirectories.directory x (by rw [get?_put hnil, if_pos rfl]),
            hnext⟩
        · have hput : (u.put next .directory).get? x = u.get? x := by
            by_cases hnil : x = []
            · rw [hnil, get?_nil, get?_nil]
            · rw [get?_put hnil, if_neg hx]
          rw [← hput]
          exact ih hrest _ _ n

/-- A directory that another tree has may be put into this one. -/
theorem Keeps.put_directory (h : Keeps t u) (hq : u.get? q = some .directory) :
    Keeps (t.put q .directory) u where
  here_eq := h.here_eq
  directory x hx := by
    by_cases hnil : x = []
    · rw [hnil, get?_nil]
    · rw [get?_put hnil] at hx
      split_ifs at hx with heq
      · rw [heq, hq]
      · exact h.directory x hx

/-- **Whoever makes the directories that others made has them all.** -/
theorem Keeps.of_makeDirectories {hasMade hasMade' : Bool} {names : List String}
    (h : t.makeDirectories hasMade q names = (.ok (), t')) (hkeeps : Keeps t u)
    (hmade : u.makeDirectories hasMade' q names = (.ok (), v)) : Keeps t' v := by
  induction names generalizing t u q hasMade hasMade' with
  | nil =>
    cases h
    cases hmade
    exact hkeeps
  | cons name rest ih =>
    obtain ⟨-, -, s, _, hrest, -, hs⟩ := makeDirectories_cons_eq_ok h
    obtain ⟨-, -, w, _, hrest', hnext, hw⟩ := makeDirectories_cons_eq_ok hmade
    -- the first directory is one in both trees, whoever made it
    have hbegin : Keeps t w := by
      rcases hw with rfl | ⟨hnone, rfl⟩
      · exact hkeeps
      · exact hkeeps.trans (keeps_put (by rw [hnone]; nofun))
    rcases hs with rfl | ⟨-, rfl⟩
    · exact ih hrest hbegin hrest'
    · exact ih hrest (hbegin.put_directory hnext) hrest'

/-! ### Directories that are yet to be made -/

/-- Each directory of a tree is one of another tree, or nothing stands there yet. -/
structure Partly (t u : Tree) : Prop where
  here_eq : u.here = t.here
  directory : ∀ p, t.get? p = some .directory → u.get? p = some .directory ∨ u.get? p = none

theorem Partly.follow (h : Partly t u) {names : List String} (hp : t.follow q names = .ok p) :
    u.follow q names = .ok p ∨ u.follow q names = .error .notFound := by
  induction names generalizing q with
  | nil => exact .inl hp
  | cons name rest ih =>
    rw [Tree.follow] at hp ⊢
    obtain ⟨_, hq, hp⟩ := bind_eq_ok_iff.mp hp
    -- the names are followed up to the first directory that is missing
    rcases h.directory q (requireDirectory_eq_ok_iff.mp hq) with hthere | hmissing
    · have hq' : u.requireDirectory q = .ok () := requireDirectory_eq_ok_iff.mpr hthere
      rw [hq']
      show (if name = ".." then _ else _) = _ ∨ (if name = ".." then _ else _) = _
      split_ifs at hp ⊢
      · exact ih hp
      · exact ih hp
      · exact ih hp
    · right
      rw [requireDirectory, hmissing]
      rfl

/-! ### How far a path leads -/

/-- A path comes to a place: it leads there, or on from there. -/
def ComesTo (t : Tree) (path : String) (p : Place) : Prop :=
  requirePath path = .ok () ∧ ∃ front back,
    (path.toList.splitOn '/').map String.ofList = front ++ back ∧
      t.follow (t.start path) front = .ok p

theorem follow_append (q : Place) (front back : List String) :
    t.follow q (front ++ back) = t.follow q front >>= fun p => t.follow p back := by
  induction front generalizing q with
  | nil => rfl
  | cons name front ih =>
    rw [List.cons_append, Tree.follow, Tree.follow]
    cases t.requireDirectory q with
    | error e => rfl
    | ok _ =>
      show (if name = ".." then _ else _) = (if name = ".." then _ else _) >>= _
      split_ifs
      · exact ih _
      · exact ih _
      · rfl
      · exact ih _

theorem findFile_of_free (hplace : t.place path = .ok p) (hfree : t.get? p = none) :
    t.findFile path = .error .notFound := by
  have hfind : t.find path = .error .notFound := by
    rw [find, hplace]
    simp only [bind, Except.bind, hfree]
    rfl
  rw [findFile, hfind]
  rfl

theorem findFile_of_error {e : Error} (hplace : t.place path = .error e) :
    t.findFile path = .error e := by
  rw [findFile, find, hplace]
  rfl

/-- A path that comes to a place goes on from there as long as the directories stay. -/
theorem ComesTo.exists_place_eq (h : t.ComesTo path p) :
    ∃ back, ∀ u, Keeps t u → u.place path = u.follow p back := by
  obtain ⟨hpath, front, back, hnames, hfront⟩ := h
  refine ⟨back, fun u hkeeps => ?_⟩
  rw [Tree.place, hpath, hnames, hkeeps.start_eq]
  exact (follow_append _ front back).trans (by rw [hkeeps.follow hfront]; rfl)

/-- Where nothing stands, a path finds nothing, whether it leads there or on from there. -/
theorem ComesTo.findFile_of_free (h : t.ComesTo path p) (hkeeps : Keeps t u)
    (hfree : u.get? p = none) : u.findFile path = .error .notFound := by
  obtain ⟨back, hback⟩ := h.exists_place_eq
  have hplace := hback u hkeeps
  cases back with
  | nil => exact Tree.findFile_of_free hplace hfree
  | cons name rest =>
    rw [Tree.follow, requireDirectory, hfree] at hplace
    exact findFile_of_error hplace

/-- A path that leads somewhere, and comes to a place that is no directory, leads there. -/
theorem ComesTo.place_eq (h : t.ComesTo path p) (hkeeps : Keeps t u)
    (hp : u.get? p ≠ some .directory) (hplace : u.place path = .ok q) : t.place path = .ok p := by
  obtain ⟨back, hback⟩ := h.exists_place_eq
  cases back with
  | nil => exact hback t (.refl t)
  | cons name rest =>
    rw [hback u hkeeps, Tree.follow] at hplace
    obtain ⟨_, hq, -⟩ := bind_eq_ok_iff.mp hplace
    exact absurd (requireDirectory_eq_ok_iff.mp hq) hp

/-- A path finds nothing as long as the directories that it leads through are yet to be made. -/
theorem Partly.findFile_of_free (h : Partly t u) (hcomes : t.ComesTo path p)
    (hfree : u.get? p = none) : u.findFile path = .error .notFound := by
  obtain ⟨hpath, front, back, hnames, hfront⟩ := hcomes
  have hstart : u.start path = t.start path := by rw [start, start, h.here_eq]
  rcases h.follow hfront with hthere | hmissing
  · have hcomes : u.ComesTo path p := ⟨hpath, front, back, hnames, hstart ▸ hthere⟩
    exact hcomes.findFile_of_free (.refl u) hfree
  · refine findFile_of_error ?_
    rw [Tree.place, hpath, hnames, hstart]
    exact (follow_append _ front back).trans (by rw [hmissing]; rfl)

/-! ### Temporary files -/

/-- A place whose last name is of the kind that temporary files have. -/
def IsTemporary (p : Place) : Prop :=
  ∃ front name, IsTemporaryName name ∧ p = front ++ [name]

variable {directory name : String}

/-- The name of a temporary file is none of those that lead elsewhere. -/
theorem IsTemporaryName.plain (h : IsTemporaryName name) :
    name ≠ ".." ∧ ¬(name = "" ∨ name = ".") := by
  have hstart := h.start
  refine ⟨?_, ?_⟩
  · rintro rfl
    cases hstart
  · rintro (rfl | rfl)
    · cases hstart
    · cases hstart

/-- Names that end in one of a temporary file lead to a place of that name. -/
theorem isTemporary_of_follow (hname : IsTemporaryName name) {names : List String}
    (h : t.follow q (names ++ [name]) = .ok p) : IsTemporary p := by
  induction names generalizing q with
  | nil =>
    rw [List.nil_append, Tree.follow] at h
    obtain ⟨_, -, h⟩ := bind_eq_ok_iff.mp h
    rw [if_neg hname.plain.1, if_neg hname.plain.2] at h
    split_ifs at h
    cases h
    exact ⟨q, name, hname, rfl⟩
  | cons first rest ih =>
    rw [List.cons_append, Tree.follow] at h
    obtain ⟨_, -, h⟩ := bind_eq_ok_iff.mp h
    split_ifs at h
    · exact ih h
    · exact ih h
    · exact ih h

/-- Behind a slash, or at the beginning, a name without slashes is the last part of a path. -/
theorem exists_splitOn_join (directory : String) (hname : '/' ∉ name.toList) :
    ∃ front, (join directory name).toList.splitOn '/' = front ++ [name.toList] := by
  have halone : name.toList.splitOn '/' = [name.toList] := List.splitOn_eq_singleton hname
  have hbehind (front : List Char) :
      (front ++ '/' :: name.toList).splitOn '/' = front.splitOn '/' ++ [name.toList] := by
    rw [← halone]
    exact List.splitOnP_append_cons front name.toList (beq_self_eq_true '/')
  rw [join]
  split_ifs with hfirst hend
  · exact ⟨[], halone⟩
  · obtain ⟨front, hfront⟩ := endsWith_iff.mp hend
    refine ⟨front.splitOn '/', ?_⟩
    rw [String.toList_append, ← hfront, List.append_assoc]
    exact hbehind front
  · refine ⟨directory.toList.splitOn '/', ?_⟩
    rw [String.toList_append, String.toList_append, List.append_assoc]
    exact hbehind directory.toList

/-- **The name of a temporary file leads to a place of that name**, if it leads anywhere. -/
theorem isTemporary_of_place_join (hname : IsTemporaryName name)
    (h : t.place (join directory name) = .ok p) : IsTemporary p := by
  obtain ⟨_, -, h⟩ := bind_eq_ok_iff.mp h
  obtain ⟨front, hfront⟩ := exists_splitOn_join directory hname.noSlash
  rw [hfront, List.map_append, List.map_singleton, String.ofList_toList] at h
  exact isTemporary_of_follow hname h

theorem isTemporaryName_freshName (d : Place) : IsTemporaryName (t.freshName d) := by
  rw [freshName]
  generalize List.foldr max 0 _ = n
  refine ⟨?_, ?_⟩
  · rw [startsWith, String.toList_append, List.isPrefixOf_iff_prefix]
    exact List.prefix_append _ _
  · rw [String.toList_append, String.toList_ofList]
    simp [temporaryStart]

theorem le_foldr_max {n : Nat} {ns : List Nat} (h : n ∈ ns) : n ≤ ns.foldr max 0 := by
  induction ns with
  | nil => cases h
  | cons m ns ih =>
    rw [List.foldr_cons]
    rcases List.mem_cons.mp h with rfl | h
    · exact Nat.le_max_left _ _
    · exact Nat.le_trans (ih h) (Nat.le_max_right _ _)

/-- Nothing has a fresh name. -/
theorem get?_freshName (d : Place) : t.get? (d ++ [t.freshName d]) = none := by
  have hnil : d ++ [t.freshName d] ≠ [] := List.append_ne_nil_of_right_ne_nil d (List.cons_ne_nil _ _)
  rw [get?_of_ne_nil hnil, Option.eq_none_iff_forall_ne_some]
  intro entry hentry
  obtain ⟨before, after, hentries, -⟩ := List.lookup_eq_some_iff.mp hentry
  -- the fresh name would be longer than itself
  have hbelow : d ++ [t.freshName d] ∈ t.below d := by
    simp [below, hentries]
  have halike : t.freshName d ∈ ((t.below d).map fun p => p.getLast?.getD "").filter
      fun name => startsWith name temporaryStart := by
    refine List.mem_filter.mpr ⟨List.mem_map.mpr ⟨_, hbelow, by simp⟩, ?_⟩
    exact (isTemporaryName_freshName d).start
  have hle := le_foldr_max (List.mem_map_of_mem (f := String.length) halike)
  have hlength (n : Nat) :
      (temporaryStart ++ String.ofList (List.replicate n 'x')).length = 4 + n := by
    rw [String.length_append, String.length_ofList, List.length_replicate]
    rfl
  rw [freshName, hlength] at hle
  omega

/-! ### What steps leave alone -/

/-- No directory is lost, and what stands at a place stays there. -/
structure Beside (p : Place) (t u : Tree) : Prop where
  keeps : Keeps t u
  get?_eq : u.get? p = t.get? p

theorem Beside.refl (p : Place) (t : Tree) : Beside p t t :=
  ⟨.refl t, rfl⟩

theorem Beside.trans (h : Beside p t u) (h' : Beside p u v) : Beside p t v :=
  ⟨h.keeps.trans h'.keeps, h'.get?_eq.trans h.get?_eq⟩

/-- Something is put elsewhere. -/
theorem beside_put (hp : p ≠ []) (hne : q ≠ p) (hq : t.get? q ≠ some .directory) {entry : Entry} :
    Beside p t (t.put q entry) :=
  ⟨keeps_put hq, by rw [get?_put hp, if_neg hne.symm]⟩

/-- Something is removed elsewhere. -/
theorem beside_erase (hp : p ≠ []) (hne : q ≠ p) (hq : t.get? q ≠ some .directory) :
    Beside p t (t.erase q) :=
  ⟨keeps_erase hq, by rw [get?_erase hp, if_neg hne.symm]⟩

/-- The steps that fill a file or remove it. -/
inductive IsOn (path : String) : Call → Prop
  | protect : IsOn path (.protect path)
  | write (text : String) : IsOn path (.write path text)
  | sync : IsOn path (.sync path)
  | remove : IsOn path (.remove path)

theorem not_directory_of_findFile {contents : List UInt8} {mode : Nat}
    (h : t.findFile path = .ok (q, contents, mode)) : t.get? q ≠ some .directory := by
  rw [(findFile_eq_ok_iff.mp h).2]
  nofun

theorem beside_write (hp : p ≠ []) (hother : ∀ q, t.place path = .ok q → q ≠ p)
    {contents : List UInt8} (h : t.write path contents = .ok u) : Beside p t u := by
  refine ⟨keeps_write h, ?_⟩
  obtain ⟨q, hplace, h⟩ := bind_eq_ok_iff.mp h
  split at h
  · cases h
  · cases h
    rw [get?_put hp, if_neg (hother q hplace).symm]
  · cases h
    rw [get?_put hp, if_neg (hother q hplace).symm]

/-- **A step on another file leaves a place alone**, whatever comes of it. -/
theorem Faulty.beside_of_isOn {call : Call} {answer : call.Answer} (h : Faulty t call answer u)
    (hon : IsOn path call) (hp : p ≠ []) (hother : ∀ q, t.place path = .ok q → q ≠ p) :
    Beside p t u := by
  have hfile {q : Place} {contents : List UInt8} {mode : Nat}
      (hfind : t.findFile path = .ok (q, contents, mode)) : q ≠ p ∧ t.get? q ≠ some .directory :=
    ⟨hother q (findFile_eq_ok_iff.mp hfind).1, not_directory_of_findFile hfind⟩
  cases hon with
  | protect =>
    cases h with
    | idle => exact .refl p t
    | works =>
      rw [Tree.answer]
      cases hfind : t.findFile path with
      | error e => exact .refl p t
      | ok found => exact beside_put hp (hfile hfind).1 (hfile hfind).2
  | write text =>
    cases h with
    | idle => exact .refl p t
    | partlyWritten hfind => exact beside_put hp (hfile hfind).1 (hfile hfind).2
    | works =>
      rw [Tree.answer]
      cases hwrite : t.write path (Utf8.encode text) with
      | error e => exact .refl p t
      | ok v => exact beside_write hp hother hwrite
  | sync =>
    cases h with
    | idle => exact .refl p t
    | works => exact .refl p t
  | remove =>
    cases h with
    | idle => exact .refl p t
    | works =>
      rw [Tree.answer]
      cases hfind : t.findFile path with
      | error e => exact .refl p t
      | ok found => exact beside_erase hp (hfile hfind).1 (hfile hfind).2

/-- **A temporary file is made at no other place**, whatever comes of it. -/
theorem Faulty.makeTemporary {answer : Except Error String}
    (h : Faulty t (.makeTemporary directory) answer u) (hp : p ≠ []) (hother : ¬IsTemporary p) :
    Beside p t u ∧ ∀ temporary, answer = .ok temporary →
      ∃ name, IsTemporaryName name ∧ temporary = join directory name := by
  have hput {d : Place} {name : String} {mode : Nat} (hname : IsTemporaryName name)
      (hfresh : t.get? (d ++ [name]) = none) :
      Beside p t (t.put (d ++ [name]) (.file [] mode)) := by
    refine beside_put hp (fun heq => ?_) (by rw [hfresh]; nofun)
    exact hother ⟨d, name, hname, heq.symm⟩
  cases h with
  | idle => exact ⟨.refl p t, nofun⟩
  | named mode hplace hdirectory hname hfresh =>
    exact ⟨hput hname hfresh, fun _ heq => ⟨_, hname, (Except.ok.inj heq).symm⟩⟩
  | works =>
    rw [Tree.answer]
    cases t.place directory with
    | error e => exact ⟨.refl p t, nofun⟩
    | ok d =>
      dsimp only
      cases t.requireDirectory d with
      | error e => exact ⟨.refl p t, nofun⟩
      | ok _ =>
        have hname : IsTemporaryName (t.freshName d) := isTemporaryName_freshName d
        exact ⟨hput hname (get?_freshName d), fun _ heq => ⟨_, hname, (Except.ok.inj heq).symm⟩⟩

/-- Directories are made as far as it goes; if all of them were made, that is what should be done. -/
theorem Faulty.makeDirectories {answer : Except Error Unit}
    (h : Faulty t (.makeDirectories path) answer u) :
    (∃ n, u = (t.makeDirectories false (t.start path) ((parts path).take n)).2) ∧
      (answer = .ok () → t.answer (.makeDirectories path) = (.ok (), u)) := by
  cases h with
  | idle => exact ⟨⟨0, rfl⟩, nofun⟩
  | partlyMade _ n => exact ⟨⟨n, rfl⟩, nofun⟩
  | works =>
    refine ⟨?_, fun heq => Prod.ext heq rfl⟩
    rw [Tree.answer]
    cases requirePath path with
    | error e => exact ⟨0, rfl⟩
    | ok _ => exact ⟨(parts path).length, by rw [List.take_length]⟩

/-- A step that succeeds did what it should, unless it gave a name to a temporary file. -/
theorem Faulty.answer_eq {call : Call} {answer : call.Answer} (h : Faulty t call answer u)
    (hcall : ∀ directory, call ≠ .makeTemporary directory) :
    t.answer call = (answer, u) ∨ ∃ e, answer = call.failing e := by
  cases h with
  | works => exact .inl rfl
  | idle _ e => exact .inr ⟨e, rfl⟩
  | partlyMade _ _ e => exact .inr ⟨e, rfl⟩
  | named => exact absurd rfl (hcall _)
  | partlyWritten _ _ e => exact .inr ⟨e, rfl⟩

/-- A file is renamed as a whole or not at all. -/
theorem Faulty.rename {old new : String} {answer : Except Error Unit}
    (h : Faulty t (.rename old new) answer u) :
    answer = .ok () ∧ t.rename old new = .ok u ∨ (∃ e, answer = .error e) ∧ u = t := by
  cases h with
  | idle _ e => exact .inr ⟨⟨e, rfl⟩, rfl⟩
  | works =>
    rw [Tree.answer]
    cases t.rename old new with
    | error e => exact .inr ⟨⟨e, rfl⟩, rfl⟩
    | ok v => exact .inl ⟨rfl, rfl⟩

/-! ### Files that are filled -/

/-- A file that gets other contents is found with them. -/
theorem findFile_put {contents contents' : List UInt8} {mode mode' : Nat}
    (h : t.findFile path = .ok (q, contents, mode)) :
    (t.put q (.file contents' mode')).findFile path = .ok (q, contents', mode') := by
  have hq := not_directory_of_findFile h
  have hnil : q ≠ [] := fun hnil => hq (hnil ▸ get?_nil)
  refine findFile_eq_ok_iff.mpr ⟨(keeps_put hq).place (findFile_eq_ok_iff.mp h).1, ?_⟩
  rw [get?_put hnil, if_pos rfl]

theorem findFile_of_protect {temporary : String}
    (h : Faulty t (.protect temporary) (.ok ()) u) :
    ∃ q contents, u.findFile temporary = .ok (q, contents, ownerMode) := by
  obtain h | ⟨_, he⟩ := h.answer_eq nofun
  · have hsettle := settle_eq_ok_iff.mp h
    cases hfind : t.findFile temporary with
    | error e =>
      rw [hfind] at hsettle
      cases hsettle
    | ok found =>
      rw [hfind] at hsettle
      cases hsettle
      exact ⟨_, _, findFile_put hfind⟩
  · cases he

theorem findFile_of_written {temporary text : String} {contents : List UInt8} {mode : Nat}
    (hfind : t.findFile temporary = .ok (q, contents, mode))
    (h : Faulty t (.write temporary text) (.ok ()) u) :
    u.findFile temporary = .ok (q, Utf8.encode text, mode) := by
  obtain h | ⟨_, he⟩ := h.answer_eq nofun
  · obtain ⟨r, hplace, hput⟩ := bind_eq_ok_iff.mp (settle_eq_ok_iff.mp h)
    obtain ⟨hplace', hentry⟩ := findFile_eq_ok_iff.mp hfind
    cases hplace.symm.trans hplace'
    rw [hentry] at hput
    cases hput
    exact findFile_put hfind
  · cases he

/-- **A file that was filled without a failure and renamed holds the whole text**, and only its owner
may read it. -/
theorem get?_of_filled {t₁ t₂ t₃ : Tree} {temporary text : String}
    (hprotect : Faulty t (.protect temporary) (.ok ()) t₁)
    (hwrite : Faulty t₁ (.write temporary text) (.ok ()) t₂)
    (hsync : Faulty t₂ (.sync temporary) (.ok ()) t₃)
    (hrename : Faulty t₃ (.rename temporary path) (.ok ()) u) :
    ∃ p, t₃.place path = .ok p ∧ u.get? p = some (.file (Utf8.encode text) ownerMode) ∧
      Keeps t₃ u := by
  -- the file has its permissions before anything is written into it
  obtain ⟨q, contents, hprotected⟩ := findFile_of_protect hprotect
  have hwritten := findFile_of_written hprotected hwrite
  obtain rfl : t₂ = t₃ := by
    obtain h | ⟨_, he⟩ := hsync.answer_eq nofun
    · exact (Prod.mk.inj h).2
    · cases he
  obtain ⟨-, hrenamed⟩ | ⟨⟨_, he⟩, -⟩ := hrename.rename
  · obtain ⟨q', contents', mode', p, hold, hplace, hp, rfl⟩ := rename_eq_ok hrenamed
    cases hwritten.symm.trans hold
    have hnil : p ≠ [] := fun hnil => hp (hnil ▸ get?_nil)
    have herased : (t₂.erase q).get? p ≠ some .directory := by
      rw [get?_erase hnil]
      split_ifs
      · nofun
      · exact hp
    refine ⟨p, hplace, by rw [get?_put hnil, if_pos rfl], ?_⟩
    exact (keeps_erase (not_directory_of_findFile hold)).trans (keeps_put herased)
  · cases he

end Tree

end MeshControl.Files
