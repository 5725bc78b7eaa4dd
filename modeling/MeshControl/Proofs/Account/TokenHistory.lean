import MeshControl.Proofs.Account.TokenFile
import MeshControl.Proofs.Dialogue.Begins
import MeshControl.Proofs.Files.Faults

/-!
# The kept token through failures

Tokens are saved, read and cleared in any order.  A save may fail at any of its steps, or the program
may be stopped there.  The file holds at every moment the last token that was put under its name and
not cleared since, as a whole and for its owner alone, or there is no file (`token_survives`).

* `Deed`, `kept`: what was done with the token, and which token is kept then.
* `History`: the trees that deeds lead to, whatever comes of their steps.
* `Site`: a place at which a token can be kept.
* `Stage`: what a tree holds at that place, along a history.
* `Stage.save`: what a save makes of it, however far it gets.
-/

namespace MeshControl.Account.TokenFile

open MeshControl.Files MeshControl.Text Dialogue

/-! ### How far a save gets -/

/-- What was asked of files, with the answers. -/
abbrev Log := List (Exchange Files.Call Files.Call.Answer)

/-- Whether a file was put under a name. -/
def isRenamed (path : String) : Exchange Files.Call Files.Call.Answer → Bool
  | ⟨.rename _ new, .ok ()⟩ => new = path
  | _ => false

/-- What is asked about a temporary file as long as it is not put under its name. -/
def IsAside (temporary path : String) (x : Exchange Files.Call Files.Call.Answer) : Prop :=
  Tree.IsOn temporary x.question ∨ ∃ e, x = ⟨.rename temporary path, .error e⟩

/-- How far a save gets. -/
inductive Saving (path token : String) : Log → Prop
  | start : Saving path token []
  | making (answer : Except Files.Error Unit) :
    Saving path token [⟨.makeDirectories (parent path), answer⟩]
  | naming (answer : Except Files.Error String) :
    Saving path token [⟨.makeDirectories (parent path), .ok ()⟩,
      ⟨.makeTemporary (parent path), answer⟩]
  | filling (temporary : String) {log : Log} (aside : ∀ x ∈ log, IsAside temporary path x) :
    Saving path token (⟨.makeDirectories (parent path), .ok ()⟩ ::
      ⟨.makeTemporary (parent path), .ok temporary⟩ :: log)
  | filled (temporary : String) :
    Saving path token [⟨.makeDirectories (parent path), .ok ()⟩,
      ⟨.makeTemporary (parent path), .ok temporary⟩, ⟨.protect temporary, .ok ()⟩,
      ⟨.write temporary token, .ok ()⟩, ⟨.sync temporary, .ok ()⟩,
      ⟨.rename temporary path, .ok ()⟩]

variable {path token temporary : String} {log : Log}

theorem not_isRenamed_of_isAside {x : Exchange Files.Call Files.Call.Answer}
    (h : IsAside temporary path x) : isRenamed path x = false := by
  obtain ⟨call, answer⟩ := x
  rcases h with hon | ⟨e, heq⟩
  · cases hon <;> rfl
  · cases heq
    rfl

theorem any_isRenamed_of_isAside (h : ∀ x ∈ log, IsAside temporary path x) :
    log.any (isRenamed path) = false := by
  rw [List.any_eq_false]
  exact fun x hx => Bool.eq_false_iff.mp (not_isRenamed_of_isAside (h x hx))

/-- A file that was not filled is removed. -/
theorem isAside_of_removing {e : Files.Error}
    (h : ((Dialogue.query (Call.remove temporary) : Files.Asking (Except Files.Error Unit)).bind
      fun _ => (done (.error e) : Files.Asking (Except Files.Error Unit))).Begins log) :
    ∀ x ∈ log, IsAside temporary path x := by
  cases h with
  | stop => exact nofun
  | ask answer rest =>
    cases rest
    exact List.forall_mem_singleton.mpr (.inl .remove)

/-- A file is filled and put under its name, or it stays aside. -/
theorem filling_of_begins (h : (fillOrRemove temporary path token).Begins log) :
    (∀ x ∈ log, IsAside temporary path x) ∨
      log = [⟨.protect temporary, .ok ()⟩, ⟨.write temporary token, .ok ()⟩,
        ⟨.sync temporary, .ok ()⟩, ⟨.rename temporary path, .ok ()⟩] := by
  have hcons {call : Files.Call} {answer : call.Answer} {rest : Log}
      (hon : Tree.IsOn temporary call) (hrest : ∀ x ∈ rest, IsAside temporary path x) :
      ∀ x ∈ (⟨call, answer⟩ :: rest : Log), IsAside temporary path x :=
    List.forall_mem_cons.mpr ⟨.inl hon, hrest⟩
  -- at each step the save stops, or the step fails and the file is removed, or it goes on
  obtain _ | ⟨_ | _, rest⟩ := h
  · exact .inl nofun
  · exact .inl (hcons .protect (isAside_of_removing rest))
  obtain _ | ⟨_ | _, rest⟩ := rest
  · exact .inl (hcons .protect nofun)
  · exact .inl (hcons .protect (hcons (.write token) (isAside_of_removing rest)))
  obtain _ | ⟨_ | _, rest⟩ := rest
  · exact .inl (hcons .protect (hcons (.write token) nofun))
  · exact .inl (hcons .protect (hcons (.write token) (hcons .sync (isAside_of_removing rest))))
  obtain _ | ⟨e | _, rest⟩ := rest
  · exact .inl (hcons .protect (hcons (.write token) (hcons .sync nofun)))
  · have hlast : ∀ x ∈ (⟨.rename temporary path, .error e⟩ :: _ : Log), IsAside temporary path x :=
      List.forall_mem_cons.mpr ⟨.inr ⟨e, rfl⟩, isAside_of_removing rest⟩
    exact .inl (hcons .protect (hcons (.write token) (hcons .sync hlast)))
  · cases rest
    exact .inr rfl

/-- **How far a save gets.** -/
theorem saving_of_begins (h : (save path token).Begins log) : Saving path token log := by
  obtain _ | ⟨_ | _, rest⟩ := h
  · exact .start
  · cases rest
    exact .making _
  obtain _ | ⟨_ | temporary, rest⟩ := rest
  · exact .making _
  · cases rest
    exact .naming _
  have hfill := (begins_bind_done_iff (d := fillOrRemove temporary path token)).mp rest
  obtain haside | rfl := filling_of_begins hfill
  · exact .filling temporary haside
  · exact .filled temporary

/-- A file that could not be filled is not put under its name. -/
theorem any_isRenamed_of_removing (path : String) {e : Files.Error}
    {result : Except Files.Error Unit}
    (h : ((Dialogue.query (Call.remove temporary) : Files.Asking (Except Files.Error Unit)).bind
      fun _ => (done (.error e) : Files.Asking (Except Files.Error Unit))).Branch log result) :
    log.any (isRenamed path) = result.isOk := by
  obtain _ | ⟨_, rest⟩ := h
  cases rest
  rfl

theorem any_isRenamed_of_fillOrRemove {result : Except Files.Error Unit}
    (h : (fillOrRemove temporary path token).Branch log result) :
    log.any (isRenamed path) = result.isOk := by
  -- none of the steps before the last one puts a file under a name
  obtain _ | ⟨_ | _, rest⟩ := h
  · exact (any_isRenamed_of_removing path rest :)
  obtain _ | ⟨_ | _, rest⟩ := rest
  · exact (any_isRenamed_of_removing path rest :)
  obtain _ | ⟨_ | _, rest⟩ := rest
  · exact (any_isRenamed_of_removing path rest :)
  obtain _ | ⟨_ | _, rest⟩ := rest
  · exact (any_isRenamed_of_removing path rest :)
  · cases rest
    simp [isRenamed, Except.isOk, Except.toBool]

/-- **A save succeeds exactly if its file was put under the name.** -/
theorem any_isRenamed_of_save {result : Except TokenError Unit}
    (h : (save path token).Branch log result) : log.any (isRenamed path) = result.isOk := by
  obtain ⟨first, saved, rest, hsteps, hdone, rfl⟩ := branch_bind_iff.mp h
  obtain ⟨rfl, rfl⟩ := branch_done_iff.mp hdone
  rw [List.append_nil]
  have hmapped : (saved.mapError (TokenError.unwritable path)).isOk = saved.isOk := by
    cases saved <;> rfl
  rw [hmapped]
  obtain ⟨e, hmake, rfl⟩ | ⟨made, _, rest, hmake, hrest, rfl⟩ := branch_run_bind_iff.mp hsteps
  · obtain rfl := branch_query_iff.mp hmake
    rfl
  obtain rfl := branch_query_iff.mp hmake
  obtain ⟨e, hname, rfl⟩ | ⟨named, temporary, filling, hname, hfill, rfl⟩ :=
    branch_run_bind_iff.mp hrest
  · obtain rfl := branch_query_iff.mp hname
    rfl
  · obtain rfl := branch_query_iff.mp hname
    have hfilled : filling.any (isRenamed path) = saved.isOk := any_isRenamed_of_fillOrRemove hfill
    exact hfilled

/-! ### What is kept -/

/-- Something done with the kept token. -/
inductive Deed
  /-- A token was saved, or that was begun: with what was asked and answered. -/
  | save (token : String) (log : Log)
  | load
  | clear

/-- The token that is kept behind a deed. -/
def Deed.keep (path : String) (kept? : Option String) : Deed → Option String
  | save token log => if log.any (isRenamed path) then some token else kept?
  | load => kept?
  | clear => none

/-- The token that is kept behind deeds: the last one that was put under its name, unless it was
cleared since. -/
def kept? (path : String) (deeds : List Deed) : Option String :=
  deeds.foldl (Deed.keep path) none

theorem kept?_concat (deeds : List Deed) (deed : Deed) :
    kept? path (deeds ++ [deed]) = deed.keep path (kept? path deeds) := by
  rw [kept?, List.foldl_append]
  rfl

/-- The trees that deeds lead to.  Saves may fail or be stopped at any step. -/
inductive History (path : String) (t : Tree) : List Deed → Tree → Prop
  | start : History path t [] t
  | save {deeds : List Deed} {u v : Tree} {token : String} {log : Log}
      (before : History path t deeds u) (begins : (save path token).Begins log)
      (steps : Tree.Steps u log v) : History path t (deeds ++ [.save token log]) v
  | load {deeds : List Deed} {u : Tree} (before : History path t deeds u) :
      History path t (deeds ++ [.load]) ((load path).run Tree.answer u).2
  | clear {deeds : List Deed} {u : Tree} (before : History path t deeds u) :
      History path t (deeds ++ [.clear]) ((clear path).run Tree.answer u).2

/-! ### What the tree holds -/

/-- A place at which a token can be kept: once the directories above it are made, which gives `t'`, the
path comes there, nothing stands there yet, and its name is not one of a temporary file. -/
structure Site (t : Tree) (path : String) (t' : Tree) (p : Place) : Prop where
  made : t.answer (.makeDirectories (parent path)) = (.ok (), t')
  comes : t'.ComesTo path p
  free : t'.get? p = none
  own : ¬Tree.IsTemporary p

/-- The file of a token. -/
def tokenEntry (token : String) : Entry :=
  .file (Utf8.encode token) Tree.ownerMode

/-- What a tree holds at the place of the token. -/
inductive Stage (t : Tree) (path : String) (t' : Tree) (p : Place) (u : Tree) :
    Option String → Prop
  /-- Directories may be missing, and nothing is kept. -/
  | bare (keeps : Tree.Keeps t u) (partly : Tree.Partly t' u) (free : u.get? p = none) :
    Stage t path t' p u none
  /-- All directories are made; if something is kept, the path leads there. -/
  | built {kept? : Option String} (keeps : Tree.Keeps t' u)
    (entry : u.get? p = kept?.map tokenEntry) (leads : kept?.isSome → t'.place path = .ok p) :
    Stage t path t' p u kept?

section Stage

variable {t t' u v : Tree} {p : Place} {held? : Option String}

theorem Site.makeDirectories_eq (h : Site t path t' p) :
    t.makeDirectories false (t.start (parent path)) (parts (parent path)) = (.ok (), t') :=
  Tree.makeDirectories_of_answer h.made

theorem Site.keeps (h : Site t path t' p) : Tree.Keeps t t' := by
  have hkeeps : Tree.Keeps t (t.makeDirectories false (t.start (parent path))
      (parts (parent path))).2 := Tree.keeps_makeDirectories
  rwa [h.makeDirectories_eq] at hkeeps

theorem Site.ne_nil (h : Site t path t' p) : p ≠ [] := by
  rintro rfl
  cases h.free

/-- At the beginning nothing is kept. -/
theorem Site.stage (h : Site t path t' p) : Stage t path t' p t none := by
  -- all that is there now and was not there before are directories
  have hgrown (x : Place) : t'.get? x = t.get? x ∨ t.get? x = none := by
    have hsame := Tree.get?_makeDirectories h.makeDirectories_eq t false
      (parts (parent path)).length x
    rw [List.take_length, h.makeDirectories_eq] at hsame
    exact hsame.imp_right And.left
  refine .bare (.refl t) ⟨h.keeps.here_eq.symm, fun x hx => ?_⟩ ?_
  · exact (hgrown x).imp_left fun heq => heq.symm.trans hx
  · exact (hgrown p).elim (fun heq => heq.symm.trans h.free) id

theorem Stage.keeps (site : Site t path t' p) (h : Stage t path t' p u held?) : Tree.Keeps t u := by
  cases h with
  | bare keeps => exact keeps
  | built keeps => exact site.keeps.trans keeps

theorem Stage.entry_eq (h : Stage t path t' p u held?) : u.get? p = held?.map tokenEntry := by
  cases h with
  | bare keeps partly free => exact free
  | built keeps entry => exact entry

theorem Stage.not_directory (h : Stage t path t' p u held?) : u.get? p ≠ some .directory := by
  rw [h.entry_eq]
  cases held? <;> nofun

theorem Stage.leads (h : Stage t path t' p u held?) (hsome : held?.isSome) :
    t'.place path = .ok p := by
  cases h with
  | bare => cases hsome
  | built keeps entry leads => exact leads hsome

/-- What is found under the name of the token. -/
theorem Stage.findFile (site : Site t path t' p) (h : Stage t path t' p u held?) :
    u.findFile path = held?.elim (.error .notFound)
      fun token => .ok (p, Utf8.encode token, Tree.ownerMode) := by
  cases h with
  | bare keeps partly free => exact partly.findFile_of_free site.comes free
  | built keeps entry leads =>
    cases held? with
    | none => exact site.comes.findFile_of_free keeps entry
    | some token => exact Tree.findFile_eq_ok_iff.mpr ⟨keeps.place (leads rfl), entry⟩

/-- What is read is the token that is kept. -/
theorem Stage.run_load (site : Site t path t' p) (h : Stage t path t' p u held?) :
    (load path).run Tree.answer u = (.ok (held?.bind tokenOf?), u) := by
  have hfind := h.findFile site
  cases held? with
  | none =>
    rw [TokenFile.run_load, hfind]
    rfl
  | some token => rw [run_load_of_findFile hfind, Option.bind_some]

/-- Clearing removes the file, if there is one. -/
theorem run_clear : (clear path).run Tree.answer u =
    match u.findFile path with
    | .ok (q, _, _) => (.ok (), u.erase q)
    | .error .notFound => (.ok (), u)
    | .error cause => (.error (.unwritable path cause), u) := by
  rw [clear]
  simp only [bind_eq, run_bind, run_query, Tree.answer]
  cases u.findFile path with
  | ok found => rfl
  | error cause => cases cause <;> rfl

/-- What was cleared is not there. -/
theorem findFile_erase {contents : List UInt8} {mode : Nat}
    (h : u.findFile path = .ok (p, contents, mode)) :
    (u.erase p).findFile path = .error .notFound := by
  have hp := Tree.not_directory_of_findFile h
  have hnil : p ≠ [] := fun hnil => hp (hnil ▸ Tree.get?_nil)
  have hplace := (Tree.keeps_erase hp).place (Tree.findFile_eq_ok_iff.mp h).1
  exact Tree.findFile_of_free hplace (by rw [Tree.get?_erase hnil, if_pos rfl])

/-- **Clearing twice is clearing once**, whatever stands under the name. -/
theorem run_clear_again (path : String) (u : Tree) :
    (clear path).run Tree.answer ((clear path).run Tree.answer u).2 =
      (clear path).run Tree.answer u := by
  cases hfind : u.findFile path with
  | ok found =>
    -- the file is gone, and the second time there is none
    have hfirst : (clear path).run Tree.answer u = (.ok (), u.erase found.1) := by
      rw [run_clear, hfind]
    rw [hfirst, run_clear, findFile_erase hfind]
  | error cause =>
    have hfirst : ((clear path).run Tree.answer u).2 = u := by
      rw [run_clear, hfind]
      cases cause <;> rfl
    rw [hfirst]

theorem Stage.run_clear (site : Site t path t' p) (h : Stage t path t' p u held?) :
    ((clear path).run Tree.answer u).1 = .ok () ∧
      Stage t path t' p ((clear path).run Tree.answer u).2 none := by
  have hfile := h.not_directory
  rw [TokenFile.run_clear, h.findFile site]
  cases h with
  | bare keeps partly free => exact ⟨rfl, .bare keeps partly free⟩
  | @built held? keeps entry leads =>
    cases held? with
    | none => exact ⟨rfl, .built keeps entry nofun⟩
    | some token =>
      have herased : (u.erase p).get? p = none := by rw [Tree.get?_erase site.ne_nil, if_pos rfl]
      exact ⟨rfl, .built (keeps.trans (Tree.keeps_erase hfile)) herased nofun⟩

/-! ### What a save makes of it -/

/-- However many directories are made, what is kept stays; if all were made, the tree is built. -/
theorem Stage.makeDirectories (site : Site t path t' p) (h : Stage t path t' p u held?)
    {answer : Except Files.Error Unit}
    (step : Tree.Faulty u (.makeDirectories (parent path)) answer v) :
    Stage t path t' p v held? ∧ (answer = .ok () → Tree.Keeps t' v) := by
  -- the first `n` directories were made
  obtain ⟨⟨n, rfl⟩, hok⟩ := step.makeDirectories
  have hkeeps := h.keeps site
  rw [hkeeps.start_eq] at hok ⊢
  have hgrown := Tree.get?_makeDirectories site.makeDirectories_eq u false n
  have hstep : Tree.Keeps u (u.makeDirectories false (t.start (parent path))
      ((parts (parent path)).take n)).2 := Tree.keeps_makeDirectories
  generalize (u.makeDirectories false (t.start (parent path)) ((parts (parent path)).take n)).2 = v
    at hok hgrown hstep ⊢
  -- where nothing stands when all directories are made, none is made
  have hplace : v.get? p = u.get? p := by
    obtain heq | ⟨-, -, hthere⟩ := hgrown p
    · exact heq
    · cases site.free.symm.trans hthere
  refine ⟨?_, fun heq => ?_⟩
  · cases h with
    | bare keeps partly free =>
      refine .bare (keeps.trans hstep) ⟨hstep.here_eq.trans partly.here_eq, fun x hx => ?_⟩
        (hplace.trans free)
      obtain heq | ⟨-, hthere, -⟩ := hgrown x
      · rw [heq]
        exact partly.directory x hx
      · exact .inl hthere
    | built keeps entry leads => exact .built (keeps.trans hstep) (hplace.trans entry) leads
  · have hmade := Tree.makeDirectories_of_answer (hok heq)
    rw [hkeeps.start_eq] at hmade
    exact Tree.Keeps.of_makeDirectories site.makeDirectories_eq hkeeps hmade

/-- The name of a temporary file does not lead to the place of the token. -/
theorem Site.ne_of_place (site : Site t path t' p) {directory : String}
    (h : ∃ name, Tree.IsTemporaryName name ∧ temporary = join directory name) (u : Tree) (q : Place)
    (hq : u.place temporary = .ok q) : q ≠ p := by
  obtain ⟨name, hname, rfl⟩ := h
  rintro rfl
  exact site.own (Tree.isTemporary_of_place_join hname hq)

/-- What is asked about a temporary file leaves the place of the token alone. -/
theorem beside_of_steps {log : Log} (hp : p ≠ [])
    (hother : ∀ (u : Tree) (q : Place), u.place temporary = .ok q → q ≠ p)
    (aside : ∀ x ∈ log, IsAside temporary path x) (steps : Tree.Steps u log v) :
    Tree.Beside p u v := by
  induction steps with
  | nil u => exact .refl p u
  | cons head _ ih =>
    obtain ⟨hfirst, hrest⟩ := List.forall_mem_cons.mp aside
    refine .trans ?_ (ih hrest)
    rcases hfirst with hon | ⟨e, heq⟩
    · exact head.beside_of_isOn hon hp (hother _)
    · cases heq
      obtain ⟨hdone, -⟩ | ⟨-, rfl⟩ := head.rename
      · cases hdone
      · exact .refl p _

/-- A place is left alone, and nothing else is lost. -/
theorem Stage.beside (h : Stage t path t' p u held?) (hbuilt : Tree.Keeps t' u)
    (hbeside : Tree.Beside p u v) : Stage t path t' p v held? :=
  .built (hbuilt.trans hbeside.keeps) (hbeside.get?_eq.trans h.entry_eq) h.leads

/-- **What is kept behind a save**, however far it got and whatever came of its steps: the token, if
its file was put under the name, and otherwise what was kept before. -/
theorem Stage.save (site : Site t path t' p) (h : Stage t path t' p u held?) {log : Log}
    (begins : (save path token).Begins log) (steps : Tree.Steps u log v) :
    Stage t path t' p v ((Deed.save token log).keep path held?) := by
  cases saving_of_begins begins with
  | start =>
    cases steps
    exact h
  | making answer =>
    obtain _ | ⟨hmake, _ | _⟩ := steps
    exact (h.makeDirectories site hmake).1
  | naming answer =>
    obtain _ | ⟨hmake, _ | ⟨hname, _ | _⟩⟩ := steps
    obtain ⟨hmade, hbuilt⟩ := h.makeDirectories site hmake
    exact hmade.beside (hbuilt rfl) (hname.makeTemporary site.ne_nil site.own).1
  | filling temporary aside =>
    obtain _ | ⟨hmake, _ | ⟨hname, hfill⟩⟩ := steps
    obtain ⟨hmade, hbuilt⟩ := h.makeDirectories site hmake
    obtain ⟨hnamed, hjoin⟩ := hname.makeTemporary site.ne_nil site.own
    -- the temporary file is elsewhere, so it does not matter how far it was filled
    have hfilled := beside_of_steps site.ne_nil (site.ne_of_place (hjoin temporary rfl)) aside hfill
    have hkept := hmade.beside (hbuilt rfl) (hnamed.trans hfilled)
    have hnone := any_isRenamed_of_isAside aside
    simpa [Deed.keep, isRenamed, hnone] using hkept
  | filled temporary =>
    obtain _ | ⟨hmake, _ | ⟨hname, _ | ⟨hprotect, steps⟩⟩⟩ := steps
    obtain _ | ⟨hwrite, _ | ⟨hsync, _ | ⟨hrename, _ | _⟩⟩⟩ := steps
    obtain ⟨hmade, hbuilt⟩ := h.makeDirectories site hmake
    obtain ⟨hnamed, hjoin⟩ := hname.makeTemporary site.ne_nil site.own
    have hother := site.ne_of_place (hjoin temporary rfl)
    have hprotected := hprotect.beside_of_isOn .protect site.ne_nil (hother _)
    have hwritten := hwrite.beside_of_isOn (.write token) site.ne_nil (hother _)
    have hsynced := hsync.beside_of_isOn .sync site.ne_nil (hother _)
    have hbeside := hnamed.trans (hprotected.trans (hwritten.trans hsynced))
    have hkeeps := (hbuilt rfl).trans hbeside.keeps
    obtain ⟨q, hplace, hentry, hlast⟩ := Tree.get?_of_filled hprotect hwrite hsync hrename
    -- no directory stands at the place of the token, so the path leads nowhere else
    have hfile := hmade.not_directory
    rw [← hbeside.get?_eq] at hfile
    have hleads := site.comes.place_eq hkeeps hfile hplace
    cases hplace.symm.trans (hkeeps.place hleads)
    have hkept : Stage t path t' p v (some token) :=
      .built (hkeeps.trans hlast) hentry fun _ => hleads
    simpa [Deed.keep, isRenamed] using hkept

/-- **What is kept along a history**, by induction on the deeds. -/
theorem History.stage (site : Site t path t' p) {deeds : List Deed} (h : History path t deeds u) :
    Stage t path t' p u (kept? path deeds) := by
  induction h with
  | start => exact site.stage
  | save before begins steps ih =>
    rw [kept?_concat]
    exact ih.save site begins steps
  | load before ih =>
    rw [kept?_concat, ih.run_load site]
    exact ih
  | clear before ih =>
    rw [kept?_concat]
    exact (ih.run_clear site).2

end Stage

/-- A save that does not put its file under the name is as good as none. -/
theorem kept?_of_not_renamed (before after : List Deed)
    (h : log.any (isRenamed path) = false) :
    kept? path (before ++ .save token log :: after) = kept? path (before ++ after) := by
  rw [kept?, kept?, List.foldl_append, List.foldl_append, List.foldl_cons, Deed.keep, h]
  rfl

/-- **A kept token survives failures.**  Along every history of saves, reads and clears, in which each
save may fail or be stopped at any step, what is read is the text of the last token that was put under
the name and not cleared since, and the file under the name holds this token as a whole, for its owner
alone; if there is no such token, there is no file.  A save that fails changes nothing about this, one
that succeeds has put its token there, and clearing twice is clearing once. -/
theorem token_survives {t t' : Tree} {path : String} {p : Place} (site : Site t path t' p) :
    (∀ (deeds : List Deed) (u : Tree), History path t deeds u →
      (load path).run Tree.answer u = (.ok ((kept? path deeds).bind tokenOf?), u) ∧
      u.findFile path = (kept? path deeds).elim (.error .notFound)
        fun token => .ok (p, Utf8.encode token, 0o600)) ∧
    (∀ (before after : List Deed) (token : String) (log : Log) (e : TokenError),
      (save path token).Branch log (.error e) →
      kept? path (before ++ .save token log :: after) = kept? path (before ++ after)) ∧
    (∀ (before : List Deed) (token : String) (log : Log), (save path token).Branch log (.ok ()) →
      kept? path (before ++ [.save token log]) = some token) ∧
    ∀ u : Tree, (clear path).run Tree.answer ((clear path).run Tree.answer u).2 =
      (clear path).run Tree.answer u := by
  refine ⟨fun deeds u h => ?_, fun before after token log e h => ?_, fun before token log h => ?_,
    run_clear_again path⟩
  · have hstage := h.stage site
    exact ⟨hstage.run_load site, hstage.findFile site⟩
  · exact kept?_of_not_renamed before after (any_isRenamed_of_save h)
  · rw [kept?_concat, Deed.keep, any_isRenamed_of_save h]
    rfl

/-- A token can be kept in a directory below the root that is not there yet. -/
theorem site_sample :
    Site {} "/c/t" ⟨[(["c"], .directory)], []⟩ ["c", "t"] where
  made := by with_unfolding_all rfl
  comes := ⟨rfl, ["", "c", "t"], [], by with_unfolding_all rfl, by with_unfolding_all rfl⟩
  free := rfl
  own := by
    rintro ⟨front, name, hname, heq⟩
    have hlast : (["c", "t"] : Place).getLast? = some name := by simp [heq]
    cases hlast
    cases hname.start

/-- A token is saved in a directory that is made for it, and the next one cannot be. -/
theorem token_survives_denial :
    let saved := (save "/c/t" " one ").runLogged Tree.answer {}
    let denied : Log := [⟨.makeDirectories "/c", .error .notPermitted⟩]
    History "/c/t" {} [.save " one " saved.2.2, .save "two" denied] saved.2.1 ∧
      (load "/c/t").run Tree.answer saved.2.1 = (.ok (some "one"), saved.2.1) := by
  intro saved denied
  have hsaved : History "/c/t" {} [.save " one " saved.2.2] saved.2.1 :=
    .save .start (branch_runLogged _ _ _).begins (Tree.steps_runLogged _ _)
  have hdenied : (save "/c/t" "two").Begins denied := by
    have hparent : "/c" = parent "/c/t" := by decide +kernel
    rw [show denied = [⟨.makeDirectories "/c", .error .notPermitted⟩] from rfl, hparent]
    exact .ask _ (.stop _)
  have hhistory : History "/c/t" {} [.save " one " saved.2.2, .save "two" denied] saved.2.1 :=
    hsaved.save hdenied (.cons (.idle _ _) (.nil _))
  have hkept : (kept? "/c/t" [.save " one " saved.2.2, .save "two" denied]).bind tokenOf? =
      some "one" := by decide +kernel
  have hloaded := ((token_survives site_sample).1 _ _ hhistory).1
  rw [hkept] at hloaded
  exact ⟨hhistory, hloaded⟩

/-- A directory in the place of the file is not read as an absent token. -/
theorem directory_is_unreadable :
    let t : Tree := ⟨[(["t"], .directory)], []⟩
    History "/t" t [] t ∧ kept? "/t" [] = none ∧
      (load "/t").run Tree.answer t = (.error (.unreadable "/t" .isDirectory), t) := by
  intro t
  have hfind : t.findFile "/t" = .error .isDirectory := by with_unfolding_all rfl
  exact ⟨.start, rfl, by rw [run_load, hfind]; rfl⟩

end MeshControl.Account.TokenFile
