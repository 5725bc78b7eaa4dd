import MeshControl.Proofs.Dialogue.Budget

/-!
# Deeds that need a permission

A permission is a property of logs that lasts whatever else happens before and after (`Lasting`).
`Behind granted deed log` says that every deed of a log stands behind the permission.  A dialogue that
keeps to this on every branch minds the permission (`Minds`), and one that besides never succeeds
without it is guarded (`Guarded`): without the permission a guarded dialogue fails and has done
nothing (`Guarded.kept`).

Minding is kept where dialogues follow each other, and once the permission is there anything may
follow (`Minds.bind`).
-/

namespace MeshControl.Dialogue

variable {Q P : Type} {A : Q → Type} {B : P → Type} {α β ε ε' : Type}

/-! ### Logs -/

/-- A property of logs that lasts whatever else happens before and after. -/
structure Lasting (granted : List (Exchange Q A) → Prop) : Prop where
  prepend : ∀ {before log}, granted log → granted (before ++ log)
  append : ∀ {log after}, granted log → granted (log ++ after)

/-- Every deed of a log stands behind a permission. -/
def Behind (granted : List (Exchange Q A) → Prop) (deed : Exchange Q A → Prop)
    (log : List (Exchange Q A)) : Prop :=
  ∀ before x after, log = before ++ x :: after → deed x → granted before

/-- What a permission keeps from happening: every deed of a log stands behind the permission, and
without it there is a failure and no deed. -/
structure Kept (granted : List (Exchange Q A) → Prop) (deed : Exchange Q A → Prop) (failed : Prop)
    (log : List (Exchange Q A)) : Prop where
  behind : Behind granted deed log
  without : ¬granted log → failed ∧ ∀ x ∈ log, ¬deed x

variable {granted : List (Exchange Q A) → Prop} {deed : Exchange Q A → Prop}

theorem lasting_false : Lasting fun _ : List (Exchange Q A) => False :=
  ⟨False.elim, False.elim⟩

theorem Lasting.or {other : List (Exchange Q A) → Prop} (hg : Lasting granted)
    (ho : Lasting other) : Lasting fun log => granted log ∨ other log :=
  ⟨Or.imp hg.prepend ho.prepend, Or.imp hg.append ho.append⟩

theorem behind_of_idle {log : List (Exchange Q A)} (h : ∀ x ∈ log, ¬deed x) :
    Behind granted deed log := by
  rintro before x after rfl hx
  exact absurd hx (h x (List.mem_append_right before List.mem_cons_self))

/-- Behind the permission anything may follow. -/
theorem Behind.append (hg : Lasting granted) {first rest : List (Exchange Q A)}
    (hfirst : Behind granted deed first) (hrest : granted first ∨ Behind granted deed rest) :
    Behind granted deed (first ++ rest) := by
  -- where a deed of the second part stands, with all of the first part before it
  have hsecond : ∀ more x after, rest = more ++ x :: after → deed x → granted (first ++ more) := by
    intro more x after hmore hx
    rcases hrest with hgranted | hrest
    · exact hg.append hgranted
    · exact hg.prepend (hrest more x after hmore hx)
  intro before x after hlog hx
  obtain ⟨more, rfl, hmore⟩ | ⟨more, rfl, hmore⟩ := List.append_eq_append_iff.mp hlog
  · exact hsecond more x after hmore hx
  · obtain ⟨rfl, rfl⟩ | ⟨others, rfl, rfl⟩ := List.cons_eq_append_iff.mp hmore
    · have hnext := hsecond [] x after rfl hx
      rwa [List.append_nil, List.append_nil] at hnext
    · exact hfirst before x others rfl hx

/-- Without the permission there is no deed. -/
theorem Behind.idle (hg : Lasting granted) {log : List (Exchange Q A)}
    (h : Behind granted deed log) (hnot : ¬granted log) : ∀ x ∈ log, ¬deed x := by
  intro x hx hdeed
  obtain ⟨before, after, rfl⟩ := List.append_of_mem hx
  exact hnot (hg.append (h before x after rfl hdeed))

/-- What is kept from happening in a log is kept from happening if nothing is done around it. -/
theorem Kept.widen (hg : Lasting granted) {failed failed' : Prop}
    {before log after : List (Exchange Q A)} (h : Kept granted deed failed log)
    (hbefore : ∀ x ∈ before, ¬deed x) (hafter : ∀ x ∈ after, ¬deed x) (hfailed : failed → failed') :
    Kept granted deed failed' (before ++ log ++ after) := by
  have hfirst : Behind granted deed (before ++ log) :=
    (behind_of_idle hbefore).append hg (.inr h.behind)
  have hall : Behind granted deed (before ++ log ++ after) :=
    hfirst.append hg (.inr (behind_of_idle hafter))
  refine ⟨hall, fun hnot => ⟨?_, hall.idle hg hnot⟩⟩
  exact hfailed (h.without fun hgranted => hnot (hg.append (hg.prepend hgranted))).1

/-! ### Dialogues -/

/-- A dialogue whose deeds stand behind a permission, whatever is answered. -/
def Minds (granted : List (Exchange Q A) → Prop) (deed : Exchange Q A → Prop)
    (d : Dialogue Q A α) : Prop :=
  ∀ log value, d.Branch log value → Behind granted deed log

/-- Who minds a permission minds a weaker one. -/
theorem Minds.mono {other : List (Exchange Q A) → Prop} {d : Dialogue Q A α}
    (h : Minds granted deed d) (hle : ∀ log, granted log → other log) : Minds other deed d :=
  fun log value hlog before x after heq hx => hle _ (h log value hlog before x after heq hx)

theorem minds_done (value : α) : Minds granted deed (done value) := by
  intro log result h
  obtain ⟨rfl, rfl⟩ := branch_done_iff.mp h
  exact behind_of_idle fun _ hx => absurd hx List.not_mem_nil

/-- A question that is no deed needs no permission. -/
theorem minds_query {question : Q} (h : ∀ answer, ¬deed ⟨question, answer⟩) :
    Minds granted deed (query question) := by
  intro log answer hquery
  obtain rfl := branch_query_iff.mp hquery
  refine behind_of_idle fun x hx => ?_
  obtain rfl := List.mem_singleton.mp hx
  exact h answer

theorem Minds.bind (hg : Lasting granted) {d : Dialogue Q A α} {f : α → Dialogue Q A β}
    (hd : Minds granted deed d)
    (hf : ∀ log value, d.Branch log value → granted log ∨ Minds granted deed (f value)) :
    Minds granted deed (d.bind f) := by
  intro log result h
  obtain ⟨first, value, rest, hfirst, hrest, rfl⟩ := branch_bind_iff.mp h
  refine (hd _ _ hfirst).append hg ?_
  exact (hf first value hfirst).imp_right fun hvalue => hvalue _ _ hrest

theorem Minds.bind_all (hg : Lasting granted) {d : Dialogue Q A α} {f : α → Dialogue Q A β}
    (hd : Minds granted deed d) (hf : ∀ value, Minds granted deed (f value)) :
    Minds granted deed (d.bind f) :=
  hd.bind hg fun _ value _ => .inr (hf value)

theorem Minds.run_bind (hg : Lasting granted) {x : ExceptT ε (Dialogue Q A) α}
    {f : α → ExceptT ε (Dialogue Q A) β} (hx : Minds granted deed x.run)
    (hf : ∀ value, Minds granted deed (f value).run) : Minds granted deed (x >>= f).run := by
  rw [ExceptT.run_bind, bind_eq]
  refine hx.bind_all hg ?_
  rintro (e | value)
  · exact minds_done _
  · exact hf value

theorem Minds.run_liftM (hg : Lasting granted) {d : Dialogue Q A α} (hd : Minds granted deed d) :
    Minds granted deed (liftM d : ExceptT ε (Dialogue Q A) α).run :=
  hd.bind_all hg fun _ => minds_done _

/-- What would need a permission that nobody has is not done. -/
theorem Minds.atMost {p : Exchange Q A → Bool} {d : Dialogue Q A α}
    (h : Minds (fun _ => False) (fun x => p x = true) d) : AtMost p 0 d := by
  intro log value hlog
  exact Nat.le_of_eq (List.countP_eq_zero.mpr ((h log value hlog).idle lasting_false id))

/-- A dialogue minds a permission if the dialogues in place of its questions do. -/
theorem minds_answerWith (hg : Lasting granted) {handler : (q : P) → Dialogue Q A (B q)}
    (hhandler : ∀ q, Minds granted deed (handler q)) (d : Dialogue P B α) :
    Minds granted deed (d.answerWith handler) := by
  induction d with
  | done value => exact minds_done value
  | ask question next ih => exact (hhandler question).bind_all hg ih

/-- A dialogue that minds a permission and never succeeds without it. -/
structure Guarded (granted : List (Exchange Q A) → Prop) (deed : Exchange Q A → Prop)
    (d : Dialogue Q A (Except ε α)) : Prop where
  minds : Minds granted deed d
  granted_of_ok : ∀ log value, d.Branch log (.ok value) → granted log

/-- What guards a kind of deed guards a part of it. -/
theorem Guarded.restrict {d : Dialogue Q A (Except ε α)} (h : Guarded granted deed d)
    {some : Exchange Q A → Prop} (hle : ∀ x, some x → deed x) : Guarded granted some d :=
  ⟨fun log value hlog before x after heq hx => h.minds log value hlog before x after heq (hle x hx),
    h.granted_of_ok⟩

/-- **Without the permission a guarded dialogue fails and has done nothing.** -/
theorem Guarded.kept (hg : Lasting granted) {d : Dialogue Q A (Except ε α)}
    (h : Guarded granted deed d) {log : List (Exchange Q A)} {result : Except ε α}
    (hlog : d.Branch log result) : Kept granted deed (∃ e, result = .error e) log := by
  refine ⟨h.minds _ _ hlog, fun hnot => ⟨?_, (h.minds _ _ hlog).idle hg hnot⟩⟩
  rcases result with e | value
  · exact ⟨e, rfl⟩
  · exact absurd (h.granted_of_ok _ _ hlog) hnot

/-- Anything may follow a guarded dialogue that succeeded. -/
theorem Guarded.bind (hg : Lasting granted) {d : Dialogue Q A (Except ε α)}
    {f : Except ε α → Dialogue Q A (Except ε' β)} (hd : Guarded granted deed d)
    (hf : ∀ e, ∃ e', f (.error e) = done (.error e')) : Guarded granted deed (d.bind f) where
  minds := by
    refine hd.minds.bind hg ?_
    rintro log (e | value) hlog
    · obtain ⟨e', he⟩ := hf e
      exact .inr (he ▸ minds_done _)
    · exact .inl (hd.granted_of_ok _ _ hlog)
  granted_of_ok := by
    intro log value h
    obtain ⟨first, e | value, rest, hfirst, hrest, rfl⟩ := branch_bind_iff.mp h
    · obtain ⟨e', he⟩ := hf e
      rw [he] at hrest
      obtain ⟨_, hok⟩ := branch_done_iff.mp hrest
      cases hok
    · exact hg.append (hd.granted_of_ok _ _ hfirst)

theorem Guarded.run_bind (hg : Lasting granted) {x : ExceptT ε (Dialogue Q A) α}
    {f : α → ExceptT ε (Dialogue Q A) β} (hx : Guarded granted deed x.run) :
    Guarded granted deed (x >>= f).run :=
  hx.bind hg fun e => ⟨e, rfl⟩

/-- What needs no permission may come before a guarded dialogue. -/
theorem Minds.bind_guarded (hg : Lasting granted) {d : Dialogue Q A α}
    {f : α → Dialogue Q A (Except ε β)} (hd : Minds granted deed d)
    (hf : ∀ value, Guarded granted deed (f value)) : Guarded granted deed (d.bind f) where
  minds := hd.bind_all hg fun value => (hf value).minds
  granted_of_ok := by
    intro log value h
    obtain ⟨first, middle, rest, hfirst, hrest, rfl⟩ := branch_bind_iff.mp h
    exact hg.prepend ((hf middle).granted_of_ok _ _ hrest)

/-- A failure needs no permission. -/
theorem guarded_error (e : ε) : Guarded granted deed (done (.error e) : Dialogue Q A (Except ε α)) :=
  ⟨minds_done _, fun _ _ h => nomatch (branch_done_iff.mp h).2⟩

theorem Minds.run_bind_guarded (hg : Lasting granted) {x : ExceptT ε (Dialogue Q A) α}
    {f : α → ExceptT ε (Dialogue Q A) β} (hx : Minds granted deed x.run)
    (hf : ∀ value, Guarded granted deed (f value).run) : Guarded granted deed (x >>= f).run := by
  rw [ExceptT.run_bind, bind_eq]
  refine hx.bind_guarded hg ?_
  rintro (e | value)
  · exact guarded_error e
  · exact hf value

end MeshControl.Dialogue
