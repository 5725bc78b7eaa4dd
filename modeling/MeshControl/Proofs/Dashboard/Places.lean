import MeshControl.Config.Basic
import MeshControl.Proofs.Dashboard.Requests
import MeshControl.Proofs.Files.Tree
import MeshControl.Proofs.Http.Reading

/-!
# Where requests for groups and devices go

An operation that is about one group or one device names it by an id at the end of its endpoint
(`Operation.target?`).  The id is written there as it is, so where the request goes is what the address
with the id in it is read as.  It goes to the thing with that id, with the secret and nothing else in
its query (`Names`), exactly if the id is `Tame`: no character of it separates anything or is left out,
it is not made of dots, and nothing in it is in percent form (`names_iff_tame`).
-/

namespace MeshControl.Dashboard

open Daemon Dialogue MeshControl.Http MeshControl.Http.Url MeshControl.Json MeshControl.Text

/-! ### Ids -/

/-- What an address says of a thing: the route is followed by one segment, which stands for the id,
and the query is the secret alone. -/
structure Names (url : Url) (route id : String) (secret : Secret) : Prop where
  path : ∃ segment, pathText url.segments = route.toList ++ segment ∧ '/' ∉ segment ∧
    percentDecode segment = Utf8.encode id
  query : ∃ query, url.query? = some query ∧
    Form.decode (String.ofList query) = [("secret", secret.text)]

/-- Ids that stay one segment and stand for themselves. -/
structure Tame (id : String) : Prop where
  plain : ∀ c ∈ id.toList, c ∉ separators
  ends : ∀ c ∈ id.toList.getLast?, isEdge c = false
  unescaped : hasEscape id.toList = false
  ne_dot : id ≠ "."
  ne_dots : id ≠ ".."

theorem tame_iff {id : String} :
    Tame id ↔ id.toList.all (fun c => decide (c ∉ separators)) = true ∧
      id.toList.getLast?.any isEdge = false ∧ hasEscape id.toList = false ∧ id ≠ "." ∧ id ≠ ".." := by
  rw [List.all_eq_true, Option.any_eq_false]
  exact ⟨fun h => ⟨fun c hc => decide_eq_true (h.plain c hc), fun c hc => by simp [h.ends c hc],
      h.unescaped, h.ne_dot, h.ne_dots⟩,
    fun ⟨h₁, h₂, h₃, h₄, h₅⟩ => ⟨fun c hc => of_decide_eq_true (h₁ c hc), fun c hc => by
      simpa using h₂ c hc, h₃, h₄, h₅⟩⟩

instance (id : String) : Decidable (Tame id) :=
  decidable_of_iff' _ tame_iff

/-- The route of names, which begins and ends with a slash. -/
def routeText (names : List (List Char)) : String :=
  String.ofList (pathText names ++ ['/'])

section Reading

variable {base : String} {names : List (List Char)} {id : String} {secret : Secret} {url : Url}

theorem routeText_append (names : List (List Char)) (id : String) :
    routeText names ++ id = String.ofList (pathText names ++ '/' :: id.toList) := by
  rw [← String.toList_inj, String.toList_append, routeText, String.toList_ofList,
    String.toList_ofList, List.append_assoc, List.singleton_append]

/-- An address with a tame id in it names the thing. -/
theorem names_of_tame (hbase : IsBare base) (hnames : ∀ n ∈ names, IsName n)
    (h : Tame id) (hread : read (base ++ (routeText names ++ id)) = .ok url) :
    Names (url.withFields [("secret", secret.text)]) (routeText names) id secret := by
  have hcounts : kept id.toList = id.toList :=
    kept_eq_self_iff.mpr ⟨fun c hc => counts_of_plain (h.plain c hc), h.ends⟩
  have hends : splitEnds id.toList = (id.toList, none, none) :=
    splitEnds_of_notMem (fun hc => h.plain _ hc (by decide)) fun hc => h.plain _ hc (by decide)
  have hdots : isDots id.toList = false := by
    rw [Bool.eq_false_iff, Ne, isDots_iff h.unescaped]
    rintro (heq | heq)
    · exact h.ne_dot (String.toList_injective heq)
    · exact h.ne_dots (String.toList_injective heq)
  rw [routeText_append] at hread
  obtain ⟨hsegments, hquery⟩ := read_eq_ok hbase hnames hread
  rw [hcounts, hends, List.splitOnP_eq_singleton (isFlat_of_plain h.plain)] at hsegments
  rw [hcounts, hends] at hquery
  rw [normalize_singleton hdots, List.reverse_reverse] at hsegments
  constructor
  · refine ⟨encodeSegment id.toList, ?_,
      slash_notMem_encodeSegment fun hc => h.plain _ hc (by decide), ?_⟩
    · show pathText url.segments = _
      rw [hsegments, pathText_append, routeText, String.toList_ofList, List.append_assoc]
      simp [pathText]
    · rw [percentDecode_encodeSegment, percentDecode_of_hasEscape_eq_false h.unescaped,
        Utf8.encode_eq_flatMap]
  · have hempty : url.query? = none := hquery
    have hne : (Form.encode [("secret", secret.text)]).toList.isEmpty = false := by
      simp [Form.encode, Form.encodePair]
    refine ⟨(Form.encode [("secret", secret.text)]).toList, ?_, ?_⟩
    · simp only [withFields, hempty, hne, Bool.false_eq_true, if_false]
    · rw [String.ofList_toList, Form.decode_encode]

/-- What the path of an address ends in stands for the id in it only if that is tame. -/
theorem tame_of_path (hbase : IsBare base) (hnames : ∀ n ∈ names, IsName n)
    (hread : read (base ++ (routeText names ++ id)) = .ok url) {segment : List Char}
    (hpath : pathText url.segments = (routeText names).toList ++ segment) (hsegment : '/' ∉ segment)
    (hdecode : percentDecode segment = Utf8.encode id) : Tame id := by
  rw [routeText_append] at hread
  rw [routeText, String.toList_ofList, List.append_assoc, List.singleton_append] at hpath
  have hlast := eq_lastSegment hbase hnames hread hpath hsegment
  rw [hlast, Utf8.encode_eq_flatMap] at hdecode
  obtain ⟨hwhole, hdots, hescape⟩ := whole_of_percentDecode_lastSegment hdecode
  obtain ⟨hplain, hends⟩ := plain_of_lastPart_eq_self hwhole
  refine ⟨hplain, hends, hescape, ?_, ?_⟩
  · rintro rfl
    exact absurd hdots (by decide)
  · rintro rfl
    exact absurd hdots (by decide)

end Reading

/-! ### Operations about one thing -/

/-- The route to the things that an operation is about, and the id of the one that it is about. -/
def Operation.target? : Operation → Option (String × String)
  | .showGroup id | .updateGroup id _ | .removeGroup id => some ("/api/forward/web/groups/", id)
  | .showDevice id | .updateDevice id _ => some ("/api/forward/web/devices/", id)
  | .unclaimDevice id => some ("/api/forward/web/devices/unclaim/", id)
  | _ => none

/-- The names on the way of a route. -/
def IsRoute (route : String) : Prop :=
  ∃ names, route = routeText names ∧ ∀ n ∈ names, IsName n

theorem Operation.isRoute_of_target? {op : Operation} {route id : String}
    (h : op.target? = some (route, id)) :
    IsRoute route ∧ "/api/forward" ++ op.endpoint = route ++ id := by
  have hgroups : IsRoute "/api/forward/web/groups/" :=
    ⟨["api", "forward", "web", "groups"].map String.toList, rfl, by decide +kernel⟩
  have hdevices : IsRoute "/api/forward/web/devices/" :=
    ⟨["api", "forward", "web", "devices"].map String.toList, rfl, by decide +kernel⟩
  have hunclaim : IsRoute "/api/forward/web/devices/unclaim/" :=
    ⟨["api", "forward", "web", "devices", "unclaim"].map String.toList, rfl, by decide +kernel⟩
  cases op with
  | showGroup | updateGroup | removeGroup =>
    cases h
    exact ⟨hgroups, (String.append_assoc ..).symm⟩
  | showDevice | updateDevice =>
    cases h
    exact ⟨hdevices, (String.append_assoc ..).symm⟩
  | unclaimDevice =>
    cases h
    exact ⟨hunclaim, (String.append_assoc ..).symm⟩
  | _ => cases h

/-- The address of a request is the one that was put together, with the secret in its query. -/
theorem read_of_forwarded {base : BaseUrl} {method : Method} {endpoint : String}
    {body? : Option Value} {secret : Secret} {asked : Request}
    (h : forwarded base method endpoint body? secret = .ok asked) :
    ∃ url, read (forwardUrl base endpoint) = .ok url ∧
      asked.url = url.withFields [("secret", secret.text)] := by
  rw [forwarded, Request.build] at h
  split at h
  next => cases h
  next url hread =>
    refine ⟨url, hread, ?_⟩
    dsimp only at h
    split at h
    next => cases h
    next =>
      split at h
      next => cases h
      next =>
        cases h
        rfl

/-- An address that names a thing names no other one. -/
theorem Names.unique {url url' : Url} {route route' id id' : String} {secret secret' : Secret}
    (h : Names url route id secret) (hroute : IsRoute route) (hroute' : IsRoute route')
    (h' : Names url' route' id' secret')
    (heq : pathText url.segments = pathText url'.segments) : route = route' ∧ id = id' := by
  obtain ⟨names, rfl, -⟩ := hroute
  obtain ⟨names', rfl, -⟩ := hroute'
  obtain ⟨segment, hpath, hsegment, hdecode⟩ := h.path
  obtain ⟨segment', hpath', hsegment', hdecode'⟩ := h'.path
  rw [heq, hpath', routeText, routeText, String.toList_ofList, String.toList_ofList,
    List.append_assoc, List.append_assoc] at hpath
  obtain ⟨hnames, rfl⟩ := eq_of_append_slash hpath hsegment' hsegment
  exact ⟨by rw [routeText, routeText, hnames], Utf8.encode_injective (hdecode.symm.trans hdecode')⟩

/-- **Where requests for groups and devices go.**  What is sent for an operation on one group or device
goes to the thing with the id of the operation, with the secret alone in its query, exactly if the id is
tame.  No request that goes to another thing goes to the same place then. -/
theorem names_iff_tame {base : BaseUrl} (hbase : IsBare base.text) {op : Operation}
    {route id : String} (htarget : op.target? = some (route, id)) {log : Log}
    {result : Except Error String} (h : (op.run base).run.Branch log result) {asked : Request}
    {answer : Except Failure Answer} (sent : ⟨.link (.send asked), answer⟩ ∈ log) :
    ∃ secret, ⟨.link .secret, .ok secret⟩ ∈ log ∧ (Names asked.url route id secret ↔ Tame id) ∧
      ∀ (op' : Operation) (route' id' : String) (url' : Url) (secret' : Secret), Tame id →
        op'.target? = some (route', id') → Names url' route' id' secret' →
        pathText url'.segments = pathText asked.url.segments → route' = route ∧ id' = id := by
  obtain ⟨hroute, hendpoint⟩ := Operation.isRoute_of_target? htarget
  obtain ⟨names, rfl, hnames⟩ := hroute
  obtain ⟨secret, hsecret, hforwarded⟩ := forwarded_of_run h sent
  obtain ⟨url, hread, heq⟩ := read_of_forwarded hforwarded
  rw [forwardUrl, BaseUrl.route, hendpoint] at hread
  have hiff : Names asked.url (routeText names) id secret ↔ Tame id := by
    constructor
    · intro hnamed
      obtain ⟨segment, hpath, hsegment, hdecode⟩ := hnamed.path
      rw [heq] at hpath
      exact tame_of_path hbase hnames hread hpath hsegment hdecode
    · intro htame
      rw [heq]
      exact names_of_tame hbase hnames htame hread
  refine ⟨secret, hsecret, hiff, ?_⟩
  intro op' route' id' url' secret' htame htarget' hnamed' hplace
  exact hnamed'.unique (Operation.isRoute_of_target? htarget').1 ⟨names, rfl, hnames⟩ (hiff.mpr htame)
    hplace

/-! ### The address of the daemon -/

section DaemonUrl

variable {c : Config}

/-- The text of the daemon's address: a host, which is as plain as the one that is configured, and a
port. -/
theorem toList_daemonUrl (h : ∀ d ∈ c.daemonAddress.toList, d ∉ hostEnds) :
    ∃ host : List Char, (∀ d ∈ host, d ∉ hostEnds) ∧
      c.daemonUrl.toList = "http".toList ++ ':' :: '/' :: '/' ::
        (host ++ ':' :: Nat.toDigits 10 c.daemonPort.toNat) := by
  have htext (host : String) : ("http://" ++ host ++ ":" ++ toString c.daemonPort.toNat).toList =
      "http".toList ++ ':' :: '/' :: '/' ::
        (host.toList ++ ':' :: Nat.toDigits 10 c.daemonPort.toNat) := by
    simp [String.toList_append]
  rw [Config.daemonUrl]
  split
  · -- an address of version 6 is put in brackets
    refine ⟨_, fun d hd => ?_, htext _⟩
    simp only [String.toList_append, List.mem_append] at hd
    rcases hd with (hd | hd) | hd
    · rw [List.mem_singleton.mp hd]
      decide
    · exact h d hd
    · rw [List.mem_singleton.mp hd]
      decide
  · exact ⟨_, h, htext _⟩

theorem notMem_hostEnds_of_isDigit {d : Char} (h : d.isDigit = true) : d ∉ hostEnds := by
  have hmarks : ∀ mark ∈ hostEnds, ¬ mark.isDigit = true := forall_mem_of_all (by decide)
  exact fun hmark => hmarks d hmark h

theorem isDigit_of_mem_port {d : Char} (h : d ∈ Nat.toDigits 10 c.daemonPort.toNat) :
    d.isDigit = true :=
  Nat.isDigit_of_mem_toDigits (by decide) (by decide) h

/-- The address of the daemon ends in a digit of the port, not in a slash. -/
theorem not_slash_suffix_port (front : List Char) :
    ¬ ['/'] <:+ front ++ Nat.toDigits 10 c.daemonPort.toNat := by
  rintro ⟨before, heq⟩
  obtain ⟨last, hlast⟩ := Option.ne_none_iff_exists'.mp
    (mt List.getLast?_eq_none_iff.mp (Nat.toDigits_ne_nil (b := 10) (n := c.daemonPort.toNat)))
  have hends := congrArg List.getLast? heq
  rw [List.getLast?_append, List.getLast?_append, hlast] at hends
  cases hends
  exact absurd (isDigit_of_mem_port (List.mem_of_getLast? hlast)) (by decide)

/-- The daemon's address in a configuration ends with its host if the host that is configured holds
nothing that ends a host. -/
theorem isBare_daemonUrl (h : ∀ d ∈ c.daemonAddress.toList, d ∉ hostEnds) :
    IsBare (BaseUrl.ofText c.daemonUrl).text := by
  obtain ⟨host, hhost, htext⟩ := toList_daemonUrl h
  have hend : ¬ ['/'] <:+ c.daemonUrl.toList := by
    have := not_slash_suffix_port (c := c) ("http".toList ++ ':' :: '/' :: '/' :: (host ++ [':']))
    rw [htext]
    simpa using this
  refine ⟨"http", host ++ ':' :: Nat.toDigits 10 c.daemonPort.toNat, .inl rfl, ?_, fun d hd => ?_,
    ':', by simp, by decide⟩
  · rw [BaseUrl.ofText, String.toList_ofList, Files.Tree.dropEndMarks_eq_self hend, htext]
  · rcases List.mem_append.mp hd with hd | hd
    · exact hhost d hd
    · rcases List.mem_cons.mp hd with rfl | hd
      · decide
      · exact notMem_hostEnds_of_isDigit (isDigit_of_mem_port hd)

end DaemonUrl

theorem isBare_loopback : IsBare loopback.text := by
  have hurl : (BaseUrl.ofText ({ daemonAddress := "::1" } : Config).daemonUrl).text = loopback.text := by
    decide +kernel
  exact hurl ▸ isBare_daemonUrl (forall_mem_of_all (by decide))

/-- The request of an operation is sent to a daemon on the same machine, whatever comes back. -/
theorem exists_sent (op : Operation) (secret : Secret) (target : String)
    (h : op.objection? = none)
    (hbuild : (forwarded loopback op.method op.endpoint op.body? secret).toOption.map
      (·.url.target) = some target) :
    ∃ asked log, (op.run loopback).run.Branch log (.error .refused) ∧
      ⟨.link (.send asked), .error .refused⟩ ∈ log ∧ asked.url.target = target := by
  cases hforwarded : forwarded loopback op.method op.endpoint op.body? secret with
  | error failure =>
    rw [hforwarded] at hbuild
    cases hbuild
  | ok asked =>
    rw [hforwarded] at hbuild
    exact ⟨asked, _, branch_run_of_forwarded h hforwarded, by simp, Option.some.inj hbuild⟩

/-- The device with an id that is tame is the one that is asked for, and nothing else is named so. -/
theorem names_iff_tame_d1 :
    Tame "d1" ∧ ∃ (asked : Request) (secret : Secret),
      asked.url.target = "/api/forward/web/devices/d1?secret=s" ∧
      Names asked.url "/api/forward/web/devices/" "d1" secret ∧
      ∀ (op : Operation) (route id : String) (url : Url) (secret' : Secret),
        op.target? = some (route, id) → Names url route id secret' →
        pathText url.segments = pathText asked.url.segments →
        route = "/api/forward/web/devices/" ∧ id = "d1" := by
  have htame : Tame "d1" := by decide
  obtain ⟨asked, log, hbranch, sent, htarget⟩ :=
    exists_sent (.showDevice "d1") ⟨"s", by decide⟩ "/api/forward/web/devices/d1?secret=s" rfl
      (by decide +kernel)
  obtain ⟨secret, -, hiff, hunique⟩ := names_iff_tame isBare_loopback
    (rfl : (Operation.showDevice "d1").target? = _) hbranch sent
  exact ⟨htame, asked, secret, htarget, hiff.mpr htame, fun op route id url secret' =>
    hunique op route id url secret' htame⟩

/-- An id that is not tame moves a request to another route: asked for a device, the list of groups
is read. -/
theorem device_moved_to_groups :
    ∃ asked log, ((Operation.showDevice "../groups").run loopback).run.Branch log (.error .refused) ∧
      ⟨.link (.send asked), .error .refused⟩ ∈ log ∧
      asked.url.target = "/api/forward/web/groups?secret=s" ∧
      ∀ secret, ¬ Names asked.url "/api/forward/web/devices/" "../groups" secret := by
  obtain ⟨asked, log, hbranch, sent, htarget⟩ :=
    exists_sent (.showDevice "../groups") ⟨"s", by decide⟩ "/api/forward/web/groups?secret=s" rfl
      (by decide +kernel)
  refine ⟨asked, log, hbranch, sent, htarget, fun secret h => ?_⟩
  obtain ⟨⟨names, hroute, hnames⟩, hendpoint⟩ := Operation.isRoute_of_target?
    (rfl : (Operation.showDevice "../groups").target? = _)
  obtain ⟨_, _, hforwarded⟩ := forwarded_of_run hbranch sent
  obtain ⟨url, hread, heq⟩ := read_of_forwarded hforwarded
  obtain ⟨segment, hpath, hsegment, hdecode⟩ := h.path
  rw [heq, hroute] at hpath
  rw [forwardUrl, BaseUrl.route, hendpoint, hroute] at hread
  exact absurd (tame_of_path isBare_loopback hnames hread hpath hsegment hdecode) (by decide)

end MeshControl.Dashboard
