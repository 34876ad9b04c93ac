import Rollback.Server.Source

/-! What is done in a session adds to the requests that were sent and keeps what is known of the
server's resources. Everything that comes before a change of an object only reads. -/
namespace Rollback

variable {σ α β ε : Type} {kind : HttpRequest → Prop}

section Programs

variable {τ : Type}

theorem bind_apply (act : StateM τ α) (next : α → StateM τ β) (s : τ) :
    (act >>= next) s = next (act s).1 (act s).2 := rfl

theorem run_bind_apply (act : ExceptT ε (StateM τ) α) (next : α → ExceptT ε (StateM τ) β) (s : τ) :
    (act >>= next).run s =
      match act.run s with
      | (.error e, t) => (.error e, t)
      | (.ok a, t) => (next a).run t := by
  rw [ExceptT.run_bind, bind_apply]
  rcases act.run s with ⟨e | a, t⟩ <;> rfl

theorem ok_of_run_bind {act : ExceptT ε (StateM τ) α} {next : α → ExceptT ε (StateM τ) β} {s u : τ}
    {b : β} (answer : (act >>= next).run s = (.ok b, u)) :
    ∃ a t, act.run s = (.ok a, t) ∧ (next a).run t = (.ok b, u) := by
  rw [run_bind_apply] at answer
  rcases first : act.run s with ⟨e | a, t⟩
  · rw [first] at answer
    cases answer
  · rw [first] at answer
    exact ⟨a, t, rfl, answer⟩

theorem ok_of_run_bind_liftExcept {answer : Except ε α} {next : α → ExceptT ε (StateM τ) β}
    {s u : τ} {b : β}
    (done : ((liftM answer : ExceptT ε (StateM τ) α) >>= next).run s = (.ok b, u)) :
    ∃ a, answer = .ok a ∧ (next a).run s = (.ok b, u) := by
  obtain ⟨a, t, first, rest⟩ := ok_of_run_bind done
  obtain ⟨found, rfl⟩ := Prod.mk.inj first
  exact ⟨a, found, rest⟩

theorem run_lift_apply (read : StateM τ α) (s : τ) :
    (liftM read : ExceptT ε (StateM τ) α).run s = (.ok (read s).1, (read s).2) := rfl

theorem mapM_cons_apply (step : α → StateM τ β) (a : α) (rest : List α) (s : τ) :
    (a :: rest).mapM step s =
      ((step a s).1 :: (rest.mapM step (step a s).2).1, (rest.mapM step (step a s).2).2) := by
  rw [List.mapM_cons]
  rfl

/-- Each answer of a traversal is given by one item, after those before it and before those after it. -/
theorem split_of_mapM_apply {step : α → StateM τ β} {items : List α} {s : τ} {b : β}
    (member : b ∈ (items.mapM step s).1) :
    ∃ before a after, items = before ++ a :: after ∧ b = (step a (before.mapM step s).2).1 ∧
      (items.mapM step s).2 = (after.mapM step (step a (before.mapM step s).2).2).2 := by
  induction items generalizing s with
  | nil => cases member
  | cons a rest ih =>
    rw [mapM_cons_apply] at member ⊢
    rcases List.mem_cons.mp member with first | later
    · exact ⟨[], a, rest, rfl, first, rfl⟩
    · obtain ⟨before, a', after, rfl, found, ends⟩ := ih later
      have passed : ((a :: before).mapM step s).2 = (before.mapM step (step a s).2).2 := by
        rw [mapM_cons_apply]
      exact ⟨a :: before, a', after, rfl, passed ▸ found, passed ▸ ends⟩

end Programs

/-- A request that reads. -/
def HttpRequest.Reads (r : HttpRequest) : Prop := r.patch? = none

/-- A later moment of a session: requests of one kind were sent, and resources that were known are
still known. -/
structure Session.Extends (kind : HttpRequest → Prop) (s t : Session σ) : Prop where
  sent : ∃ more, t.requests = s.requests ++ more ∧ ∀ r ∈ more, kind r
  known : ∀ c, s.catalog? = some c → t.catalog? = some c

namespace Session.Extends

variable {s t u : Session σ}

theorem refl (s : Session σ) : s.Extends kind s :=
  ⟨⟨[], (List.append_nil _).symm, fun _ member => nomatch member⟩, fun _ known => known⟩

theorem trans (first : s.Extends kind t) (second : t.Extends kind u) : s.Extends kind u := by
  obtain ⟨⟨more, requests, all⟩, known⟩ := first
  obtain ⟨⟨others, requests', all'⟩, known'⟩ := second
  refine ⟨⟨more ++ others, ?_, fun r member => ?_⟩, fun c found => known' c (known c found)⟩
  · rw [requests', requests, List.append_assoc]
  · exact (List.mem_append.mp member).elim (all r) (all' r)

end Session.Extends

/-- All requests that a program sends are of one kind, from every session on. -/
def Sends (kind : HttpRequest → Prop) (act : StateM (Session σ) α) : Prop :=
  ∀ s : Session σ, s.Extends kind (act s).2

abbrev OnlyReads (act : StateM (Session σ) α) : Prop := Sends HttpRequest.Reads act

namespace Sends

theorem weaken {kind' : HttpRequest → Prop} {act : StateM (Session σ) α} (sends : Sends kind act)
    (weaker : ∀ r, kind r → kind' r) : Sends kind' act := by
  intro s
  obtain ⟨⟨more, requests, all⟩, known⟩ := sends s
  exact ⟨⟨more, requests, fun r member => weaker r (all r member)⟩, known⟩

theorem pure (a : α) : Sends kind (pure a : StateM (Session σ) α) := fun s => .refl s

theorem bind {act : StateM (Session σ) α} {next : α → StateM (Session σ) β} (first : Sends kind act)
    (rest : ∀ a, Sends kind (next a)) : Sends kind (act >>= next) :=
  fun s => (first s).trans (rest (act s).1 (act s).2)

theorem run_pure (a : α) : Sends kind (Pure.pure a : ExceptT ε (StateM (Session σ)) α).run :=
  fun s => .refl s

theorem run_throw (e : ε) : Sends kind (throw e : ExceptT ε (StateM (Session σ)) α).run :=
  fun s => .refl s

theorem run_liftExcept (answer : Except ε α) :
    Sends kind (liftM answer : ExceptT ε (StateM (Session σ)) α).run := fun s => .refl s

/-- The rest of a program need only be looked at for the answers that its beginning can give. -/
theorem run_bind_of_answer {act : ExceptT ε (StateM (Session σ)) α}
    {next : α → ExceptT ε (StateM (Session σ)) β} (first : Sends kind act.run)
    (rest : ∀ a s, (act.run s).1 = .ok a → Sends kind (next a).run) : Sends kind (act >>= next).run := by
  intro s
  have sent := first s
  rw [run_bind_apply]
  rcases answer : act.run s with ⟨e | a, t⟩
  · rw [answer] at sent
    exact sent
  · rw [answer] at sent
    exact sent.trans (rest a s (by rw [answer]) t)

theorem run_bind {act : ExceptT ε (StateM (Session σ)) α}
    {next : α → ExceptT ε (StateM (Session σ)) β} (first : Sends kind act.run)
    (rest : ∀ a, Sends kind (next a).run) : Sends kind (act >>= next).run :=
  run_bind_of_answer first fun a _ _ => rest a

theorem run_bind_liftExcept {answer : Except ε α} {next : α → ExceptT ε (StateM (Session σ)) β}
    (rest : ∀ a, answer = .ok a → Sends kind (next a).run) :
    Sends kind ((liftM answer : ExceptT ε (StateM (Session σ)) α) >>= next).run :=
  run_bind_of_answer (run_liftExcept answer) fun a _ given => rest a given

theorem mapM_of_mem {step : α → StateM (Session σ) β} {items : List α}
    (each : ∀ a ∈ items, Sends kind (step a)) : Sends kind (items.mapM step) := by
  induction items with
  | nil => exact pure []
  | cons item rest ih =>
    rw [List.mapM_cons]
    obtain ⟨first, later⟩ := List.forall_mem_cons.mp each
    exact bind first fun _ => bind (ih later) fun _ => pure _

theorem mapM {step : α → StateM (Session σ) β} (each : ∀ a, Sends kind (step a)) (items : List α) :
    Sends kind (items.mapM step) := mapM_of_mem fun a _ => each a

theorem run_mapM_of_mem {step : α → ExceptT ε (StateM (Session σ)) β} {items : List α}
    (each : ∀ a ∈ items, Sends kind (step a).run) : Sends kind (items.mapM step).run := by
  induction items with
  | nil => exact run_pure []
  | cons item rest ih =>
    rw [List.mapM_cons]
    obtain ⟨first, later⟩ := List.forall_mem_cons.mp each
    exact run_bind first fun _ => run_bind (ih later) fun _ => run_pure _

end Sends

theorem HttpRequest.reads_of_getAt {path : String} {r : HttpRequest}
    (asked : HttpRequest.getAt path = some r) : r.Reads := by
  obtain ⟨location, _, rfl⟩ := Option.map_eq_some_iff.mp asked
  rfl

theorem HttpRequest.reads_of_listAt {path : String} {selector? : Option String} {r : HttpRequest}
    (asked : HttpRequest.listAt path selector? = some r) : r.Reads := by
  obtain ⟨location, _, rfl⟩ := Option.map_eq_some_iff.mp asked
  rfl

namespace Server

variable (server : Server σ)

/-- An exchange sends its request and no other; without a location it sends none. -/
theorem exchange_requests (what : String) (request? : Option HttpRequest) (s : Session σ) :
    ((server.exchange what request?).run s).2.requests = s.requests ++ request?.toList := by
  cases request? with
  | none => exact (List.append_nil _).symm
  | some r => rfl

theorem sends_exchange (what : String) {request? : Option HttpRequest}
    (all : ∀ r, request? = some r → kind r) : Sends kind (server.exchange what request?).run := by
  intro s
  refine ⟨⟨_, server.exchange_requests what request? s, fun r member => ?_⟩, fun c found => ?_⟩
  · exact all r (Option.mem_toList.mp member)
  · cases request? <;> exact found

theorem sends_fetch (what : String) {request? : Option HttpRequest} (read? : Json → Option α)
    (all : ∀ r, request? = some r → kind r) : Sends kind (server.fetch what request? read?).run := by
  refine Sends.run_bind (server.sends_exchange what all) fun text => ?_
  split
  · exact Sends.run_pure _
  · exact Sends.run_throw _

theorem fetch_requests (what : String) (request? : Option HttpRequest) (read? : Json → Option α)
    (s : Session σ) :
    ((server.fetch what request? read?).run s).2.requests = s.requests ++ request?.toList := by
  have sent := server.exchange_requests what request? s
  rw [fetch, run_bind_apply]
  rcases exchanged : (server.exchange what request?).run s with ⟨cause | text, t⟩
  · rw [exchanged] at sent
    exact sent
  · rw [exchanged] at sent
    dsimp only
    split <;> exact sent

theorem exchange_fst (what : String) (r : HttpRequest) (s : Session σ) :
    ((server.exchange what (some r)).run s).1 =
      match (server.send r s.world).1 with
      | .answer status body => (replyText status body).mapError fun cause => cause.within what
      | .silence => .error (.plain s!"{what}: timed out after {server.settings.timeout}s")
      | .unreachable cause => .error (cause.within what) := rfl

theorem answer_of_exchange {what text : String} {r : HttpRequest} {s t : Session σ}
    (answer : (server.exchange what (some r)).run s = (.ok text, t)) :
    ∃ status body, (server.send r s.world).1 = .answer status body ∧
      replyText status body = .ok text := by
  replace answer := congrArg Prod.fst answer
  rw [exchange_fst] at answer
  split at answer
  · next status body reply =>
    cases decoded : replyText status body with
    | error cause =>
      rw [decoded] at answer
      cases answer
    | ok found =>
      rw [decoded] at answer
      cases answer
      exact ⟨status, body, reply, decoded⟩
  · cases answer
  · cases answer

/-- What is fetched was read from the body of an answer. -/
theorem answer_of_fetch {what : String} {request? : Option HttpRequest} {read? : Json → Option α}
    {s t : Session σ} {v : α} (answer : (server.fetch what request? read?).run s = (.ok v, t)) :
    ∃ r status body text document, request? = some r ∧
      (server.send r s.world).1 = .answer status body ∧ replyText status body = .ok text ∧
        Json.ofText? text = some document ∧ read? document = some v := by
  obtain ⟨text, u, exchanged, answer⟩ := ok_of_run_bind answer
  have parsed : (Json.ofText? text).bind read? = some v := by
    cases read : (Json.ofText? text).bind read? with
    | none =>
      simp only [readBody, read] at answer
      cases answer
    | some w =>
      simp only [readBody, read] at answer
      cases answer
      rfl
  obtain ⟨document, given, read⟩ := Option.bind_eq_some_iff.mp parsed
  cases request? with
  | none => cases exchanged
  | some r =>
    obtain ⟨status, body, reply, decoded⟩ := server.answer_of_exchange exchanged
    exact ⟨r, status, body, text, document, rfl, reply, decoded, given, read⟩

theorem document_of_fetch {what : String} {request? : Option HttpRequest} {read? : Json → Option α}
    {s t : Session σ} {v : α} (answer : (server.fetch what request? read?).run s = (.ok v, t)) :
    ∃ text document, Json.ofText? text = some document ∧ read? document = some v := by
  obtain ⟨_, _, _, text, document, _, _, _, given, read⟩ := server.answer_of_fetch answer
  exact ⟨text, document, given, read⟩

end Server

namespace Discovery

variable (server : Server σ)

/-- What the server answers when it is asked at a path. -/
def ToldAt (path : String) (read? : Json → Option α) (a : α) : Prop :=
  ∃ s, ((server.fetch purpose (HttpRequest.getAt path) read?).run s).1 = .ok a

/-- A request for the groups of a server, for the versions of its core group, or for what it serves at
a version that it has listed. -/
inductive Asks (r : HttpRequest) : Prop where
  | groups (asked : HttpRequest.getAt "/apis" = some r)
  | listed {groups : List Group} {group : Group} {version : GroupVersion}
      (told : ToldAt server "/apis" groups? groups) (member : group ∈ groups)
      (offered : version ∈ group.versions)
      (asked : HttpRequest.getAt ("/apis/" ++ version.groupVersion) = some r)
  | versions (asked : HttpRequest.getAt "/api" = some r)
  | core {versions : List String} {version : String} (told : ToldAt server "/api" coreVersions? versions)
      (offered : version ∈ versions) (asked : HttpRequest.getAt ("/api/" ++ version) = some r)

variable {server} in
theorem Asks.reads {r : HttpRequest} (asks : Asks server r) : r.Reads := by
  cases asks with
  | groups asked | versions asked | listed _ _ _ asked | core _ _ asked =>
    exact HttpRequest.reads_of_getAt asked

theorem sends_readGroup (name : String) (preferred? : Option String) {paths : List (String × String)}
    (all : ∀ listed ∈ paths, ∀ r, HttpRequest.getAt listed.2 = some r → kind r) :
    Sends kind (readGroup server name preferred? paths).run := by
  unfold readGroup
  split
  · exact Sends.run_throw _
  · refine Sends.run_bind (Sends.run_mapM_of_mem fun listed member => ?_) fun _ => Sends.run_pure _
    exact Sends.run_bind (server.sends_fetch _ _ (all listed member)) fun _ => Sends.run_pure _

theorem sends_readListed {group : Group}
    (all : ∀ v ∈ group.versions, ∀ r, HttpRequest.getAt ("/apis/" ++ v.groupVersion) = some r → kind r) :
    Sends kind (readListed server group).run := by
  refine Sends.run_bind (sends_readGroup server _ _ ?_) fun _ => Sends.run_pure _
  intro listed member
  obtain ⟨version, offered, rfl⟩ := List.mem_map.mp member
  exact all version offered

theorem sends_readCore : Sends (Asks server) (readCore server).run := by
  apply Sends.run_bind_of_answer (server.sends_fetch _ _ fun r => .versions)
  intro versions s told
  apply sends_readGroup
  intro listed member r asked
  obtain ⟨version, offered, rfl⟩ := List.mem_map.mp member
  exact .core ⟨s, told⟩ offered asked

theorem sends_run : Sends (Asks server) (run server).run := by
  apply Sends.run_bind_of_answer (server.sends_fetch _ _ fun r => .groups)
  intro groups s told
  refine Sends.run_bind (Sends.run_mapM_of_mem fun group member => ?_) fun listed => ?_
  · apply sends_readListed
    intro version offered r asked
    exact .listed ⟨s, told⟩ member offered asked
  · exact Sends.run_bind (sends_readCore server) fun _ => Sends.run_pure _

theorem onlyReads_run : OnlyReads (run server).run := (sends_run server).weaken fun _ => Asks.reads

end Discovery

namespace Server

variable (server : Server σ)

theorem catalog_of_known {c : Catalog} {s : Session σ} (known : s.catalog? = some c) :
    (catalog server).run s = (.ok c, s) := by
  obtain ⟨world, _, requests, manifests, output⟩ := s
  cases known
  rfl

theorem catalog_asks {s : Session σ} (unknown : s.catalog? = none) :
    (catalog server).run s =
      (do
        match ← (Discovery.run server).run with
        | .error cause => throw (.undiscovered cause)
        | .ok c =>
          modify fun session => { session with catalog? := some c }
          pure c : ExceptT CatalogFault (StateM (Session σ)) Catalog).run s := by
  obtain ⟨world, _, requests, manifests, output⟩ := s
  cases unknown
  rfl

theorem catalog_of_unknown {s : Session σ} (unknown : s.catalog? = none) :
    (catalog server).run s =
      match (Discovery.run server).run s with
      | (.error cause, t) => (.error (.undiscovered cause), t)
      | (.ok c, t) => (.ok c, { t with catalog? := some c }) := by
  rw [server.catalog_asks unknown, run_bind_apply, run_lift_apply]
  rcases (Discovery.run server).run s with ⟨cause | c, t⟩ <;> rfl

theorem onlyReads_catalog : OnlyReads (catalog server).run := by
  intro s
  cases held : s.catalog? with
  | some c => exact server.catalog_of_known held ▸ .refl s
  | none =>
    have sent := (Discovery.onlyReads_run server s).sent
    refine ⟨?_, fun c known => nomatch held.symm.trans known⟩
    rw [server.catalog_of_unknown held]
    rcases found : (Discovery.run server).run s with ⟨cause | c, t⟩ <;>
    · rw [found] at sent
      exact sent

/-- Once the server has said what it serves, the session knows. -/
theorem catalog_known {c : Catalog} {s t : Session σ}
    (answer : (catalog server).run s = (.ok c, t)) : t.catalog? = some c := by
  cases held : s.catalog? with
  | some known =>
    rw [server.catalog_of_known held] at answer
    cases answer
    exact held
  | none =>
    rw [server.catalog_of_unknown held] at answer
    rcases found : (Discovery.run server).run s with ⟨cause | c, t⟩
    · rw [found] at answer
      cases answer
    · rw [found] at answer
      cases answer
      rfl

theorem onlyReads_loadManifests (request : Request) : OnlyReads (loadManifests server request) := by
  intro s
  unfold loadManifests
  dsimp only
  split
  · exact ⟨⟨[], (List.append_nil _).symm, nofun⟩, fun _ known => known⟩
  · exact .refl s

/-- A target is read with one request, at its path. -/
theorem sends_fetchTarget {t : PlannedTarget}
    (gets : ∀ name r, t.name? = some name → HttpRequest.getAt (t.path ++ "/" ++ name) = some r → kind r)
    (lists : ∀ r, HttpRequest.listAt t.path none = some r → kind r) :
    Sends kind (fetchTarget server t) := by
  unfold fetchTarget
  split
  · next name named =>
    refine Sends.bind (server.sends_fetch _ _ fun r => gets name r named) fun answer => ?_
    cases answer <;> exact Sends.pure _
  · refine Sends.bind (server.sends_fetch _ _ lists) fun answer => ?_
    cases answer <;> exact Sends.pure _

theorem onlyReads_fetchTarget (t : PlannedTarget) : OnlyReads (fetchTarget server t) :=
  server.sends_fetchTarget (fun _ _ _ => HttpRequest.reads_of_getAt) fun _ => HttpRequest.reads_of_listAt

theorem onlyReads_fetchPlanned (planned : Except Failure PlannedTarget) :
    OnlyReads (fetchPlanned server planned) := by
  cases planned with
  | error failure => exact Sends.pure _
  | ok t => exact onlyReads_fetchTarget server t

theorem onlyReads_resolve (request : Request) : OnlyReads (resolve server request) := by
  unfold resolve
  refine Sends.bind (onlyReads_loadManifests server request) fun manifests => ?_
  cases manifests with
  | error cause => exact Sends.pure _
  | ok manifests =>
    refine Sends.bind (onlyReads_catalog server) fun answer => ?_
    cases answer with
    | error fault => exact Sends.pure _
    | ok c =>
      dsimp only
      split
      · exact Sends.pure _
      · exact Sends.bind (Sends.mapM (onlyReads_fetchPlanned server) _) fun _ => Sends.pure _

theorem onlyReads_verify (gvk : Gvk) : OnlyReads (verify server gvk) := by
  refine Sends.bind (onlyReads_catalog server) fun answer => ?_
  cases answer <;> exact Sends.pure _

/-- A change of a type can be tried just when the known resources say so. -/
theorem verify_supported {gvk : Gvk} {s t : Session σ} (answer : verify server gvk s = (.ok (), t)) :
    ∃ c, t.catalog? = some c ∧ c.checkDryRun gvk = .ok () := by
  have steps : verify server gvk s =
      match (catalog server).run s with
      | (.error fault, t) => (.error fault.cause, t)
      | (.ok c, t) => (c.checkDryRun gvk, t) := by
    rw [verify, bind_apply]
    rcases (catalog server).run s with ⟨fault | c, t⟩ <;> rfl
  rcases found : (catalog server).run s with ⟨fault | c, u⟩
  · rw [steps, found] at answer
    cases answer
  · rw [steps, found] at answer
    obtain ⟨supported, rfl⟩ := Prod.mk.inj answer
    exact ⟨c, server.catalog_known found, supported⟩

end Server

end Rollback
