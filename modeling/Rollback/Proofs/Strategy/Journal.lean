import Rollback.Proofs.Engine.Calls
import Rollback.Proofs.Server.Location
import Rollback.Proofs.Strategy.Stages

/-! The requests of a whole run, event by event: everything reads, but for at most one change at the end
of each rollback, and none in a client dry run. -/
namespace Rollback

open Engine

variable {σ : Type}

/-- A way to write for the user that leaves the server alone. -/
structure Console (σ : Type) where
  write : Writer σ
  quiet : ∀ text, Sends (fun _ => False) (write text)

def Console.session : Console σ where
  write := Session.write
  quiet _ _ := ⟨⟨[], (List.append_nil _).symm, nofun⟩, fun _ known => known⟩

/-- The known resources allow a change of the type to be tried. -/
def Supported (catalog? : Option Catalog) (gvk : Gvk) : Prop :=
  ∃ catalog resource, catalog? = some catalog ∧ catalog.find? gvk = some resource ∧
    resource.supports Catalog.patchVerb = true

/-- A change that may be sent for an object. Parts of the path's text go into the place of the request
as they are: a hash sign cuts its parameters off, and a question mark begins a query. -/
structure Change (dryRun : DryRun) (catalog? : Option Catalog) (h : Handle) (r : HttpRequest) :
    Prop where
  method : r.method = "PATCH"
  mode : dryRun ≠ .client
  supported : dryRun = .server → Supported catalog? h.gvk
  path : ∃ (p : Procedure) (path : String), (h.gvk.group, h.gvk.kind) ∈ p.kinds ∧
    p.path? h = some path ∧
      (dryRun = .server → '#' ∉ path.toList → ("dryRun", "All") ∈ r.location.query) ∧
        (dryRun = .none → '?' ∉ path.toList → ∀ value, ("dryRun", value) ∉ r.location.query) ∧
          ('#' ∉ path.toList → '?' ∉ path.toList → r.location.path = path)

/-- The requests that may be sent for one event. -/
inductive Lawful (dryRun : DryRun) (catalog? : Option Catalog) :
    Event → List HttpRequest → Prop where
  | reads {event : Event} {sent : List HttpRequest} (all : ∀ r ∈ sent, r.method = "GET") :
      Lawful dryRun catalog? event sent
  | changes {h : Handle} {result : Except Cause String} {sent : List HttpRequest} {r : HttpRequest}
      (all : ∀ r ∈ sent, r.method = "GET") (change : Change dryRun catalog? h r) :
      Lawful dryRun catalog? (.rollback h result) (sent ++ [r])

/-- The requests of a session since its beginning, each with the event for which it was sent. -/
structure Journal (dryRun : DryRun) (s t : Session σ) (trace : List Event)
    (entries : List (Event × List HttpRequest)) : Prop where
  events : entries.map Prod.fst = trace
  requests : t.requests = s.requests ++ entries.flatMap Prod.snd
  lawful : ∀ entry ∈ entries, Lawful dryRun t.catalog? entry.1 entry.2

theorem HttpRequest.Reads.method {r : HttpRequest} (reads : r.Reads) : r.method = "GET" := by
  simp [HttpRequest.method, HttpRequest.Reads] at *
  simp [reads]

section Journals

variable {dryRun : DryRun} {catalog? later? : Option Catalog} {s t u : Session σ} {h : Handle}
  {r : HttpRequest} {trace : List Event} {event : Event} {sent : List HttpRequest}
  {entries : List (Event × List HttpRequest)} {gvk : Gvk}

theorem Supported.later (supported : Supported catalog? gvk)
    (known : ∀ c, catalog? = some c → later? = some c) : Supported later? gvk := by
  obtain ⟨catalog, resource, found, listed⟩ := supported
  exact ⟨catalog, resource, known catalog found, listed⟩

theorem Change.later (change : Change dryRun catalog? h r)
    (known : ∀ c, catalog? = some c → later? = some c) : Change dryRun later? h r :=
  { change with supported := fun mode => (change.supported mode).later known }

theorem Lawful.later (lawful : Lawful dryRun catalog? event sent)
    (known : ∀ c, catalog? = some c → later? = some c) : Lawful dryRun later? event sent := by
  cases lawful with
  | reads all => exact .reads all
  | changes all change => exact .changes all (change.later known)

/-- A client dry run only reads. -/
theorem Lawful.gets (lawful : Lawful dryRun catalog? event sent) (mode : dryRun = .client) :
    ∀ r ∈ sent, r.method = "GET" := by
  cases lawful with
  | reads all => exact all
  | changes all change => exact absurd mode change.mode

/-- A journal goes on with the requests of one more event. -/
theorem Journal.snoc (journal : Journal dryRun s t trace entries)
    (requests : u.requests = t.requests ++ sent)
    (known : ∀ c, t.catalog? = some c → u.catalog? = some c)
    (lawful : Lawful dryRun u.catalog? event sent) :
    Journal dryRun s u (trace ++ [event]) (entries ++ [(event, sent)]) := by
  refine ⟨?_, ?_, fun entry member => ?_⟩
  · rw [List.map_append, journal.events]
    rfl
  · rw [requests, journal.requests, List.flatMap_append, List.append_assoc]
    simp
  · rcases List.mem_append.mp member with earlier | last
    · exact (journal.lawful entry earlier).later known
    · obtain rfl := List.mem_singleton.mp last
      exact lawful

/-- A journal goes on with an event for which only reads are sent. -/
theorem Journal.snoc_of_reads (journal : Journal dryRun s t trace entries)
    (reads : t.Extends HttpRequest.Reads u) (event : Event) :
    ∃ entries', Journal dryRun s u (trace ++ [event]) entries' := by
  obtain ⟨⟨sent, requests, all⟩, known⟩ := reads
  exact ⟨_, journal.snoc requests known (.reads fun r member => (all r member).method)⟩

end Journals

/-- What a change is when it has been built for a path. -/
theorem Change.of_patchAt {dryRun : DryRun} {catalog? : Option Catalog} {h : Handle}
    {p : Procedure} {path : String} {kind : PatchKind} {body : Json} {r : HttpRequest}
    (registered : (h.gvk.group, h.gvk.kind) ∈ p.kinds) (found : p.path? h = some path)
    (mode : dryRun ≠ .client)
    (built : HttpRequest.patchAt path (dryRun == .server) kind body = some r)
    (supported : dryRun = .server → Supported catalog? h.gvk) : Change dryRun catalog? h r := by
  obtain ⟨location, located, rfl⟩ := Option.map_eq_some_iff.mp built
  refine ⟨rfl, mode, supported, p, path, registered, found, ?_, ?_, Location.path_of_read located⟩
  · rintro rfl uncut
    obtain ⟨query, same⟩ := Location.query_of_read located uncut
    simp [same]
  · rintro rfl unasked value member
    have params := Location.query_subset_of_read located unasked member
    cases params

theorem supported_of_checkDryRun {catalog : Catalog} {gvk : Gvk}
    (checked : catalog.checkDryRun gvk = .ok ()) : Supported (some catalog) gvk := by
  unfold Catalog.checkDryRun at checked
  split at checked
  · cases checked
  · next resource found =>
    split at checked
    · next patches => exact ⟨catalog, resource, rfl, found, patches⟩
    · cases checked

section OneCall

variable {server : Server σ} {console : Console σ} {format : OutputFormat} {dryRun : DryRun}
  {h : Handle} {w w' : Session σ}

theorem reads_verify {gvk : Gvk} {answer : Except Cause Unit}
    (answered : (server.collaborators console.write format dryRun).verify gvk w = (answer, w')) :
    w.Extends HttpRequest.Reads w' := by
  have reads := server.onlyReads_verify gvk w
  replace answered : server.verify gvk w = _ := answered
  rw [answered] at reads
  exact reads

theorem reads_print {description : String} {answer : Except Cause Unit}
    (answered : (server.collaborators console.write format dryRun).print h description w =
      (answer, w')) : w.Extends HttpRequest.Reads w' := by
  have quiet := (console.quiet (format.record dryRun h description)).weaken
    (fun r => False.elim (C := r.Reads)) w
  replace answered : console.write (format.record dryRun h description) w = _ := answered
  rw [answered] at quiet
  exact quiet

theorem known_of_strategy {strategy : Strategy (Session σ)} {selector : RevisionSelector}
    {answer : Except Cause String} {c : Catalog}
    (found : server.strategies.find? h.gvk.group h.gvk.kind = some strategy)
    (answered : strategy h selector dryRun w = (answer, w')) (known : w.catalog? = some c) :
    w'.catalog? = some c := by
  obtain ⟨p, _, rfl⟩ := server.procedure_of_find? found
  have sends := p.sends_strategy (h := h) server (fun _ _ _ _ _ => trivial)
    (fun _ _ _ _ _ _ _ => trivial) selector dryRun w
  rw [answered] at sends
  exact sends.known c known

end OneCall

/-- One rollback sends what is lawful for it. -/
theorem lawful_of_strategy {server : Server σ} {strategy : Strategy (Session σ)} {h : Handle}
    {selector : RevisionSelector} {dryRun : DryRun} {s t : Session σ}
    {answer : Except Cause String}
    (found : server.strategies.find? h.gvk.group h.gvk.kind = some strategy)
    (answered : strategy h selector dryRun s = (answer, t))
    (supported : dryRun = .server → Supported t.catalog? h.gvk) :
    ∃ sent, t.requests = s.requests ++ sent ∧ Lawful dryRun t.catalog? (.rollback h answer) sent := by
  obtain ⟨p, registered, rfl⟩ := server.procedure_of_find? found
  obtain ⟨reads, onlyReads, requests | ⟨path, kind, body, change, place, mode, built, requests⟩⟩ :=
    p.strategy_requests server h selector dryRun s
  · rw [answered] at requests
    exact ⟨reads, requests, .reads fun r member => (onlyReads r member).method⟩
  · rw [answered] at requests
    exact ⟨reads ++ [change], requests, .changes (fun r member => (onlyReads r member).method)
      (.of_patchAt registered place mode built supported)⟩

theorem journal_of_calls {server : Server σ} {console : Console σ} {format : OutputFormat}
    {o : Options} {s t : Session σ} {trace : List Event} {offered : List Handle}
    (calls : Calls (server.collaborators console.write format o.dryRun) o [] [] s trace offered t) :
    (∃ entries, Journal o.dryRun s t trace entries) ∧
      ∀ gvk, Event.verify gvk true ∈ trace → Supported t.catalog? gvk := by
  -- Only a confirmed type is new to the second half; the others keep what was known.
  have kept {trace : List Event} {t u : Session σ} {event : Event}
      (before : ∀ gvk, Event.verify gvk true ∈ trace → Supported t.catalog? gvk)
      (known : ∀ c, t.catalog? = some c → u.catalog? = some c)
      (last : ∀ gvk, event = .verify gvk true → Supported u.catalog? gvk) (gvk : Gvk)
      (member : Event.verify gvk true ∈ trace ++ [event]) : Supported u.catalog? gvk := by
    rcases List.mem_append.mp member with earlier | here
    · exact (before gvk earlier).later known
    · exact last gvk (List.mem_singleton.mp here).symm
  induction calls with
  | start => exact ⟨⟨[], rfl, (List.append_nil _).symm, nofun⟩, nofun⟩
  | @resolve _ _ w before request ih =>
    obtain ⟨⟨entries, journal⟩, supported⟩ := ih
    have reads := server.onlyReads_resolve request w
    exact ⟨journal.snoc_of_reads reads _, kept supported reads.known nofun⟩
  | @verify _ _ w _ gvk answer before mode answered ih =>
    obtain ⟨⟨entries, journal⟩, supported⟩ := ih
    have reads := reads_verify answered
    refine ⟨journal.snoc_of_reads reads _, kept supported reads.known fun gvk' same => ?_⟩
    obtain ⟨rfl, confirmed⟩ : gvk = gvk' ∧ answer.isOk = true := by simpa using same
    cases answer with
    | error cause => cases confirmed
    | ok _ =>
      obtain ⟨catalog, found, checked⟩ := server.verify_supported answered
      exact found ▸ supported_of_checkDryRun checked
  | @rollback _ _ w _ h strategy answer before member found checked answered ih =>
    obtain ⟨⟨entries, journal⟩, supported⟩ := ih
    have known (c : Catalog) := known_of_strategy (c := c) found answered
    have confirmed (mode : o.dryRun = .server) :=
      (supported h.gvk (List.mem_of_getLast? (checked mode))).later known
    obtain ⟨sent, requests, lawful⟩ := lawful_of_strategy found answered confirmed
    exact ⟨⟨_, journal.snoc requests known lawful⟩, kept supported known nofun⟩
  | @print _ _ w _ h description answer before answered ih =>
    obtain ⟨⟨entries, journal⟩, supported⟩ := ih
    have reads := reads_print answered
    exact ⟨journal.snoc_of_reads reads _, kept supported reads.known nofun⟩

/-- The requests of a run, event by event: at most one change for each rollback, none in a client dry
run, and in a server dry run only for types that the server lets be tried. -/
theorem Server.undo_journal (server : Server σ) (console : Console σ) (format : OutputFormat)
    (o : Options) (request : Request) (s : Session σ) :
    let ended := server.undo console.write format o request s
    ∃ entries, Journal o.dryRun s ended.world ended.trace entries ∧
      (o.dryRun = .client → ∀ r ∈ entries.flatMap Prod.snd, r.method = "GET") := by
  obtain ⟨offered, calls⟩ := run_calls (server.collaborators console.write format o.dryRun) o request s
  obtain ⟨⟨entries, journal⟩, -⟩ := journal_of_calls calls
  refine ⟨entries, journal, fun mode r member => ?_⟩
  obtain ⟨entry, listed, inside⟩ := List.mem_flatMap.mp member
  exact (journal.lawful entry listed).gets mode r inside

/-! A server with daemon sets in one namespace, each with one revision. It does not answer to changes. -/
namespace Daemons

def resource : Resource :=
  ⟨"apps", "v1", "DaemonSet", "daemonsets", "apps/v1", true, true, ["get", "list", "patch"]⟩

def daemonSet (name : String) : String :=
  "\x7b\"metadata\":\x7b\"name\":\"" ++ name ++ "\",\"namespace\":\"ns\",\"uid\":\"\"\x7d,"
    ++ "\"spec\":\x7b\"selector\":\x7b\"matchLabels\":\x7b\"a\":\"b\"\x7d\x7d\x7d\x7d"

def revisions : String :=
  "\x7b\"metadata\":\x7b\x7d,\"items\":[\x7b\"metadata\":\x7b"
    ++ "\"ownerReferences\":[\x7b\"controller\":true\x7d]\x7d,"
    ++ "\"revision\":1,\"data\":\x7b\"spec\":\x7b\"template\":\x7b\x7d\x7d\x7d\x7d]\x7d"

def revisionsPage : String × String := ("/apis/apps/v1/namespaces/ns/controllerrevisions", revisions)

def octets (text : String) : List UInt8 := text.toList.map fun c => c.toNat.toUInt8

/-- The server that has the pages, each a path and a document. -/
def server (pages : List (String × String)) : Server Unit where
  send r := pure <|
    if r.isPatch then .silence
    else
      match lookup r.location.path pages with
      | some text => .answer 200 (octets text)
      | none => .answer 404 []
  settings := .ofEnvironment []

def request (args : List Argument) : Request := ⟨"ns", false, args, [], false⟩

def ended (pages : List (String × String)) (resources : List Resource) (args : List Argument)
    (dryRun : DryRun) : Ended (Session Unit) :=
  (server pages).undo Console.session.write .name ⟨.exact 1, dryRun⟩ (request args)
    (.start () (some ⟨resources⟩) (.ofTree .empty [] []))

/-- The changes that are sent for the daemon set `d` when the server gives it another name. -/
def misnamed (name : String) (dryRun : DryRun) : List HttpRequest :=
  let pages := [("/apis/apps/v1/namespaces/ns/daemonsets/d", daemonSet name), revisionsPage]
  (ended pages [resource] [.typed "daemonset" (some "d")] dryRun).world.requests.filter
    HttpRequest.isPatch

end Daemons

/-- A hash sign in the name makes a rehearsal real, and a question mark a rollback a rehearsal. -/
theorem changes_misnamed :
    (∃ r, Daemons.misnamed "d#" .server = [r] ∧ ("dryRun", "All") ∉ r.location.query) ∧
      ∃ r, Daemons.misnamed "d?dryRun=All&" .none = [r] ∧ ("dryRun", "All") ∈ r.location.query := by
  have queries : (Daemons.misnamed "d#" .server).map (·.location.query) = [[]] ∧
      (Daemons.misnamed "d?dryRun=All&" .none).map (·.location.query) =
        [[("dryRun", "All"), ("?", "")]] := by decide +kernel
  obtain ⟨real, rehearsed⟩ := queries
  obtain ⟨r, sent, query⟩ := List.map_eq_singleton_iff.mp real
  obtain ⟨r', sent', query'⟩ := List.map_eq_singleton_iff.mp rehearsed
  exact ⟨⟨r, sent, by simp [query]⟩, r', sent', by simp [query']⟩

end Rollback
