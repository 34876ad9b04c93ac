import Rollback.Proofs.History.Annotations
import Rollback.Proofs.Strategy.Ownership

/-! Going back to a replica set, and then once more: the change brings the template of the replica set
and its annotations, but for those that a deployment keeps; once they stand in place of the old ones,
another rollback has nothing to do. -/
namespace Rollback

open Api Json

namespace DeploymentRollback

theorem withoutMember_replacing {v : Json} (absent : v.get? "$patch" = none) :
    Template.withoutMember "$patch" (replacing v) = v := by
  cases v with
  | object members =>
    exact congrArg Json.object ((erase_insert _ _ _).trans (erase_of_lookup absent))
  | _ => rfl

theorem withoutMember_replacing_texts (entries : Annotations.Map) :
    Template.withoutMember "$patch" (replacing (.ofTexts entries)) =
      .ofTexts (erase "$patch" entries) :=
  congrArg Json.object ((erase_insert _ _ _).trans List.filter_map)

theorem get?_mark_replacing {v : Json} (value : v.isObject = true) :
    (replacing v).get? "$patch" = some (.string "replace") := by
  obtain ⟨members, rfl⟩ := object_of_isObject value
  exact (lookup_insert _ _ _ _).trans (if_pos rfl)

theorem at?_template_patch (template : Json) (annotations : Annotations.Map) :
    (patch template annotations).at? ["spec", "template"] = some (replacing template) := rfl

theorem at?_annotations_patch (template : Json) (annotations : Annotations.Map) :
    (patch template annotations).at? ["metadata", "annotations"] =
      some (replacing (.ofTexts annotations)) := rfl

theorem at?_annotation_patch (template : Json) (annotations : Annotations.Map) {key : String}
    (other : key ≠ "$patch") :
    (patch template annotations).at? ["metadata", "annotations", key] =
      (lookup key annotations).map .string := by
  have inside : (patch template annotations).at? ["metadata", "annotations", key] =
      (replacing (.ofTexts annotations)).get? key := at?_singleton key _
  rw [inside, ← lookup_map_string]
  exact (lookup_insert _ _ _ _).trans (if_neg other.symm)

end DeploymentRollback

/-- The value that a body brings to a path, without the mark that it replaces what is there. -/
def Json.brought (body : Json) (path : List String) : Json :=
  Template.withoutMember "$patch" ((body.at? path).getD .null)

/-- The workload on which a body's annotations and its template have replaced the old ones as a
whole. -/
def Handle.replacedBy (h : Handle) (body : Json) : Handle :=
  let annotated := h.object.put ["metadata", "annotations"] (body.brought ["metadata", "annotations"])
  { h with object := annotated.put ["spec", "template"] (body.brought ["spec", "template"]) }

namespace DeploymentRollback

variable {h : Handle} {d : Ready} {template : Json} {texts : Annotations.Map}

/-- A deployment remains one that can be rolled back, with the template and the annotations that a
change brings. -/
theorem ready_replacedBy (found : ready h = .ok d)
    (self : PodTemplate.schema.read template = some template) :
    ready (h.replacedBy (patch template texts)) = .ok { d with
      spec := { d.spec with template := template }
      annotations := erase "$patch" texts } := by
  obtain ⟨deployment, read, name, placed, known, wanted, running, _⟩ := ready_eq_ok.mp found
  have unmarked : template.get? "$patch" = none := PodTemplate.get?_of_read self (by decide)
  have object : (h.replacedBy (patch template texts)).object =
      (h.object.put ["metadata", "annotations"] (.ofTexts (erase "$patch" texts))).put
        ["spec", "template"] template := by
    simp only [Handle.replacedBy, brought, at?_template_patch, at?_annotations_patch, Option.getD_some,
      withoutMember_replacing unmarked, withoutMember_replacing_texts]
  -- Each value is read again at its place; everything else of the deployment was read before.
  have annotated := Deployment.ofJson?_put_annotations read known (erase "$patch" texts)
  have reread := Deployment.ofJson?_put_template annotated wanted self
  rw [← object] at reread
  exact ready_eq_ok.mpr ⟨_, reread, name, placed, known, rfl, running, rfl⟩

theorem query_of_ready (found : ready h = .ok d) :
    query h = (do
      let labels ← d.spec.selector.render.mapError fun fault => Cause.plain fault.message
      pure (HttpRequest.listAt (appsPath "replicasets" d.ns) (some labels))) := by
  rw [query, found]
  rfl

variable {σ : Type} {server : Server σ} {selector : RevisionSelector} {s : Session σ}

/-- The replica set that a deployment goes back to, in the list that the server answers. -/
structure Selection (server : Server σ) (h : Handle) (selector : RevisionSelector) (s : Session σ) where
  request : HttpRequest
  document : Json
  items : List ReplicaSet
  deployment : Ready
  number : Int
  replicaSet : ReplicaSet
  /-- The document of the replica set. -/
  source : Json
  /-- The template in that document. -/
  given : Json
  /-- The template as it was read. -/
  stored : Json
  asks : query h = .ok (some request)
  answered : (server.send request s.world).1.document? = some document
  read : readList ReplicaSet.ofJson? document = some items
  ready : ready h = .ok deployment
  selected : (history items deployment.uid).select selector = .ok (number, replicaSet)
  listed : ∃ sources, listItems? document = some sources ∧ source ∈ sources
  isReplicaSet : ReplicaSet.ofJson? source = some replicaSet
  isGiven : source.at? ["spec", "template"] = some given
  isStored : PodTemplate.schema.read given = some stored
  holds : replicaSet.template? = some stored

namespace Selection

variable (c : Selection server h selector s)

def annotations : Annotations.Map :=
  Annotations.rolledBack c.deployment.annotations c.replicaSet.metadata.annotations

def body : Json := patch (Template.withoutHash c.stored) c.annotations

def choice : Choice :=
  ⟨c.number, c.deployment.spec.template, Template.withoutHash c.stored, .strategic, c.deployment.path,
    c.body⟩

/-- The choice once the change has been made. -/
def settled : Choice := { c.choice with live := Template.withoutHash c.stored }

theorem decision_settled : c.settled.decision = .skip c.number :=
  if_pos (same_refl (Template.withoutHash (Template.withoutHash c.stored)))

theorem owned : Owned h c.replicaSet ∧ revision? c.replicaSet = some c.number := by
  obtain ⟨_, controlled, numbered⟩ := mem_history.mp (History.mem_of_select c.selected)
  exact ⟨⟨⟨c.deployment.uid, uid_of_ready c.ready, controlled⟩, by rw [numbered]; rfl⟩, numbered⟩

theorem sorted_source : c.source.Sorted := by
  obtain ⟨sources, listed, member⟩ := c.listed
  exact sorted_of_listItems (Reply.sorted_of_document? c.answered) listed member

theorem keysIncrease_annotations : KeysIncrease c.replicaSet.metadata.annotations := by
  obtain ⟨record, shaped, isRecord⟩ := Option.map_eq_some_iff.mp c.isReplicaSet
  rw [← isRecord]
  exact Api.keysIncrease_annotations ReplicaSet.unique_fields shaped c.sorted_source

theorem unmarked_template : (Template.withoutHash c.stored).get? "$patch" = none :=
  (Template.get?_withoutHash _ _ (by decide)).trans (PodTemplate.get?_of_read c.isStored (by decide))

theorem isObject_template : (Template.withoutHash c.stored).isObject = true := by
  obtain ⟨_, _, _, _, isObject⟩ := Schema.read_record c.isStored
  rw [isObject]
  rfl

/-- What a body brings to go back to the replica set: its template without the label, the
deployment's values of its own annotations, and the replica set's values of all others. Both say that
they replace what is there as a whole. -/
structure Reinstates (c : Selection server h selector s) (body : Json) : Prop where
  annotationsMark : body.at? ["metadata", "annotations", "$patch"] = some (.string "replace")
  templateMark : body.at? ["spec", "template", "$patch"] = some (.string "replace")
  template : (body.at? ["spec", "template"]).map (Template.withoutMember "$patch") =
    some (Template.withoutHash c.stored)
  annotation : ∀ key, key ≠ "$patch" → body.at? ["metadata", "annotations", key] =
    if key ∈ Annotations.own then h.object.at? ["metadata", "annotations", key]
    else c.source.at? ["metadata", "annotations", key]

theorem reinstates : c.Reinstates c.body where
  annotationsMark := (at?_singleton "$patch" _).trans (get?_mark_replacing rfl)
  templateMark := (at?_singleton "$patch" _).trans (get?_mark_replacing c.isObject_template)
  template := by
    rw [body, at?_template_patch, Option.map_some, withoutMember_replacing c.unmarked_template]
  annotation key other := by
    -- Both maps are looked up in the documents that they were read from.
    obtain ⟨deployment, readDeployment, _, _, _, _, _, current⟩ := ready_eq_ok.mp c.ready
    obtain ⟨record, shaped, isRecord⟩ := Option.map_eq_some_iff.mp c.isReplicaSet
    have earlier := at?_annotations ReplicaSet.unique_fields shaped key
    rw [body, at?_annotation_patch _ _ other, annotations,
      Annotations.lookup_rolledBack _ c.keysIncrease_annotations, ← earlier, ← isRecord,
      ← Deployment.annotations_of_ofJson? readDeployment, ← current]
    split <;> rfl

variable {c}

theorem ready_again (self : PodTemplate.schema.read c.stored = some c.stored) :
    DeploymentRollback.ready (h.replacedBy c.body) = .ok { c.deployment with
      spec := { c.deployment.spec with template := Template.withoutHash c.stored }
      annotations := erase "$patch" c.annotations } :=
  ready_replacedBy c.ready (PodTemplate.read_withoutHash self)

theorem query_again (self : PodTemplate.schema.read c.stored = some c.stored) :
    query (h.replacedBy c.body) = .ok (some c.request) := by
  rw [query_of_ready (ready_again self), ← c.asks, query_of_ready c.ready]

theorem annotations_again :
    Annotations.rolledBack (erase "$patch" c.annotations) c.replicaSet.metadata.annotations =
      c.annotations :=
  Annotations.rolledBack_rolledBack _ c.keysIncrease_annotations (by decide)

/-- The revision is chosen again, and its template is there. -/
theorem choice_again (self : PodTemplate.schema.read c.stored = some c.stored)
    {again : RevisionSelector} (same : again = selector ∨ again = .exact c.number) :
    DeploymentRollback.choice (h.replacedBy c.body) again c.items = .ok c.settled := by
  have selected : (history c.items c.deployment.uid).select again = .ok (c.number, c.replicaSet) := by
    rcases same with rfl | rfl
    · exact c.selected
    · exact History.select_exact_of_select c.selected
  refine choice_eq_ok.mpr ⟨_, c.number, c.replicaSet, Template.withoutHash c.stored, ready_again self,
    choose_eq_ok.mpr ⟨selected, by rw [c.holds]; rfl⟩, ?_⟩
  rw [annotations_again]
  rfl

end Selection

theorem selection_of_choice {r : HttpRequest} {document : Json} {items : List ReplicaSet} {c : Choice}
    (asked : query h = .ok (some r)) (given : (server.send r s.world).1.document? = some document)
    (read : readList ReplicaSet.ofJson? document = some items)
    (chosen : choice h selector items = .ok c) :
    ∃ selection : Selection server h selector s, selection.request = r ∧ selection.choice = c := by
  obtain ⟨d, number, rs, wanted, found, chose, rfl⟩ := choice_eq_ok.mp chosen
  obtain ⟨selected, template⟩ := choose_eq_ok.mp chose
  obtain ⟨stored, holds, rfl⟩ := Option.map_eq_some_iff.mp template
  obtain ⟨listed, _⟩ := mem_history.mp (History.mem_of_select selected)
  obtain ⟨sources, source, isList, member, isReplicaSet⟩ := source_of_readList read listed
  obtain ⟨inside, isGiven, isStored⟩ := ReplicaSet.template_read isReplicaSet holds
  exact ⟨⟨r, document, items, d, number, rs, source, inside, stored, asked, given, read, found, selected,
    ⟨sources, isList, member⟩, isReplicaSet, isGiven, isStored, holds⟩, rfl, rfl⟩

/-- When a deployment is changed to go back to a replica set, the change brings what it needs for that.
Once its template and its annotations stand in place of the old ones as a whole, another rollback to
the revision with the same history has nothing to do, and the same annotations come out for it. -/
theorem replacement_converges (server : Server σ) {dryRun : DryRun} {more : List HttpRequest}
    (requests : (strategy server h selector dryRun s).2.requests = s.requests ++ more)
    {change : HttpRequest} (sent : change ∈ more) {kind : PatchKind} {body : Json}
    (patch : change.patch? = some (kind, body)) :
    ∃ c : Selection server h selector s, more = [c.request, change] ∧ kind = .strategic ∧
      Owned h c.replicaSet ∧ revision? c.replicaSet = some c.number ∧ body = c.body ∧
        c.Reinstates body ∧ (PodTemplate.schema.read c.stored = some c.stored →
          (∃ again, ready (h.replacedBy body) = .ok again ∧
            Annotations.rolledBack again.annotations c.replicaSet.metadata.annotations =
              c.annotations) ∧
            ∀ again, again = selector ∨ again = .exact c.number → ∀ later : Session σ,
              (server.send c.request later.world).1 = (server.send c.request s.world).1 → ∀ dryRun',
                let rerun := strategy server (h.replacedBy body) again dryRun' later
                rerun.1 = .ok (Template.skipped c.number) ∧
                  rerun.2.requests = later.requests ++ [c.request]) := by
  obtain ⟨r, document, items, c, asked, given, read, chosen, -, rfl, rfl, mode, built, rfl⟩ :=
    Procedure.choice_of_change (p := .replicaSets) requests sent patch
  obtain ⟨selection, rfl, rfl⟩ := selection_of_choice asked given read chosen
  refine ⟨selection, rfl, rfl, selection.owned.1, selection.owned.2, rfl, selection.reinstates,
    fun self => ⟨?_, ?_⟩⟩
  · exact ⟨_, Selection.ready_again self, Selection.annotations_again⟩
  · intro again same later unchanged dryRun' rerun
    have given' : (server.send selection.request later.world).1.document? = some selection.document := by
      rw [unchanged, selection.answered]
    have run := Procedure.strategy_of_choice (p := .replicaSets) (Selection.query_again self) given'
      selection.read (Selection.choice_again self same) dryRun'
    rw [selection.decision_settled] at run
    rw [show rerun = _ from run]
    exact ⟨rfl, rfl⟩

end DeploymentRollback

/-! A deployment on a server that has one replica set of it and does not answer to changes. -/
namespace Reinstated

def template (labels : List (String × String)) : Json :=
  .object [("metadata", .object [("labels", .ofTexts labels)])]

def deployment : Handle :=
  { gvk := ⟨"apps", "v1", "Deployment"⟩, ns? := some "ns", name := "web",
    object := .object
      [("metadata", .object [("annotations", .ofTexts
            [("deployment.kubernetes.io/revision", "2"), ("note", "new")]),
          ("name", .string "web"), ("namespace", .string "ns"), ("uid", .string "u")]),
        ("spec", .object [("selector", .object [("matchLabels", .ofTexts [("a", "b")])]),
          ("template", template [("tier", "new")])])] }

def text : List String :=
  ["\x7b\"metadata\":", "\x7b\"annot", "ations\":", "\x7b\"deployment", ".kubernetes.io", "/revision\":",
    "\"1\",", "\"note\":", "\"old\"\x7d,", "\"owner", "References\":", "[\x7b\"uid\":\"u\",",
    "\"controller\"", ":true\x7d]\x7d,", "\"spec\":", "\x7b\"template\":", "\x7b\"metadata\":",
    "\x7b\"labels\":", "\x7b\"pod-", "template-", "hash\":\"x\",", "\"tier\":", "\"old\"",
    "\x7d\x7d\x7d\x7d\x7d"]

def stored : Json := template [("pod-template-hash", "x"), ("tier", "old")]

def replicaSet : Json := .object
  [("metadata", .object [("annotations", .ofTexts
        [("deployment.kubernetes.io/revision", "1"), ("note", "old")]),
      ("ownerReferences", .array [.object [("controller", .bool true), ("uid", .string "u")]])]),
    ("spec", .object [("template", stored)])]

def server : Server Unit := Listings.server text

def body : Json := .object
  [("metadata", .object [("annotations", .ofTexts
      [("$patch", "replace"), ("deployment.kubernetes.io/revision", "2"), ("note", "old")])]),
    ("spec", .object [("template", .object [("$patch", .string "replace"),
      ("metadata", .object [("labels", .ofTexts [("tier", "old")])])])])]

def run (h : Handle) : Except Cause String × Session Unit :=
  DeploymentRollback.strategy server h (.exact 1) .none Rehearsal.session

def document : Json := .object [("items", .array [replicaSet]), ("metadata", .object [])]

theorem read_stored : PodTemplate.schema.read stored = some stored := by decide +kernel

theorem document_page :
    (Text.decode (Listings.page text)).toOption.bind Json.ofChars? = some document := by
  decide +kernel

theorem choice_document :
    (readList ReplicaSet.ofJson? document).map (fun items =>
      (DeploymentRollback.choice deployment (.exact 1) items).map fun c =>
        (c.number, Template.agree c.live c.template, c.kind, c.path, c.body)) =
      some (.ok (1, false, .strategic, "/apis/apps/v1/namespaces/ns/deployments/web", body)) := by
  decide +kernel

theorem document_of_query {r : HttpRequest} (asked : DeploymentRollback.query deployment = .ok (some r)) :
    (server.send r Rehearsal.session.world).1.document? = some document :=
  Listings.document_of_page (DeploymentRollback.reads_of_query asked) document_page _

theorem sends_body : ∃ r change, (run deployment).2.requests = [r, change] ∧
    change.patch? = some (.strategic, body) := by
  have query : ((DeploymentRollback.query deployment).toOption.bind id).isSome = true := by
    decide +kernel
  obtain ⟨r, asked⟩ : ∃ r, DeploymentRollback.query deployment = .ok (some r) := by
    cases asked : DeploymentRollback.query deployment with
    | error cause => simp [asked] at query
    | ok request? =>
      obtain ⟨r, rfl⟩ := Option.isSome_iff_exists.mp (by simpa [asked] using query)
      exact ⟨r, rfl⟩
  obtain ⟨items, read, choice⟩ := Option.map_eq_some_iff.mp choice_document
  cases chosen : DeploymentRollback.choice deployment (.exact 1) items with
  | error cause =>
    rw [chosen] at choice
    cases choice
  | ok c =>
    simp only [chosen, Except.map, Except.ok.injEq, Prod.mk.injEq] at choice
    obtain ⟨-, differs, kind, path, isBody⟩ := choice
    obtain ⟨change, built⟩ := HttpRequest.patchAt_of_location (DryRun.none == .server) c.kind c.body
      (show (Location.read (c.path ++ "?") []).isSome by rw [path]; decide +kernel)
    refine ⟨r, change, ?_, ?_⟩
    · have run := Procedure.strategy_of_choice (p := .replicaSets) asked (document_of_query asked) read
        chosen .none
      rw [Reinstated.run, show DeploymentRollback.strategy server deployment _ _ _ = _ from run]
      refine (Procedure.requests_of_differs differs ?_ built _).trans rfl
      decide
    · obtain ⟨location, _, rfl⟩ := Option.map_eq_some_iff.mp built
      rw [kind, isBody]

theorem stored_of_selection (c : DeploymentRollback.Selection server deployment (.exact 1)
    Rehearsal.session) : c.stored = stored := by
  have isDocument := Option.some.inj (c.answered.symm.trans (document_of_query c.asks))
  obtain ⟨sources, listed, member⟩ := c.listed
  rw [isDocument] at listed
  obtain rfl : [replicaSet] = sources := Option.some.inj listed
  have given := c.isGiven
  rw [List.mem_singleton.mp member] at given
  obtain isGiven : stored = c.given := Option.some.inj given
  have isStored := c.isStored
  rw [← isGiven, read_stored] at isStored
  exact (Option.some.inj isStored).symm

end Reinstated

theorem replacement_converges_reinstated :
    ∃ change ∈ (Reinstated.run Reinstated.deployment).2.requests,
      change.patch? = some (.strategic, Reinstated.body) ∧
        ∃ c : DeploymentRollback.Selection Reinstated.server Reinstated.deployment (.exact 1)
            Rehearsal.session, PodTemplate.schema.read c.stored = some c.stored ∧
          let rerun := Reinstated.run (Reinstated.deployment.replacedBy Reinstated.body)
          rerun.1 = .ok (Template.skipped c.number) ∧ rerun.2.requests = [c.request] := by
  obtain ⟨r, change, sends, patch⟩ := Reinstated.sends_body
  have sent : change ∈ [r, change] := List.mem_cons_of_mem _ List.mem_cons_self
  have requests : (DeploymentRollback.strategy Reinstated.server Reinstated.deployment (.exact 1) .none
      Rehearsal.session).2.requests = Rehearsal.session.requests ++ [r, change] := by
    rw [← Reinstated.run, sends]
    rfl
  obtain ⟨c, _, _, _, _, _, _, settles⟩ :=
    DeploymentRollback.replacement_converges Reinstated.server requests sent patch
  have self : PodTemplate.schema.read c.stored = some c.stored := by
    rw [Reinstated.stored_of_selection c]
    exact Reinstated.read_stored
  obtain ⟨done, asked⟩ := (settles self).2 (.exact 1) (.inl rfl) Rehearsal.session rfl .none
  refine ⟨change, ?_, patch, c, self, done, ?_⟩
  · rw [sends]
    exact sent
  · rw [Reinstated.run]
    exact asked.trans (List.nil_append _)

end Rollback
