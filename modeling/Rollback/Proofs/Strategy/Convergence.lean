import Rollback.Proofs.Strategy.Ownership

/-! Going back to a revision with a merge patch, and then once more: the workload that the patch leads to
has the template of the revision but for null members, and the second rollback has nothing to do just
when no null had to be put into the live template. -/
namespace Rollback

open Api Json

/-- The workload after a merge patch. -/
def Handle.merged (h : Handle) (body : Json) : Handle :=
  { h with object := applyPatch h.object body }

namespace RevisionRollback

variable {h : Handle} {selector : RevisionSelector}

/-- A merge patch to a template. -/
def templateChange (change : Json) : Json := .object [("spec", .object [("template", change)])]

theorem get?_applyPatch_single (target change : Json) (name key : String) :
    (applyPatch target (.object [(name, change)])).get? key =
      if name = key then applied (target.get? key) (some change) else target.get? key := by
  have sorted : KeysIncrease [(name, change)] := List.pairwise_singleton _ _
  rw [get?_applyPatch _ sorted]
  by_cases same : name = key
  · simp [lookup, same]
  · simp [lookup, same, applied]

theorem get?_merged (change : Json) {key : String} (other : "spec" ≠ key) :
    (h.merged (templateChange change)).object.get? key = h.object.get? key := by
  rw [Handle.merged, templateChange, get?_applyPatch_single, if_neg other]

theorem at?_spec_merged (change : Json) (key : String) :
    (h.merged (templateChange change)).object.at? ["spec", key] =
      if "template" = key then applied (h.object.at? ["spec", key]) (some change)
      else h.object.at? ["spec", key] := by
  have spec : (h.merged (templateChange change)).object.get? "spec" =
      some (applyPatch ((h.object.get? "spec").getD .null) (.object [("template", change)])) := by
    rw [Handle.merged, templateChange, get?_applyPatch_single, if_pos rfl]
    rfl
  have inner : ((h.object.get? "spec").getD .null).get? key = h.object.at? ["spec", key] := by
    rw [← at?_singleton, at?_getD (List.cons_ne_nil _ _), at?_cons]
  rw [at?_cons, spec, Option.bind_some, at?_singleton, get?_applyPatch_single, inner]

theorem coordinates_merged (change : Json) :
    coordinates (h.merged (templateChange change)).object = coordinates h.object := by
  have text (name : String) : (h.merged (templateChange change)).object.textAt? ["metadata", name] =
      h.object.textAt? ["metadata", name] := by
    rw [Json.textAt?, Json.textAt?, at?_cons, at?_cons, get?_merged change (by decide)]
  simp only [coordinates, text]

theorem query_merged (change : Json) : query (h.merged (templateChange change)) = query h := by
  have same (kind name : String) : selectorOf kind name (h.merged (templateChange change)).object =
      selectorOf kind name h.object := by
    rw [selectorOf, selectorOf, at?_spec_merged, if_neg (by decide)]
  simp only [query, coordinates_merged, same]
  rfl

theorem liveTemplate_merged (change : Json) :
    liveTemplate (h.merged (templateChange change)) = applyPatch (liveTemplate h) change := by
  rw [liveTemplate, liveTemplate, at?_spec_merged, if_pos rfl]
  cases null : change.isNull with
  | true =>
    obtain rfl := eq_null_of_isNull null
    rfl
  | false => simp [applied, null]

theorem sorted_liveTemplate (sorted : h.object.Sorted) : (liveTemplate h).Sorted :=
  sorted_getD fun _ held => sorted.of_at? held

theorem sorted_template_of_choice {kind : PatchKind} {document : Json}
    {items : List ControllerRevision} {c : Choice} (sorted : document.Sorted)
    (read : readList ControllerRevision.ofJson? document = some items)
    (made : choice kind h selector items = .ok c) : c.template.Sorted := by
  obtain ⟨place, chosen, _, chose, rfl⟩ := choice_eq_ok.mp made
  obtain ⟨revision, listed, hasData, stored, found, template⟩ := chosen_of_choose chose
  obtain ⟨v, sortedItem, readItem⟩ := mem_of_readList read sorted listed
  have data := ControllerRevision.sorted_data readItem sortedItem hasData
  exact template ▸ Template.sorted_withoutMember (data.of_at? found) "$patch"

/-- The choice after the merge patch is the same, for a workload with the patched template. -/
theorem choice_merged {items : List ControllerRevision} {c : Choice}
    (made : choice .merge h selector items = .ok c) :
    c.live = liveTemplate h ∧ c.body = templateChange (diff c.live c.template) ∧ c.kind = .merge ∧
      ∀ again, again = selector ∨ again = .exact c.number →
        choice .merge (h.merged c.body) again items = .ok { c with
          live := patched c.live c.template
          body := templateChange (diff (patched c.live c.template) c.template) } := by
  obtain ⟨place, chosen, found, chose, rfl⟩ := choice_eq_ok.mp made
  have again_chosen (again : RevisionSelector) (same : again = selector ∨ again = .exact chosen.number) :
      choose items place.uid again = .ok chosen := by
    obtain ⟨r, selected, data, template⟩ := choose_eq_ok.mp chose
    rcases same with rfl | rfl
    · exact chose
    · exact choose_eq_ok.mpr ⟨r, History.select_exact_of_select selected, data, template⟩
  refine ⟨rfl, rfl, rfl, fun again same => choice_eq_ok.mpr
    ⟨place, chosen, ?_, again_chosen again same, ?_⟩⟩
  · exact (coordinates_merged _).trans found
  · have live : liveTemplate (h.merged (templateChange (diff (liveTemplate h) chosen.template))) =
        patched (liveTemplate h) chosen.template := liveTemplate_merged _
    have body : patch .merge (liveTemplate h) chosen =
        templateChange (diff (liveTemplate h) chosen.template) := rfl
    simp only [body, live]
    rfl

end RevisionRollback

theorem HttpRequest.location_of_patchAt {path : String} {tryOnly : Bool} {kind : PatchKind}
    {body : Json} {r : HttpRequest} (built : HttpRequest.patchAt path tryOnly kind body = some r) :
    (Location.read (path ++ "?") []).isSome := by
  obtain ⟨location, found, _⟩ := Option.map_eq_some_iff.mp built
  rw [← Location.isSome_read _ (if tryOnly then [("dryRun", "All")] else []), found]
  rfl

namespace Procedure

variable {σ : Type}

/-- What a rollback does that has a template to restore. -/
theorem unsettled_of_carryOut (p : Procedure) (server : Server σ) (c : Choice)
    (differs : Template.agree c.live c.template = false)
    (located : (Location.read (c.path ++ "?") []).isSome) (dryRun : DryRun) (t : Session σ)
    (number : Int) :
    ((p.carryOut server dryRun c.decision).run t).1 ≠ .ok (Template.skipped number) ∧
      (dryRun ≠ .client → ∃ change, ¬ change.Reads ∧
        ((p.carryOut server dryRun c.decision).run t).2.requests = t.requests ++ [change]) := by
  have decision : c.decision = .restore c.template c.kind c.path c.body :=
    if_neg (by simp [differs])
  by_cases mode : dryRun = .client
  · subst mode
    rw [decision]
    have shown : ((p.carryOut server .client (.restore c.template c.kind c.path c.body)).run t).1 =
        .ok (Yaml.render c.template) := by cases p <;> rfl
    refine ⟨fun same => ?_, fun other => absurd rfl other⟩
    rw [shown] at same
    exact Template.render_ne_skipped _ _ (Except.ok.inj same)
  · refine ⟨fun same => ?_, fun _ => ?_⟩
    · rw [decision] at same
      have text := text_of_carryOut mode (Prod.ext same rfl)
      exact Template.rolledBack_ne_skipped number text.symm
    · obtain ⟨change, built⟩ := HttpRequest.patchAt_of_location (dryRun == .server) c.kind c.body
        located
      exact ⟨change, HttpRequest.not_reads_of_patchAt built, requests_of_differs differs mode built t⟩

/-- How another rollback to the revision ends. It has nothing to do when the nulls of the template stay,
and else it sends a change again. -/
structure Rerun (stay : Prop) (asked : HttpRequest) (number : Int) (dryRun : DryRun) (later : Session σ)
    (run : Except Cause String × Session σ) : Prop where
  skipped : stay → run.1 = .ok (Template.skipped number)
  quiet : stay → run.2.requests = later.requests ++ [asked]
  unskipped : ¬ stay → run.1 ≠ .ok (Template.skipped number)
  changed : ¬ stay → dryRun ≠ .client →
    ∃ change, ¬ change.Reads ∧ run.2.requests = later.requests ++ [asked, change]

/-- What the merge patch to go back to a revision leads to, and every other rollback to the revision with
the same history. -/
structure Converges (server : Server σ) (h : Handle) (selector : RevisionSelector) (s : Session σ)
    (body : Json) (asked : HttpRequest) (number : Int) (template : Json) : Prop where
  offered : (revisions .merge).Offers server h s number template
  restored : Same (RevisionRollback.liveTemplate (h.merged body)).withoutNulls template.withoutNulls
  agrees_iff : Template.agree (RevisionRollback.liveTemplate (h.merged body)) template = true ↔
    Template.NullsStay (RevisionRollback.liveTemplate h) template
  rerun (again : RevisionSelector) (same : again = selector ∨ again = .exact number) (later : Session σ)
    (unchanged : (server.send asked later.world).1 = (server.send asked s.world).1) (dryRun : DryRun) :
    Rerun (Template.NullsStay (RevisionRollback.liveTemplate h) template) asked number dryRun later
      ((revisions .merge).strategy server (h.merged body) again dryRun later)

/-- When a custom workload is changed to go back to a revision, the patch leads to the template of the
revision but for null members. It agrees with that of the revision just when no null had to be put
into the live template; then another rollback to the revision, with the same history, has nothing to
do, and otherwise every other one sends a change again. -/
theorem merge_converges (server : Server σ) {h : Handle} (sorted : h.object.Sorted)
    {selector : RevisionSelector} {dryRun : DryRun} {s : Session σ} {more : List HttpRequest}
    (requests : ((revisions .merge).strategy server h selector dryRun s).2.requests =
      s.requests ++ more)
    {change : HttpRequest} (sent : change ∈ more) {kind : PatchKind} {body : Json}
    (patch : change.patch? = some (kind, body)) :
    ∃ asked number template, more = [asked, change] ∧
      Converges server h selector s body asked number template := by
  obtain ⟨r, document, items, c, asked, given, read, chosen, -, rfl, rfl, mode, built, rfl⟩ :=
    choice_of_change requests sent patch
  obtain ⟨live, isChange, isMerge, again_chosen⟩ := RevisionRollback.choice_merged chosen
  have leads : RevisionRollback.liveTemplate (h.merged c.body) = patched c.live c.template := by
    rw [isChange, RevisionRollback.liveTemplate_merged, ← live]
    rfl
  have left : c.live.Sorted := live ▸ RevisionRollback.sorted_liveTemplate sorted
  have right : c.template.Sorted :=
    RevisionRollback.sorted_template_of_choice (Reply.sorted_of_document? given) read chosen
  have settles := Template.agree_patched_iff left right
  refine ⟨r, c.number, c.template, rfl, offers_of_choice asked given read chosen, ?_, ?_,
    fun again same later unchanged dryRun' => ?_⟩
  · rw [leads]
    exact same_applyPatch_diff _ _ left right
  · rw [leads, ← live]
    exact settles
  · have asked' : (revisions .merge).query (h.merged c.body) = .ok (some r) := by
      rw [isChange]
      exact (RevisionRollback.query_merged _).trans asked
    have given' : (server.send r later.world).1.document? = some document := by rw [unchanged, given]
    -- The second rollback compares the patched template, so that the nulls decide what it does.
    rw [strategy_of_choice asked' given' read (again_chosen again same) dryRun', ← live]
    by_cases stay : Template.NullsStay c.live c.template
    · rw [Choice.decision, if_pos (settles.mpr stay)]
      exact ⟨fun _ => rfl, fun _ => rfl, fun unsettled => absurd stay unsettled,
        fun unsettled => absurd stay unsettled⟩
    · have differs : Template.agree (patched c.live c.template) c.template = false :=
        Bool.eq_false_iff.mpr fun agrees => stay (settles.mp agrees)
      obtain ⟨other, changes⟩ := unsettled_of_carryOut (revisions .merge) server
        { c with
          live := patched c.live c.template
          body := RevisionRollback.templateChange (diff (patched c.live c.template) c.template) }
        differs (HttpRequest.location_of_patchAt built) dryRun'
        (later.sent r (server.send r later.world).2) c.number
      refine ⟨fun settled => absurd settled stay, fun settled => absurd settled stay, fun _ => other,
        fun _ mode => ?_⟩
      obtain ⟨change', isChange', requests'⟩ := changes mode
      exact ⟨change', isChange', by rw [requests', Session.sent, List.append_assoc]; rfl⟩

end Procedure

/-! A daemon set on servers that have one revision of it. -/
namespace Revisited

def run (server : Server Unit) (h : Handle) : Except Cause String × Session Unit :=
  (Procedure.revisions .merge).strategy server h (.exact 1) .none Rehearsal.session

def bodies (t : Session Unit) : List Json :=
  t.requests.filterMap fun r => r.patch?.map (·.2)

def plain : Server Unit := Listings.server (Listings.text "u"
  ["\x7b\"spec\":", "\x7b\"image\":", "\"old\"\x7d\x7d"])

/-- A revision whose template has a null where the live one has nothing. -/
def nulls : Server Unit := Listings.server (Listings.text "u"
  ["\x7b\"metadata\":", "\x7b\"creation", "Timestamp\":", "null\x7d,", "\"spec\":", "\x7b\"image\":",
    "\"old\"\x7d\x7d"])

def stored : Json :=
  .object [("metadata", .object [("creationTimestamp", .null)]),
    ("spec", .object [("image", .string "old")])]

def body : Json := RevisionRollback.templateChange stored

/-- The daemon set after the first rollback on the server without nulls. -/
def restored : Handle :=
  Rehearsal.daemonSet.merged (RevisionRollback.templateChange (Rehearsal.template "old"))

theorem document_plain : (Text.decode (Listings.page (Listings.text "u"
    ["\x7b\"spec\":", "\x7b\"image\":", "\"old\"\x7d\x7d"]))).toOption.bind Json.ofChars? =
      some (.object [("items", .array [Listings.revision "u" (Rehearsal.template "old")]),
        ("metadata", .object [])]) := by decide +kernel

theorem offered_by_plain {s : Session Unit} {number : Int} {template : Json}
    (offered : (Procedure.revisions .merge).Offers plain Rehearsal.daemonSet s number template) :
    1 = number ∧ Rehearsal.template "old" = template := by
  obtain ⟨r, document, items, asked, given, listed, v, inside, item, source, -, kept, stored⟩ := offered
  rw [plain, Listings.document_of_page (Procedure.reads_of_query asked) document_plain] at given
  obtain rfl := Option.some.inj given
  obtain rfl : [Listings.revision "u" (Rehearsal.template "old")] = items := Option.some.inj listed
  obtain rfl := List.mem_singleton.mp inside
  have held : (ControllerRevision.ofJson? (Listings.revision "u" (Rehearsal.template "old"))).map
      (fun item => (item.revision, item.data?.bind Template.ofRevision?)) =
        some (1, some (Rehearsal.template "old")) := by decide +kernel
  obtain ⟨read, found, both⟩ := Option.map_eq_some_iff.mp held
  obtain rfl : read = item := Option.some.inj (found.symm.trans source)
  obtain ⟨first, second⟩ := Prod.ext_iff.mp both
  exact ⟨first.symm.trans kept, Option.some.inj (second.symm.trans stored)⟩

theorem nulls_stay : Template.NullsStay (RevisionRollback.liveTemplate Rehearsal.daemonSet)
    (Rehearsal.template "old") := by
  refine (Template.agree_patched_iff ?_ ?_).mp (by decide +kernel)
  · exact RevisionRollback.sorted_liveTemplate Rehearsal.sorted_daemonSet
  · simp [Rehearsal.template, Json.Sorted, Json.SortedMembers, KeysIncrease]

end Revisited

theorem merge_converges_revisited :
    Rehearsal.daemonSet.object.Sorted ∧
      ∃ change ∈ (Revisited.run Revisited.plain Rehearsal.daemonSet).2.requests,
        change.patch? = some (.merge, RevisionRollback.templateChange (Rehearsal.template "old")) ∧
          ∃ asked, (Revisited.run Revisited.plain Rehearsal.daemonSet).2.requests = [asked, change] ∧
            Procedure.Converges Revisited.plain Rehearsal.daemonSet (.exact 1) Rehearsal.session
              (RevisionRollback.templateChange (Rehearsal.template "old")) asked 1
              (Rehearsal.template "old") ∧
            (Revisited.run Revisited.plain Revisited.restored).1 = .ok (Template.skipped 1) := by
  have patches : (Revisited.run Revisited.plain Rehearsal.daemonSet).2.requests.map (·.patch?) =
      [none, some (.merge, RevisionRollback.templateChange (Rehearsal.template "old"))] := by
    decide +kernel
  obtain ⟨change, sent, patch⟩ : ∃ change ∈
      (Revisited.run Revisited.plain Rehearsal.daemonSet).2.requests, change.patch? =
        some (.merge, RevisionRollback.templateChange (Rehearsal.template "old")) := by
    refine List.mem_map.mp ?_
    rw [patches]
    exact List.mem_cons_of_mem _ List.mem_cons_self
  have requests : ((Procedure.revisions .merge).strategy Revisited.plain Rehearsal.daemonSet (.exact 1)
      .none Rehearsal.session).2.requests =
        Rehearsal.session.requests ++ (Revisited.run Revisited.plain Rehearsal.daemonSet).2.requests := by
    rw [Revisited.run]
    exact (List.nil_append _).symm
  obtain ⟨asked, number, template, both, converges⟩ :=
    Procedure.merge_converges Revisited.plain Rehearsal.sorted_daemonSet requests sent patch
  obtain ⟨rfl, rfl⟩ := Revisited.offered_by_plain converges.offered
  have rerun := converges.rerun (.exact 1) (.inl rfl) Rehearsal.session rfl .none
  exact ⟨Rehearsal.sorted_daemonSet, change, sent, patch, asked, both, converges,
    rerun.skipped Revisited.nulls_stay⟩

/-- A change that puts a null into a template leads to another template, and is sent by every rollback
once more. -/
theorem merge_unsettled :
    Revisited.bodies (Revisited.run Revisited.nulls Rehearsal.daemonSet).2 = [Revisited.body] ∧
      Template.agree (RevisionRollback.liveTemplate (Rehearsal.daemonSet.merged Revisited.body))
        Revisited.stored = false ∧
      Revisited.bodies (Revisited.run Revisited.nulls (Rehearsal.daemonSet.merged Revisited.body)).2 =
        [.object [("spec", .object [("template",
          .object [("metadata", .object [("creationTimestamp", .null)])])])]] := by decide +kernel

end Rollback
