import Rollback.Proofs.Server.Location
import Rollback.Proofs.Strategy.Restores
import Rollback.Proofs.Yaml.Printer

/-! A client dry run is faithful: it fails and skips just when the other modes do, before anything has
been changed, and the template that it shows is the one that they send. -/
namespace Rollback

variable {σ : Type}

theorem HttpRequest.patchAt_of_location {path : String} (tryOnly : Bool) (kind : PatchKind)
    (body : Json) (located : (Location.read (path ++ "?") []).isSome) :
    ∃ request, HttpRequest.patchAt path tryOnly kind body = some request := by
  rw [← Location.isSome_read _ (if tryOnly then [("dryRun", "All")] else [])] at located
  obtain ⟨location, found⟩ := Option.isSome_iff_exists.mp located
  exact ⟨⟨location, some (kind, body)⟩, Option.map_eq_some_iff.mpr ⟨location, found, rfl⟩⟩

theorem Template.last_skipped (number : Int) : (skipped number).toList.getLast? = some ')' := by
  have ending : skipped number =
      "skipped rollback (current template already matches revision " ++ toString number ++ ")" := rfl
  rw [ending, String.toList_append, List.getLast?_append]
  rfl

theorem Template.render_ne_skipped (template : Json) (number : Int) :
    Yaml.render template ≠ skipped number := by
  intro same
  have ends := Yaml.last_render template ')' (same ▸ last_skipped number)
  exact absurd ends (by decide)

theorem Template.rolledBack_ne_skipped (number : Int) : rolledBack ≠ skipped number := by
  intro same
  have ends := same ▸ last_skipped number
  exact absurd ends (by decide)

namespace Procedure

theorem text_of_carryOut {p : Procedure} {server : Server σ} {dryRun : DryRun} {template : Json}
    {kind : PatchKind} {path : String} {body : Json} {s t : Session σ} {text : String}
    (mode : dryRun ≠ .client)
    (done : (p.carryOut server dryRun (.restore template kind path body)).run s = (.ok text, t)) :
    text = Template.rolledBack := by
  cases p <;>
  · simp only [carryOut, Decision.carryOut, if_neg mode] at done
    obtain ⟨_, _, _, last⟩ := ok_of_run_bind done
    cases last
    rfl

end Procedure

/-! A daemon set on a server that has one revision of it and does not answer to changes. -/
namespace Rehearsal

def template (image : String) : Json := .object [("spec", .object [("image", .string image)])]

def daemonSet : Handle :=
  { gvk := ⟨"apps.kruise.io", "v1alpha1", "DaemonSet"⟩, ns? := some "ns", name := "web",
    object := .object
      [("metadata", .object [("name", .string "web"), ("namespace", .string "ns"),
          ("uid", .string "u")]),
        ("spec", .object [("selector", .object [("matchLabels", .object [("a", .string "b")])]),
          ("template", template "new")])] }

def revisions : String :=
  "\x7b\"metadata\":\x7b\x7d,\"items\":[\x7b\"metadata\":\x7b"
    ++ "\"ownerReferences\":[\x7b\"apiVersion\":\"\",\"kind\":\"\",\"name\":\"\",\"uid\":\"u\",\"controller\":true\x7d]\x7d,\"revision\":1,"
    ++ "\"data\":\x7b\"spec\":\x7b\"template\":\x7b\"spec\":\x7b\"image\":\"old\"\x7d\x7d\x7d\x7d\x7d]\x7d"

def server : Server Unit where
  send request := pure (if request.isPatch then .silence
    else .answer 200 (revisions.toList.map fun c => c.toNat.toUInt8))
  settings := .ofEnvironment []

def session : Session Unit := .start () none (.ofTree .empty [] [])

def run (dryRun : DryRun) : Except Cause String × Session Unit :=
  (Procedure.revisions .merge).strategy server daemonSet (.exact 1) dryRun session

end Rehearsal

end Rollback
