import Rollback.Proofs.Json.Members
import Rollback.Proofs.Server.Sends
import Rollback.Proofs.Traversal

/-! What a request brings is decided by the reply to it: by its document, if it has one. -/
namespace Rollback

variable {σ α : Type}

def Reply.document? : Reply → Option Json
  | .answer status body => (replyText status body).toOption.bind Json.ofText?
  | _ => none

theorem Reply.document?_answer {status : Nat} (good : isErrorStatus status = false)
    (body : List UInt8) :
    (Reply.answer status body).document? = (Text.decode body).toOption.bind Json.ofChars? := by
  simp only [Reply.document?, replyText, bodyText, Text.decodeText, good]
  cases Text.decode body with
  | error fault => rfl
  | ok cs => simp [Json.ofText?]

theorem Reply.sorted_of_document? {reply : Reply} {document : Json}
    (given : reply.document? = some document) : document.Sorted := by
  cases reply with
  | answer status body =>
    obtain ⟨text, _, parsed⟩ := Option.bind_eq_some_iff.mp given
    exact Json.sorted_of_ofText? parsed
  | silence => cases given
  | unreachable cause => cases given

/-- The session after a request, when the world has become what is given. -/
def Session.sent (s : Session σ) (r : HttpRequest) (world : σ) : Session σ :=
  { s with world := world, requests := s.requests ++ [r] }

namespace Server

variable (server : Server σ) (what : String) (read? : Json → Option α) {reply : Reply}

def textOf : Reply → Except Cause String
  | .answer status body => (replyText status body).mapError fun cause => cause.within what
  | .silence => .error (.plain s!"{what}: timed out after {server.settings.timeout}s")
  | .unreachable cause => .error (cause.within what)

/-- What a reply brings for a request. -/
def brings (reply : Reply) : Except Cause α :=
  match server.textOf what reply with
  | .ok text => (readBody read? text).mapError fun cause => cause.within what
  | .error cause => .error cause

theorem run_fetch (r : HttpRequest) (s : Session σ) :
    (server.fetch what (some r) read?).run s =
      (server.brings what read? (server.send r s.world).1, s.sent r (server.send r s.world).2) := by
  have exchanged : (server.exchange what (some r)).run s =
      (server.textOf what (server.send r s.world).1, s.sent r (server.send r s.world).2) :=
    Prod.ext (server.exchange_fst what r s) rfl
  rw [fetch, run_bind_apply, exchanged, brings]
  cases received : server.textOf what (server.send r s.world).1 with
  | error cause => rfl
  | ok text =>
    dsimp only
    cases readBody read? text <;> rfl

variable {what read?}

/-- What is brought was read from the document of the reply. -/
theorem document_of_brings {v : α} (brought : server.brings what read? reply = .ok v) :
    ∃ document, reply.document? = some document ∧ read? document = some v := by
  cases reply with
  | answer status body =>
    cases received : replyText status body with
    | error cause =>
      simp only [brings, textOf, received, Except.mapError] at brought
      cases brought
    | ok text =>
      simp only [brings, textOf, received, Except.mapError, readBody] at brought
      cases parsed : (Json.ofText? text).bind read? with
      | none =>
        simp only [parsed] at brought
        cases brought
      | some w =>
        simp only [parsed] at brought
        cases brought
        obtain ⟨document, given, read⟩ := Option.bind_eq_some_iff.mp parsed
        exact ⟨document, by simp [Reply.document?, received, given], read⟩
  | silence => cases brought
  | unreachable cause => cases brought

/-- A reply with a document brings what is read from it. -/
theorem brings_of_document {document : Json} (given : reply.document? = some document) :
    server.brings what read? reply =
      match read? document with
      | some v => .ok v
      | none => .error (Cause.within what ⟨"Error deserializing response", [Json.faultMessage]⟩) := by
  cases reply with
  | answer status body =>
    obtain ⟨text, received, parsed⟩ := Option.bind_eq_some_iff.mp given
    cases decoded : replyText status body with
    | error cause => simp [decoded] at received
    | ok found =>
      obtain rfl : found = text := by simpa [decoded] using received
      simp only [brings, textOf, decoded, Except.mapError, readBody, parsed, Option.bind_some]
      cases read? document <;> rfl
  | silence => cases given
  | unreachable cause => cases given

end Server

end Rollback
