import Rollback.Catalog.Basic
import Rollback.Manifest.Load
import Rollback.Server.Http
import Rollback.Text.Numeral

/-! A session with a server: every request that was sent is kept in order, and what the server serves
is asked for at most once. The environment of a run decides how long to wait for the server and how large a
manifest may be; a value that is not a number counts as missing. -/
namespace Rollback

abbrev Environment := List (String × String)

structure Settings where
  /-- How many seconds one request may take. -/
  timeout : Nat
  /-- The greatest size of a manifest in octets. -/
  manifestLimit : Nat
  deriving DecidableEq, Repr, Inhabited

namespace Settings

def timeoutVariable : String := "REWIND_REQUEST_TIMEOUT_SECS"

def limitVariable : String := "REWIND_MAX_MANIFEST_BYTES"

/-- Half a minute. -/
def defaultTimeout : Nat := 30

/-- Five million octets. -/
def defaultLimit : Nat := 5000000

/-- The settings that an environment gives. A timeout of zero counts as missing. -/
def ofEnvironment (env : Environment) : Settings :=
  { timeout := (((env.lookup timeoutVariable).bind Text.nat64?).filter (0 < ·)).getD defaultTimeout,
    manifestLimit := ((env.lookup limitVariable).bind Text.nat64?).getD defaultLimit }

end Settings

/-- How a server is reached. It may change the state `σ` of the world. -/
structure Server (σ : Type) where
  send : HttpRequest → StateM σ Reply
  settings : Settings

structure Session (σ : Type) where
  world : σ
  /-- What the server serves, once it has been asked. -/
  catalog? : Option Catalog
  /-- The requests that were sent, in order. -/
  requests : List HttpRequest
  /-- Where manifests are read from. -/
  manifests : Manifest.Source
  /-- What has been written for the user. -/
  output : String

namespace Session

variable {σ : Type}

def start (world : σ) (catalog? : Option Catalog) (manifests : Manifest.Source) : Session σ :=
  { world := world, catalog? := catalog?, requests := [], manifests := manifests, output := "" }

end Session

/-- Something done in a session that may fail. What has been sent and written before a failure stays
in the session. -/
abbrev Act (σ : Type) := ExceptT Cause (StateM (Session σ))

namespace Server

variable {σ : Type} (server : Server σ)

/-- Sends a request and waits for its reply, up to the deadline. A request without a location is not
sent. `what` says what the request is for. -/
def exchange (what : String) (request? : Option HttpRequest) : Act σ String :=
    ExceptT.mk fun session =>
  match request? with
  | none => (.error ⟨what, ["<kube error>"]⟩, session)
  | some request =>
    let (reply, world) := server.send request session.world
    let session := { session with world := world, requests := session.requests ++ [request] }
    let answer : Except Cause String := match reply with
      | .answer status body => (replyText status body).mapError (·.within what)
      | .silence => .error (.plain s!"{what}: timed out after {server.settings.timeout}s")
      | .unreachable cause => .error (cause.within what)
    (answer, session)

/-- The document that a request brings, in the form that is expected. -/
def fetch {α : Type} (what : String) (request? : Option HttpRequest) (read? : Json → Option α) :
    Act σ α := do
  let text ← server.exchange what request?
  match readBody read? text with
  | .ok v => pure v
  | .error cause => throw (cause.within what)

end Server

end Rollback
