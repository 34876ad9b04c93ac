import Rollback.Failure
import Rollback.Json.Printer
import Rollback.Json.Reader
import Rollback.Server.Location
import Rollback.Text.Utf8

/-! Requests to a server and its replies. -/
namespace Rollback

inductive PatchKind where
  /-- By the rules of each built-in type, with marks for what is replaced as a whole. -/
  | strategic
  /-- Member by member; null removes. -/
  | merge
  deriving DecidableEq, Repr, Inhabited

def PatchKind.contentType : PatchKind → String
  | .strategic => "application/strategic-merge-patch+json"
  | .merge => "application/merge-patch+json"

/-- A request to a server: it reads, or it changes the object at its location. -/
structure HttpRequest where
  location : Location
  patch? : Option (PatchKind × Json)
  deriving Repr, Inhabited

namespace HttpRequest

/-- The method: only changes have a document. -/
def method (r : HttpRequest) : String := if r.patch?.isSome then "PATCH" else "GET"

def isPatch (r : HttpRequest) : Bool := r.patch?.isSome

def getAt (path : String) : Option HttpRequest := (Location.read path []).map (⟨·, none⟩)

def listAt (path : String) (selector? : Option String) : Option HttpRequest :=
  let params := selector?.toList.map fun selector => ("labelSelector", selector)
  (Location.read (path ++ "?") params).map (⟨·, none⟩)

/-- Changes the object at a path, or only tries to. -/
def patchAt (path : String) (tryOnly : Bool) (kind : PatchKind) (body : Json) :
    Option HttpRequest :=
  let params := if tryOnly then [("dryRun", "All")] else []
  (Location.read (path ++ "?") params).map (⟨·, some (kind, body)⟩)

end HttpRequest

inductive Reply where
  | answer (status : Nat) (body : List UInt8)
  /-- Nothing, however long one waits. -/
  | silence
  /-- The server could not be reached. -/
  | unreachable (cause : Cause)
  deriving Repr, Inhabited

def statusNames : List (Nat × String) :=
  [(400, "Bad Request"), (401, "Unauthorized"), (402, "Payment Required"), (403, "Forbidden"),
    (404, "Not Found"), (405, "Method Not Allowed"), (406, "Not Acceptable"),
    (407, "Proxy Authentication Required"), (408, "Request Timeout"), (409, "Conflict"),
    (410, "Gone"), (411, "Length Required"), (412, "Precondition Failed"),
    (413, "Payload Too Large"), (414, "URI Too Long"), (415, "Unsupported Media Type"),
    (416, "Range Not Satisfiable"), (417, "Expectation Failed"), (418, "I'm a teapot"),
    (421, "Misdirected Request"), (422, "Unprocessable Entity"), (423, "Locked"),
    (424, "Failed Dependency"), (425, "Too Early"), (426, "Upgrade Required"),
    (428, "Precondition Required"), (429, "Too Many Requests"),
    (431, "Request Header Fields Too Large"), (451, "Unavailable For Legal Reasons"),
    (500, "Internal Server Error"), (501, "Not Implemented"), (502, "Bad Gateway"),
    (503, "Service Unavailable"), (504, "Gateway Timeout"), (505, "HTTP Version Not Supported"),
    (506, "Variant Also Negotiates"), (507, "Insufficient Storage"), (508, "Loop Detected"),
    (510, "Not Extended"), (511, "Network Authentication Required")]

def statusName (status : Nat) : String := (statusNames.lookup status).getD "<unknown status code>"

def isErrorStatus (status : Nat) : Bool := 400 ≤ status && status < 600

/-- What the server says of a request that failed. -/
structure ApiError where
  status : String
  message : String
  reason : String
  code : Nat
  deriving DecidableEq, Repr, Inhabited

namespace ApiError

/-- An error code of 16 bits. -/
def code? : Json → Option Nat
  | .integer n => if 0 ≤ n ∧ n ≤ Text.maxNat16 then some n.toNat else none
  | _ => none

/-- A text that may be missing but not of another type. -/
def textOr (missing : String) : Option Json → Option String
  | none => some missing
  | some (.string s) => some s
  | some _ => none

def ofJson? : Json → Option ApiError
  | .object members => do
    let status ← (lookup "status" members).bind Json.text?
    let message ← textOr "" (lookup "message" members)
    let reason ← textOr "" (lookup "reason" members)
    let code ← (lookup "code" members).bind code?
    some ⟨status, message, reason, code⟩
  | .array [.string status, .string message, .string reason, code] =>
    (code? code).map fun code => ⟨status, message, reason, code⟩
  | _ => none

/-- The error of a reply: what its body describes, or the body itself as a message. -/
def ofReply (status : Nat) (body : String) : ApiError :=
  match (Json.ofText? body).bind ofJson? with
  | some error => error
  | none =>
    { status := s!"{status} {statusName status}", message := Text.quote body,
      reason := "Failed to parse error data", code := status }

def summary (e : ApiError) : String := e.message ++ ": " ++ e.reason

/-- The error with all its parts, and then once more in short. -/
def cause (e : ApiError) : Cause :=
  let parts := "ErrorResponse \x7b status: " ++ Text.quote e.status ++ ", message: "
    ++ Text.quote e.message ++ ", reason: " ++ Text.quote e.reason ++ ", code: "
    ++ toString e.code ++ " \x7d"
  ⟨"ApiError: " ++ e.summary ++ " (" ++ parts ++ ")", [e.summary]⟩

end ApiError

def bodyText (body : List UInt8) : Except Cause String :=
  (Text.decodeText body).mapError fun fault =>
    ⟨"UTF-8 Error: " ++ fault.message, [fault.message]⟩

def replyText (status : Nat) (body : List UInt8) : Except Cause String :=
  match bodyText body with
  | .error cause => .error cause
  | .ok text =>
    if isErrorStatus status then .error (ApiError.ofReply status text).cause else .ok text

def readBody {α : Type} (read? : Json → Option α) (text : String) : Except Cause α :=
  match (Json.ofText? text).bind read? with
  | some v => .ok v
  | none => .error ⟨"Error deserializing response", [Json.faultMessage]⟩

end Rollback
