import Rollback.CommandLine.Command
import Rollback.CommandLine.Contexts
import Rollback.Strategy.Cluster

/-! Running a command: what it writes and the exit status that it ends with. Logs and metrics, which decide
nothing, are left out, and so is what the system writes when a run is aborted. -/
namespace Rollback

inductive Ending where
  /-- A text was asked for. -/
  | told (text : String)
  | misused (fault : UsageFault)
  /-- The request could not be carried out. -/
  | refused (cause : Cause)
  | unconnected (fault : ConnectFault)
  /-- A sum did not fit in 64 bits. -/
  | aborted
  /-- The request was carried out, with `output` written for its outcomes. -/
  | reported (output : String) (report : Report)

namespace Ending

/-- Zero when all went well, two when the command line cannot be understood, 101 when the program was
aborted, and one otherwise. -/
def status : Ending → Nat
  | .told _ => 0
  | .misused _ => 2
  | .refused _ | .unconnected _ => 1
  | .aborted => 101
  | .reported _ report => if report.isSuccess then 0 else 1

def output : Ending → String
  | .told text | .reported text _ => text
  | .misused _ | .refused _ | .unconnected _ | .aborted => ""

def complaint : Ending → String
  | .told _ => ""
  | .misused fault => "error: " ++ fault.message ++ "\n"
  | .refused cause => "error: " ++ cause.text ++ "\n"
  | .unconnected fault => "error: " ++ fault.message ++ "\n"
  | .aborted => Failure.overflow.message ++ "\n"
  | .reported _ report =>
    match report.result with
    | .ok _ => ""
    | .error failures => failures.text ++ "\n"

end Ending

structure Surroundings (σ : Type) where
  environment : Environment
  contexts : Contexts
  manifests : Manifest.Source
  /-- How the server of a context is reached. -/
  send : HttpRequest → StateM σ Reply

namespace Surroundings

variable {σ : Type} (around : Surroundings σ)

/-- The server, under the settings of the environment. -/
def server : Server σ := ⟨around.send, .ofEnvironment around.environment⟩

/-- Rolls back what the options name. Faults of the options come before those of the connection. -/
def undo (options : UndoOptions) (world : σ) : Ending :=
  let options := options.within around.environment
  match options.request Contexts.defaultNamespace with
  | .error fault => .refused fault.cause
  | .ok _ =>
    match around.contexts.select options.context? with
    | .error fault => .unconnected fault
    | .ok ns =>
      match options.request ns with
      | .error fault => .refused fault.cause
      | .ok request =>
        let ended := around.server.undo Session.write options.output
          ⟨options.selector, options.dryRun⟩ request (.start world none around.manifests)
        match ended.result with
        | .error .overflow => .aborted
        | .error failure => .refused failure.cause
        | .ok report => .reported ended.world.output report

end Surroundings

namespace Command

def versionText : String := "rewindctl 0.0.0\n"

def helpText : String :=
  "Usage: rewindctl rollout undo (TYPE NAME... | TYPE/NAME...) [options]\n\n"
    ++ "  --to-revision <number>           the revision to go back to (0: the one before)\n"
    ++ "  --dry-run[=none|client|server]   only show or try the change\n"
    ++ "  -f, --filename <path>            manifests that name the workloads\n"
    ++ "  -R, --recursive                  read directories at every depth\n"
    ++ "  -n, --namespace <name>           the namespace of the workloads\n"
    ++ "  --context <name>                 the context of the cluster\n"
    ++ "  -o, --output <name|json|yaml>    what to write for each outcome\n"

def run {σ : Type} (around : Surroundings σ) (world : σ) : Command → Ending
  | .version => .told versionText
  | .help => .told helpText
  | .undo options => around.undo options world

end Command

def Ending.ofWords {σ : Type} (around : Surroundings σ) (words : List String) (world : σ) : Ending :=
  match Command.ofWords words with
  | .error fault => .misused fault
  | .ok command => command.run around world

/-- What a request meets on a machine without a network. -/
def Reply.noNetwork : Reply :=
  .unreachable ⟨"ServiceError: client error (Connect)",
    ["client error (Connect)", "tcp connect error", "Network is unreachable (os error 101)"]⟩

end Rollback
