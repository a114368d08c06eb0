import PaperSearch.Cli.Log
import PaperSearch.Cli.Run
import PaperSearch.Web.Replay
import PaperSearch.Web.Wire
import Std.Async.DNS
import Std.Async.Signal
import Std.Async.TCP
import Std.Internal.UV.System

/-!
# The command line program

Reads the environment and the configuration file, sends the requests of a run as it asks for them,
and prints what the run ends with.
-/

namespace PaperSearch.Program

open Std.Async Std.Net

/-! ## Connections -/

/-- All bytes that come until the connection ends. -/
partial def receive (socket : TCP.Socket.Client) (done : ByteArray) : Async ByteArray := do
  match ← socket.recv? 65536 with
  | some bytes => receive socket (done ++ bytes)
  | none => return done

def socketAddress (portNumber : UInt16) : IPAddr → SocketAddress
  | .v4 addr => .v4 ⟨addr, portNumber⟩
  | .v6 addr => .v6 ⟨addr, portNumber⟩

/-- A connection to the first address that takes one. -/
def connect (portNumber : UInt16) : List IPAddr → Async (Option TCP.Socket.Client)
  | [] => return none
  | address :: rest => do
    let socket ← TCP.Socket.Client.mk
    let connected ←
      try
        socket.connect (socketAddress portNumber address)
        pure true
      catch _ => pure false
    if connected then return some socket else connect portNumber rest

def resolve (host : String) (portNumber : Nat) : Async (List IPAddr) := do
  try
    return (← DNS.getAddrInfo host (toString portNumber)).toList
  catch _ => return []

/-- Sends a request and waits for what comes back. Encrypted connections are not made. -/
def talk (request : Web.Request) : Async Web.Reaction := do
  if request.address.secure then return .refused
  let portNumber := request.address.portNumber.getD 80
  match ← connect (UInt16.ofNat portNumber) (← resolve request.address.host portNumber) with
  | none => return .refused
  | some socket =>
    try
      socket.send ⟨request.bytes.toArray⟩
      return .ofBytes (← receive socket .empty).data.toList
    catch _ => return .closed

/-! ## Waiting -/

/-- What a run is told from outside. -/
structure Outside where
  /-- The time since the run began, in nanoseconds. -/
  clock : BaseIO Nat
  interrupted : BaseIO Bool

/-- Waits until a time or until something has happened. False after an interrupt. -/
partial def waitUntil (outside : Outside) (time : Nat) (happened : BaseIO Bool) : IO Bool := do
  if ← outside.interrupted then return false
  else if ← happened then return true
  else
    let now ← outside.clock
    if time ≤ now then return true
    IO.sleep (UInt32.ofNat (min 5 ((time - now) / 1000000 + 1)))
    waitUntil outside time happened

/-- The answer to a request, or none after an interrupt. -/
def answer? (outside : Outside) (timeout : Nat) (request : Web.Request) :
    IO (Option Web.Answer) := do
  let began ← outside.clock
  let task ← (talk request).toIO
  if !(← waitUntil outside (began + timeout) (IO.hasFinished task)) then return none
  let elapsed : Time.Duration := ⟨(← outside.clock) - began⟩
  if ← IO.hasFinished task then
    match task.get with
    | .ok reaction => return some ⟨reaction, elapsed⟩
    | .error _ => return some ⟨.closed, elapsed⟩
  else return some ⟨.silence, elapsed⟩

/-! ## Runs -/

/-- What a run ends with. A run over the answers that are known ends at the first request that has
none. -/
def ended {α : Type} (run : Option α) : IO α :=
  match run with
  | some result => return result
  | none => throw (IO.userError "the search does not end")

/-- Runs a plan, sending each request that has no answer yet. -/
partial def converse (outside : Outside) (plan : Plan Web.Replay) (random : Nat → Float)
    (known : List Web.Answer) : IO (Result (List Entry) × Session Web.Replay) := do
  let run ← ended (plan.run Web.Replay.serve random .fresh (.ofAnswers known .closed))
  let interrupted : IO (Result (List Entry) × Session Web.Replay) := do
    let now ← outside.clock
    ended (plan.run Web.Replay.serve random (.firingAt now) (.ofAnswers known .silence))
  match run.2.server.pending with
  | none => return run
  | some request =>
    let due := (Happening.exchangeTimes run.2.trace).getLast?.getD 0
    if !(← waitUntil outside due (pure false)) then interrupted
    else
      match ← answer? outside plan.settings.timeout.nanoseconds request with
      | none => interrupted
      | some answer => converse outside plan random (known ++ [answer])

/-- Random numbers from -1 to 1. -/
def randomFrom (seed : Nat) (n : Nat) : Float :=
  let (_, generator) := stdNext (mkStdGen (seed + 7919 * n))
  let (x, _) := stdNext generator
  Float.ofNat (x % 2000001) / 1000000.0 - 1.0

/-- The configuration file that arguments name. -/
def sourceOf (arguments : List String) : IO Source := do
  match Arguments.parse arguments with
  | .error _ => return .nothing
  | .ok a =>
    match a.config with
    | none => return .nothing
    | some path =>
      try
        return .file (.ofPath path (← IO.FS.readFile path))
      catch _ => return .missing

def environment : IO (List Variable) := do
  return (← Std.Internal.UV.System.osEnviron).toList.map fun (name, value) => ⟨name, value⟩

def finish (ending : Ending) : IO UInt32 := do
  IO.print ending.output
  IO.eprint ending.errors
  return UInt32.ofNat ending.status

/-- Runs a plan and prints what has been reported. -/
def search (arguments : List String) (plan : Plan Web.Replay) : IO UInt32 := do
  let began ← IO.monoNanosNow
  let signal ← (← Signal.Waiter.mk .sigint false).wait
  let outside : Outside :=
    { clock := do return (← IO.monoNanosNow) - began
      interrupted := IO.hasFinished signal }
  let (result, session) ← converse outside plan (randomFrom (← IO.rand 0 1000000000)) []
  match Arguments.parse arguments with
  | .ok a => (a.log session.trace).forM IO.eprintln
  | .error _ => pure ()
  let output :=
    if ← (← IO.getStdout).isTty then plan.output.onTerminal else plan.output
  finish ({ plan with output }.ending result)

end PaperSearch.Program

open PaperSearch in
def main (arguments : List String) : IO UInt32 := do
  let source ← Program.sourceOf arguments
  match Plan.make arguments (fun _ => source) (← Program.environment) with
  | .error ending => Program.finish ending
  | .ok plan => Program.search arguments plan
