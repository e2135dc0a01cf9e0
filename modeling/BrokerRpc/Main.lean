import BrokerRpc.Console.Job
import BrokerRpc.Settings.Sources
import BrokerRpc.Shared.Instances
import Std.Async.DNS
import Std.Async.TCP
import Std.Time.DateTime.Timestamp

/-! # The program

The outer layer: it reads arguments, files and clocks, moves bytes between a socket and a job, and
prints what the job wants printed.
-/
namespace BrokerRpc.Console
open Std.Async

structure Socket where
  client : TCP.Socket.Client
  reading : AsyncTask (Option ByteArray)

def pieceSize : UInt64 := 65536

def failureOf (e : IO.Error) : Failure :=
  match e with
  | .noSuchThing _ code details =>
    Failure.ofIo ⟨.connectionRefused, details.capitalize ++ " (os error " ++
      Text.decimal (0x100000000 - code.toNat) ++ ")"⟩
  | _ => .io ⟨.other, toString e⟩

def addressOf (ip : Std.Net.IPAddr) (port : UInt16) : Std.Net.SocketAddress :=
  match ip with
  | .v4 ip => .v4 ⟨ip, port⟩
  | .v6 ip => .v6 ⟨ip, port⟩

/-- Connects to the first of the addresses that answers. -/
def dialEach (port : UInt16) (why : IO.Error) : List Std.Net.IPAddr → IO Socket
  | [] => throw why
  | ip :: more => do
    try
      let client ← TCP.Socket.Client.mk
      Async.block (client.connect (addressOf ip port))
      return { client, reading := ← Async.toIO (client.recv? pieceSize) }
    catch e => dialEach port e more

def dialRemote (j : Job) : IO Socket := do
  let (host, port) := j.rpc.client.link.remote.getD ("", 0)
  let found ← Async.block (DNS.getAddrInfo host (Text.decimal port))
  dialEach port.toUInt16 (.noSuchThing none 0 "host not found") found.toList

def moment : IO Moment := do
  let stamp ← Std.Time.Timestamp.now
  return { now := ← IO.monoNanosNow, stamp := stamp.toNanosecondsSinceUnixEpoch.val }

def meet (j : Job) (socket : Option Socket) : Demand → IO (Option Socket × Option Happening)
  | .dial => do
    try return (some (← dialRemote j), some (.dialEnded (.ok ())))
    catch e => return (none, some (.dialEnded (.error (failureOf e))))
  | .write bytes => do
    let some s := socket | return (socket, none)
    try
      Async.block (s.client.send bytes.toByteArray)
      return (socket, none)
    catch e => return (socket, some (.broken (failureOf e)))
  | .hangUp => do
    let some s := socket | return (none, none)
    try Async.block s.client.shutdown catch _ => pure ()
    return (none, none)
  | .print line => do
    IO.println line
    return (socket, none)
  | .complain line => do
    IO.eprintln line
    return (socket, none)

def meetAll (j : Job) (socket : Option Socket) :
    List Demand → IO (Option Socket × List Happening)
  | [] => return (socket, [])
  | demand :: more => do
    let (socket, happening) ← meet j socket demand
    let (socket, happenings) ← meetAll j socket more
    return (socket, happening.toList ++ happenings)

/-- What happens next: a reading ends, or a little time passes. -/
def await (socket : Option Socket) : IO (Option Socket × Happening) := do
  let some s := socket | do
    IO.sleep 5
    return (none, .elapsed)
  if ← IO.hasFinished s.reading then
    try
      match ← s.reading.block with
      | none => return (socket, .broken .closed)
      | some piece =>
        let reading ← Async.toIO (s.client.recv? pieceSize)
        return (some { s with reading }, .arrived piece.data.toList)
    catch e => return (socket, .broken (failureOf e))
  else
    IO.sleep 5
    return (socket, .elapsed)

partial def run (j : Job) (socket : Option Socket) : IO UInt32 := do
  let (j, demands) := j.collect
  let (socket, happenings) ← meetAll j socket demands
  match j.exitCode?, happenings with
  | some code, _ => return code.toUInt32
  | none, [] =>
    let (socket, happening) ← await socket
    run (j.turn (← moment) happening) socket
  | none, _ =>
    let now ← moment
    run (happenings.foldl (fun j happening => j.turn now happening) j) socket

def contentOf (path : String) : IO (Option Bytes) := do
  try return some (← IO.FS.readBinFile path).data.toList
  catch _ => return none

def usualPath : IO (Option String) := do
  let under (dir : String) : String := dir ++ "/stomp-jsonrpc/config.json"
  match ← IO.getEnv "XDG_CONFIG_HOME", ← IO.getEnv "HOME" with
  | some dir, _ => return some (under dir)
  | none, some home => return some (under (home ++ "/.config"))
  | none, none => return none

def environment : IO Settings.Environment := do
  let found ← Setting.all.mapM fun k => do return (k.variableName, ← IO.getEnv k.variableName)
  return fun name => (found.find? fun entry => entry.1 = name).bind Prod.snd

def settingsComplaint (path : String) : SettingsFault → String
  | .unreadable => "Error: Failed to load configuration: Failed to read " ++ path
  | .unparseable _ => "Error: Failed to load configuration: Failed to parse " ++ path
  | .badVariable bad => "Error: Failed to load configuration: " ++ bad.message

def settingsFor (i : Invocation) : IO (Except String Settings) := do
  let named := i.config.or (← IO.getEnv Settings.fileVariable)
  let usual ← usualPath
  let namedContent ← named.mapM contentOf
  let usualContent ← usual.mapM contentOf
  match Settings.load namedContent (usualContent.getD none) (← environment) with
  | .ok s => return .ok { s with url := i.url.getD s.url }
  | .error fault => return .error (settingsComplaint ((named.or usual).getD "") fault)

def freshToken : IO String := do
  let bytes ← IO.getRandomBytes 16
  return String.ofList (bytes.data.toList.flatMap fun b =>
    [Nat.digitChar (b.toNat / 16), Nat.digitChar (b.toNat % 16)])

/-- The failure of an encrypted link, for which this program has no means. -/
def noEncryption : Failure := .tls "encrypted links are not available"

def carryOut (i : Invocation) : IO UInt32 := do
  match ← settingsFor i with
  | .error text =>
    IO.eprintln text
    return 2
  | .ok settings =>
    let (_, opened) := ({} : Instances).openClient {} (fun _ => .error noEncryption) settings
      (← freshToken)
    match opened, settings.eventRetention, Plan.ofTask? (← freshToken) i.task with
    | .ok (.error failure), _, _ =>
      IO.eprintln (complaint "Failed to create client" failure)
      return 2
    | .error panic, _, _ | .ok (.ok _), .error panic, _ =>
      IO.eprintln panic.message
      return 101
    | .ok (.ok _), .ok _, none =>
      IO.eprintln "Error: Parameters are not valid JSON"
      return 2
    | .ok (.ok opened), .ok retention, some plan =>
      let job : Job := { plan, goodbye := ← freshToken, rpc := opened.rpc, publisher := .new retention }
      let now ← moment
      run ((job.start now).turn now .elapsed) none

end BrokerRpc.Console

def main (args : List String) : IO UInt32 := do
  match BrokerRpc.Console.Invocation.parse args with
  | .ok invocation => BrokerRpc.Console.carryOut invocation
  | .error why =>
    if why.isAnswer then
      IO.println why.message
      return 0
    else
      IO.eprintln why.message
      return 2
