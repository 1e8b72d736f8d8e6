import Chaincode.Service.Server
import Chaincode.Startup
import Std.Async.DNS
import Std.Async.TCP
import Std.Time

namespace Chaincode.Program

open Std Async Service Tracing

/-! The very-simple chaincode as a program.

Its first argument, if there is one, is the path of the settings file.  It serves
on the configured address until it is stopped.  Everything here only asks the
system for what the library needs and shows the system what the library says.
-/

/-- The current time in the form that consoles show. -/
def clock : IO String := do
  let utc := Time.TimeZone.ZoneRules.fixedOffsetZone 0 "UTC" "UTC"
  let now := Time.DateTime.ofTimestamp (← Time.Timestamp.now) utc
  return now.format "uuuu-MM-dd'T'HH:mm:ss.SSSSSS'Z'"

def report (console : Option Console) (events : List Event) : IO Unit := do
  let output ← IO.getStdout
  output.putStr (printAll console (← clock) events)
  output.flush

/-- The variables that the program was started with. -/
def environment : IO Settings.Environment := do
  return .ofBlock (← IO.FS.readBinFile "/proc/self/environ").toList

/-- What is at a place, if it is a file that can be read or a directory. -/
def node? (place : Settings.Path) : IO (Option Settings.Node) := do
  let path := (← IO.currentDir) / ("/" ++ Settings.Path.text place)
  try
    match (← path.metadata).type with
    | .file => return some (.file (← IO.FS.readBinFile path).toList)
    | .dir => return some .directory
    | _ => return none
  catch _ => return none

/-- As much of the file system as the search for the settings file needs. -/
def fileTree (current : Settings.Path) (path : Option String) : IO Settings.FileTree := do
  let places := (path.map (Settings.FileTree.places current)).getD []
  let nodes ← places.filterMapM fun place => do
    return (← node? place).map fun node => (place, node)
  return ⟨nodes⟩

/-- The number of a host, which may be a name to look up. -/
def resolve (host : String) : Async (Option Net.IPAddr) := do
  match Net.IPv4Addr.ofString host, Net.IPv6Addr.ofString host with
  | some number, _ => return some (.v4 number)
  | none, some number => return some (.v6 number)
  | none, none =>
      let numbers ← DNS.getAddrInfo host ""
      return numbers[0]?

/-- The socket address of a parsed address. -/
def socketAddress (address : Address) : Async Net.SocketAddress := do
  let host := String.ofList (address.host.filter fun char => char ≠ '[' && char ≠ ']')
  let port := UInt16.ofNat address.port
  match ← resolve host with
  | some (.v4 number) => return .v4 ⟨number, port⟩
  | some (.v6 number) => return .v6 ⟨number, port⟩
  | none => throw (IO.userError s!"no address for {host}")

/-- Serves a connection until its task is finished. -/
partial def attend (server : Server Unit) (console : Option Console) (name : String)
    (socket : TCP.Socket.Client) (connection : Connection Unit) : Async Unit := do
  let connection := match ← socket.recv? 4096 with
    | some chunk => connection.arrive chunk.toList
    | none => connection.close
  let turn := connection.settle server ()
  report console (turn.lines.map (Event.logged name) ++ turn.value.reported)
  unless turn.value.outbox.isEmpty do
    socket.send ⟨turn.value.outbox.toArray⟩
  if turn.value.isFinished then socket.shutdown
  else attend server console name socket turn.value.delivered

/-- Accepts connections for ever; one that breaks does not end the others. -/
partial def acceptAll (listener : TCP.Socket.Server)
    (attend : TCP.Socket.Client → Async Unit) : Async Unit := do
  let socket ← listener.accept
  background (t := AsyncTask) (try attend socket catch _ => pure ())
  acceptAll listener attend

def serve (console : Option Console) (duty : Duty) : Async Unit := do
  let place ← socketAddress duty.address
  let listener ← TCP.Socket.Server.mk
  listener.bind place
  listener.listen 1024
  let server : Server Unit := ⟨VerySimple.dispatcher⟩
  let shown := s!"{place.ipAddr}:{place.port}"
  report console [.serving server.dispatcher.name (some shown)]
  acceptAll listener fun socket => attend server console duty.name socket {}

end Chaincode.Program

open Chaincode Program in
def main (arguments : List String) : IO UInt32 := do
  let directory := Settings.FileTree.stepsOf (← IO.currentDir).toString
  let directory := Settings.FileTree.significant directory
  let path := arguments.head?
  let started := startUp (← fileTree directory path) directory path (← environment)
  report started.console started.events
  match started.result with
  | .error _ =>
      IO.eprint started.complaint
      return UInt32.ofNat started.exitCode
  | .ok duty =>
      (serve started.console duty).block
      return 0
