import ServiceDiscovery.Daemon.Run

/-!
# The daemon as a program

The argument is the path of the file of settings. The daemon runs on a network
of its own: requests to its API are read from the standard input, one a line
with method and target, and for each the status and the body are printed. At the
end of the input the daemon stops.
-/

namespace ServiceDiscovery

/-- The file of settings that is read if none is given. -/
def defaultSettingsPath : String := "/etc/peer-discovery/peerd.toml"

/-- The file that tells the host's name. -/
def hostNamePath : String := "/proc/sys/kernel/hostname"

/-- What is wrong with a file that could not be read. -/
def SettingsFault.ofReadError : IO.Error → SettingsFault
  | .noFileOrDirectory .. => .notFound
  | .permissionDenied .. => .permissionDenied
  | .inappropriateType .. => .directory
  | error => .unreadable error.toString

/-- The bytes of a file. -/
def readSettings (path : String) : IO (Except SettingsFault ByteArray) := do
  try
    return .ok (← IO.FS.readBinFile path)
  catch error =>
    return .error (.ofReadError error)

/-- The host the program runs on. -/
def thisHost : IO Host := do
  let name ← try IO.FS.readFile hostNamePath catch _ => pure "localhost"
  return .isolated (String.ofList (name.toList.takeWhile (· != '\n'))) .epoch

/-- Answer the requests on the standard input until it ends. -/
partial def serve (d : Daemon) (input output : IO.FS.Stream) : IO Daemon := do
  let line ← input.getLine
  if line.isEmpty then return d
  let (method, target) := Api.requestOfLine line
  let (d, response) := d.respond method target
  output.putStrLn response.line
  output.flush
  serve d input output

/-- Run the daemon, and exit with its code. -/
def runProgram (args : List String) : IO UInt32 := do
  let path := args.headD defaultSettingsPath
  match Daemon.load (← thisHost) path (← readSettings path) with
  | .error fault =>
    for line in fault.complaint.lines do
      IO.eprintln line
    return startFailed
  | .ok daemon =>
    let daemon ← serve daemon (← IO.getStdin) (← IO.getStdout)
    return daemon.stop.2

end ServiceDiscovery

/-- The daemon's command line. -/
def main (args : List String) : IO UInt32 := ServiceDiscovery.runProgram args
