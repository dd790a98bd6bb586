import Std.Time.DateTime.Timestamp
import Triage.Command.Run
import Triage.Text.Bytes

/-!
# The program

Runs a command on the files, the environment and the clock of the machine. The files that a command
line can concern are read beforehand, and what the command changed is written back. There is no
network here: sources answer from the cache, and findings cannot be served.
-/
namespace Triage

open Time (Instant)

/-- The bytes of a file, and when it was last written. -/
def readStamped := fun p => do
  let data ← IO.FS.readBinFile p
  let info ← p.metadata
  return (data, info.modified)

def fetchFile (disk : Disk) (path : String) : IO Disk := do
  try
    let (data, time) ← readStamped path
    return disk.put path ⟨Text.ofBytes data.toList, ⟨time.sec * 1000000000 + time.nsec.toNat⟩⟩
  catch _ => return disk

/-- The parts of an argument that may be paths: all of it, or what follows a flag. -/
def possiblePaths (arg : String) : List String :=
  [arg, String.ofList (arg.toList.drop 2), String.ofList ((arg.toList.dropWhile (· != '=')).drop 1)]

def settingsPaths (s : Settings) : List String :=
  s.findings.file :: s.findings.imageList :: SourceId.all.map fun id => s.manager.pathOf id.name

/-- The files that the settings of a command line name. -/
def commandPaths (env : Settings.Environment) (disk : Disk) (args : List String) : List String :=
  match Command.interpret args with
  | .ok (_, some (g, _)) =>
    match Settings.effective disk {} env g.choices with
    | .ok s => settingsPaths s
    | .error _ => []
  | _ => []

/-- The variables that matter. -/
def readEnvironment : IO Settings.Environment := do
  let names := Settings.overrides.flatMap (·.names)
  let values ← names.mapM fun name => do return (name, ← IO.getEnv name)
  return fun name => (values.lookup name).join

/-- Writes back the files that a command wrote, and removes the ones that it removed. -/
def writeBack (before after : Disk) : IO Unit := do
  for path in before.paths do
    if (after.get? path).isNone then IO.FS.removeFile path
  for (path, file) in after.files do
    if (before.get? path).all (·.data != file.data) then
      let parts := Text.split '/' path
      if 1 < parts.length then IO.FS.createDirAll (Text.join "/" parts.dropLast)
      IO.FS.writeFile path file.data

/-- Nothing can be reached. -/
def offline (_ : Request) : Reply := .failed (.plain "network is unreachable")

def noCloud : FindingsSettings.CloudAccess := fun _ => .error (.plain "no access to a cloud account")

def runProgram (args : List String) : IO UInt32 := do
  let environment ← readEnvironment
  let now : Instant := ⟨(← Std.Time.Timestamp.now).toNanosecondsSinceUnixEpoch.val⟩
  let named ← (args.flatMap possiblePaths).foldlM fetchFile {}
  let disk ← (commandPaths environment named args).foldlM fetchFile named
  let host : Host := { disk, now, cache := none, network := offline }
  let colours ← (← IO.getStdout).isTty
  let (outcome, host) := Command.run { environment, colours, cloud := noCloud } args host
  writeBack disk host.disk
  match outcome with
  | .printed p =>
    IO.print p.output
    p.errors.forM fun line => IO.eprintln line
    return p.ending.code.toUInt32
  | .service _ =>
    IO.eprintln "Error: there is no network to serve findings on"
    return 2

end Triage

def main (args : List String) : IO UInt32 := Triage.runProgram args
