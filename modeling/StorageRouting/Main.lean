import StorageRouting.Console.Program
import StorageRouting.Scenario.Platform

/-
  The program on a real machine.

  The files that a command may touch are gathered first; what
  it wrote is put back when it has ended.
-/

------------------------------------------------------------
-- Files
------------------------------------------------------------

namespace StorageRouting

namespace RealMachine

/- Put what really stands at a place into a tree. -/
def loadPlace
    (t : FileTree)
    (steps : List String) : IO FileTree := do
  let path := (← IO.currentDir) / FileTree.fullName steps
  if ← path.isDir then return t.put steps .directory
  else if ← path.pathExists then
    try return t.put steps (.file (← IO.FS.readBinFile path))
    catch _ => return t
  else return t

/- Put all that stands on the way of a path into a tree. -/
def loadPath
    (t : FileTree)
    (path : String) : IO FileTree := do
  let parts := FilePath.parts path
  let steps :=
    if FilePath.isAbsolute path then parts else t.working ++ parts
  let ways := (List.range (steps.length + 1)).map steps.take
  ways.foldlM loadPlace t

/- The tree of the files that may be touched. -/
def loadFiles (paths : List String) : IO FileTree := do
  let here := FilePath.parts (← IO.currentDir).toString
  let t ← loadPath { FileTree.empty with working := here } "."
  paths.foldlM loadPath t

/- Put a change of one place back. -/
def storePlace
    (before : FileTree)
    (place : String × FileNode) : IO Unit := do
  let path := (← IO.currentDir) / place.1
  match place.2, before.nodes.get? place.1 with
  | .directory, none => IO.FS.createDirAll path
  | .directory, some _ => return
  | .file new, some (.file old) =>
      if new != old then IO.FS.writeBinFile path new
  | .file new, _ => IO.FS.writeBinFile path new

/- Put all changes back; directories come before their files. -/
def storeFiles (before after : FileTree) : IO Unit :=
  after.nodes.entries.forM (storePlace before)

end RealMachine

end StorageRouting

------------------------------------------------------------
-- The Machine
------------------------------------------------------------

namespace StorageRouting

namespace RealMachine

/- The environment variables that the program reads. -/
def variableNames : List String :=
  [ConfigLocation.overrideName, Variables.backendName,
    Variables.noColorsName, "XDG_CONFIG_HOME", "HOME"]

/- The environment variables that are set. -/
def readVariables : IO Variables :=
  variableNames.filterMapM (fun name => do
    return (← IO.getEnv name).map (fun value => (name, value)))

/- The present moment: that of a file that was just made. -/
def readClock : IO Moment := do
  let (handle, path) ← IO.FS.createTempFile
  handle.putStr "."
  handle.flush
  let made := (← path.metadata).modified
  IO.FS.removeFile path
  return ⟨made.sec * Moment.second + made.nsec.toNat⟩

/- Print what stands on a screen. -/
def printScreen
    (log : LogOptions)
    (screen : Screen) : IO Unit := do
  let results ← IO.getStdout
  let messages ← IO.getStderr
  results.write (screen.bytesOn log .results)
  results.flush
  messages.write (screen.bytesOn log .messages)
  messages.flush

/- Print how the program is used, where that is called for. -/
def showUsage : Option ProgramOutcome → IO Unit
| some .mistake => IO.eprintln CommandLine.usageText
| some .help => IO.println CommandLine.usageText
| _ => return

end RealMachine

end StorageRouting

------------------------------------------------------------
-- The Program
------------------------------------------------------------

open StorageRouting

/- Run the program. -/
def main (words : List String) : IO UInt32 := do
  let environment ← RealMachine.readVariables
  let line := CommandLine.read environment words
  let files ← RealMachine.loadFiles (line.files environment)
  let setting : ProgramSetting Fleet :=
    { platform := Fleet.platform, environment
      terminal := ← (← IO.getStdout).isTty
      log := environment.log }
  let world : World Fleet :=
    { backends := Fleet.start (← RealMachine.readClock), files
      screen := [] }
  let (outcome, after) := line.run setting world
  RealMachine.storeFiles files after.files
  RealMachine.printScreen (line.logOptions setting.log) after.screen
  RealMachine.showUsage outcome
  return UInt32.ofNat (ProgramOutcome.number outcome).toNat
