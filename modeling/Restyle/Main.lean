import Restyle.Command.Reach
import Restyle.Disk.Basic

/-!
# The program

The outer layer: what a command reaches is read from the real disk, the command is run, and what
it changed is written back. Calling an agent and listening as one need a network, which is not
here: calls find no agent, and an agent that is to listen is only announced.
-/
namespace Restyle.Program

/-- The path of a trail on the real disk. -/
def realPath (trail : Trail) : String := Text.toString (.char '/' :: Text.join ['/'] trail)

/-- Add the folder or file at a trail of the real disk; of a folder also the stylesheets and
folders below it. -/
partial def load (disk : Disk) (trail : Trail) : IO Disk := do
  let top ← IO.currentDir
  let path := top / realPath trail
  if ← path.isDir then
    let .ok entries ← path.readDir.toBaseIO |
      return disk.put trail (.folder { listable := false })
    let mut disk := disk.put trail (.folder {})
    for entry in entries do
      let name := entry.fileName.toText
      if ← entry.path.isDir then
        unless Index.standardSkipped.contains name do
          disk ← load disk (trail ++ [name])
      else if Text.endsWith name ".css".toText then
        disk ← load disk (trail ++ [name])
    return disk
  else if ← path.pathExists then
    let .ok bytes ← (IO.FS.readBinFile path).toBaseIO | return disk.put trail (.file [] false)
    return disk.put trail (.file bytes.toList true)
  else
    let above := top / realPath trail.dropLast
    return if ← above.isDir then disk.put trail.dropLast (.folder {}) else disk

/-- Add what is at paths. -/
def loadPaths (disk : Disk) (place : Place) (paths : List Text) : IO Disk :=
  (paths.flatMap (trailsOf place)).foldlM load disk

/-- Write a changed file, or remove one that is gone. -/
def store (change : Trail × Option (List UInt8)) : IO Unit :=
  match change.2 with
  | some bytes => IO.FS.writeBinFile (realPath change.1) ⟨bytes.toArray⟩
  | none => IO.FS.removeFile (realPath change.1)

/-- Write the lines of a report. -/
def writeLines (lines : List Line) : IO Unit := do
  let output ← IO.getStdout
  let errors ← IO.getStderr
  for line in lines do
    output.putStr (Text.toString (line.out?.getD []))
    errors.putStr (Text.toString (line.err?.getD []))

/-- Run a command line at a place. -/
def run (place : Place) (words : List Text) : IO UInt32 := do
  let top := Disk.empty.put (Path.names place.folder) (.folder {})
  let asked := Invocation.ofWords? words
  let near ← loadPaths top place ((asked.map Invocation.paths).getD [])
  let disk ← loadPaths near place ((asked.map (Invocation.furtherPaths near place)).getD [])
  let report := Invocation.run disk place (fun link _ => (Reply.unreachable, link)) () words
  (report.disk.changesSince disk).forM store
  writeLines report.lines
  match report.ending with
  | .misused => writeLines (Command.usage.map fun line => .err line.toText)
  | .broken fault => writeLines [.err fault.message]
  | _ => pure ()
  return UInt32.ofNat report.ending.exitCode

end Restyle.Program

/-- Run the command line. -/
def main (words : List String) : IO UInt32 := do
  let folder := (← IO.currentDir).toString.toText
  let home := ((← IO.getEnv "HOME").getD "/").toText
  Restyle.Program.run { folder, home } (words.map String.toText)
