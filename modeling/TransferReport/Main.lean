import TransferReport.CommandLine.Run
import TransferReport.LogFile

/-!
# The program

Runs a command line and shows what it leaves: its text on the standard output, its records on the
standard error, and the file of the log, to which a byte order mark is written first.
-/

namespace TransferReport

def logLines (records : List Record) : String :=
  String.join (records.map fun r => r.level.label ++ " | " ++ r.text ++ "\n")

def writeLog (file : String × List Record) : IO Unit := do
  let old ← try IO.FS.readBinFile file.1 catch _ => pure ByteArray.empty
  IO.FS.withFile file.1 .append fun handle => do
    if old.isEmpty && !file.2.isEmpty then handle.putStr (String.singleton (Char.ofNat 0xFEFF))
    handle.putStr (logLines file.2)

end TransferReport

def main (args : List String) : IO UInt32 := do
  let outcome := TransferReport.CommandLine.run TransferReport.Terminal.emoji? (.int 0) args
  (← IO.getStdout).putStr outcome.out
  (← IO.getStderr).putStr (TransferReport.logLines outcome.records)
  outcome.log.files.forM TransferReport.writeLog
  match outcome.status with
  | .success => pure 0
  | .usage =>
    IO.eprintln "usage: (size | progress | simulate) ..."
    pure 2
  | .fault fault =>
    IO.eprintln fault.message
    pure 1
