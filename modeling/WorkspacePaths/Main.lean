import WorkspacePaths.Command.CommandLine
import WorkspacePaths.Host.Tables

/-!
# `Main` — the program

Reads from the system what a command line may depend on, runs the command line, and prints what it
comes to. Warnings and errors that are logged go to the standard error stream.
-/

namespace WorkspacePaths.Program

/-- The refusal of a path that is too long, or has a name in it that is. -/
def tooLong : Refusal := ⟨36, "File name too long"⟩

/-- The bytes of a file. If it cannot be read, there is the refusal to look its path up, if that is the
reason. -/
def contentOf (path : Text) : IO (Except (Option Refusal) (List UInt8)) := do
  match String.fromUTF8? (ByteArray.mk (Utf8.encodeEscaped path).toArray) with
  | none => return .error none
  | some name =>
    try return .ok (← IO.FS.readBinFile name).toList
    catch
      -- the numbers of errors come negated here
      | .invalidArgument _ code _ =>
        return .error (if (0 - code).toNat = tooLong.code then some tooLong else none)
      | _ => return .error none

/-- The bytes of a file, no bytes if it cannot be read. -/
def bytesOf (path : Text) : IO (List UInt8) := do
  return (← contentOf path).toOption.getD []

/-- The process, and what the system knows, but for the files of a workspace. -/
def readHost (words : List String) : IO Host := do
  let block ← bytesOf "/proc/self/environ"
  let status ← bytesOf "/proc/self/status"
  let table ← bytesOf "/etc/passwd"
  let host : Host :=
    { bindings := Host.variablesOfBlock block
      cwd := Text.ofString (← IO.currentDir).toString
      arguments := words.map Text.ofString
      refusedUser := SystemFault.ofText? }
  return host.withAccounts (Host.accountsOfTable table) (Host.userOfStatus status)

/-- The host with what the system says of a path: the file there, or that it refuses the path. -/
def readFile (host : Host) (path : Text) : IO Host := do
  match ← contentOf path with
  | .ok content => return host.write path content
  | .error none => return host
  | .error (some refusal) =>
    let refusedPath other := if other = path then some refusal else host.refusedPath other
    return { host with refusedPath }

/-- The host with the configuration files of the workspaces that a command line may load. -/
def readFiles (host : Host) (paths : List Text) : IO Host := paths.foldlM readFile host

/-- Prints a text on a stream. -/
def print (stream : IO.FS.Stream) (t : Text) : IO Unit :=
  stream.write (ByteArray.mk (Utf8.encodeEscaped t).toArray)

/-- Prints the warnings and errors of a log. -/
def printLog (stream : IO.FS.Stream) (log : Log) : IO Unit :=
  log.forM fun record => do
    if record.level ≠ .debug then print stream (Command.line record.message)

/-- The exit code as the system takes it. -/
def codeOf : Command.ExitCode → UInt32
  | .flag b => if b then 1 else 0
  | .number n => UInt32.ofNat (n % 256).toNat

end WorkspacePaths.Program

open WorkspacePaths in
/-- Runs the command line. -/
def main (words : List String) : IO UInt32 := do
  let host ← Program.readHost words
  let host ← Program.readFiles host (Command.configPaths host)
  let out ← IO.getStdout
  let err ← IO.getStderr
  let run := Command.run Command.commands none { host }
  Program.printLog err run.log
  match run.result with
  | .ok report =>
    Program.print out report.stdout
    Program.print err report.stderr
    return Program.codeOf report.exit
  | .error failure =>
    Program.print err (Command.line failure.message)
    return 1
