import Sexpr.Command
import Sexpr.Repl

/-!
The command line.
-/

namespace Sexpr.CommandLine

/-- The lengths of texts in bytes that the command line makes room for: those below a 48-bit address
space. -/
def hasRoom (length : Nat) : Bool :=
  length < 0x1000000000000

def showDiagnostic (d : Diagnostic) : IO Unit := do
  IO.eprintln s!"Error: {d.message}"
  for label in d.labels do
    IO.eprintln s!"  at byte {label.span.start}: {label.text}"
  if let some help := d.help then
    IO.eprintln s!"  help: {help}"

def runCommand (command : Command) (filename : String) : IO UInt32 := do
  let contents ←
    try IO.FS.readBinFile filename
    catch e =>
      IO.eprintln s!"Error: reading `{filename}` failed: {e}"
      return 1
  let some text := Command.sourceOf? contents
    | IO.eprintln s!"Error: reading `{filename}` failed: it is not UTF-8"
      return 1
  let outcome := command.outcome hasRoom text
  IO.print (String.ofList outcome.stdout)
  if let some report := outcome.report text then
    IO.eprintln report
  if let some failure := outcome.failure then
    showDiagnostic (failure.diagnostic { name := filename, text })
  return UInt32.ofNat outcome.exitCode

/-- Answers line after line; `shown` characters of the stream have been printed already. -/
partial def interact (s : Session) (shown : Nat) : IO Unit := do
  IO.print (String.ofList (s.out.text.drop shown))
  (← IO.getStdout).flush
  let line ← (← IO.getStdin).getLine
  if line.isEmpty then return
  let request := Repl.Request.ofLine line.toList
  match Repl.respond hasRoom s request with
  | none => return
  | some (s', failure) =>
    if let (.source text, some e) := (request, failure) then
      showDiagnostic (e.diagnostic { text })
    interact s' s.out.text.length

end Sexpr.CommandLine

open Sexpr CommandLine in
def main (args : List String) : IO UInt32 := do
  match args with
  | ["repl"] =>
    interact Repl.start 0
    return 0
  | [name, filename] =>
    match Command.ofName? name with
    | some command => runCommand command filename
    | none =>
      IO.eprintln s!"error: unrecognized subcommand '{name}'"
      return 2
  | _ =>
    IO.eprintln "usage: (tokenize | parse | run) FILE, or repl"
    return 2
