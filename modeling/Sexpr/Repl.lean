import Sexpr.Run

/-!
The interactive session: one source on a line, and a few commands that begin with a colon. The lines
are those that a line editor hands over. All that is shown goes to the stream of the session; errors are
shown elsewhere.
-/

namespace Sexpr

namespace Repl

def greeting : Text :=
  "Type :help for more commands, or Ctrl+D to exit.".toList

def help : List Text :=
  ["Enter S-expressions like: (+ 1 2)".toList,
    "Builtins: ".toList ++ List.intercalate [' '] Builtin.names,
    "Special forms: (defvar name value \"documentation\")".toList,
    "Commands: :help, :env, :quit".toList]

def shown (b : Binding) : Text :=
  b.name ++ " = ".toList ++ b.value.text ++
    match b.doc with
    | none => []
    | some doc => "  ; ".toList ++ doc

def say (s : Session) (lines : List Text) : Session :=
  { s with out := s.out.hand (Text.unlines lines) }

def start : Session :=
  say .start [greeting]

def answerLine (answer : Option Value) : Text :=
  match answer with
  | some v => Text.trim (fun c => c == '\n' || c == '\r') v.text
  | none => []

inductive Request
  | nothing
  | help
  | listing
  | quit
  | source (text : Text)

/-- A command is a line without the white space at both ends; a source is one without the newlines. -/
def Request.ofLine (line : Text) : Request :=
  let source := Text.trim (· == '\n') line
  let word := Text.trim Unicode.isWhiteSpace source
  if word = [] then .nothing
  else if word = ":help".toList then .help
  else if word = ":env".toList then .listing
  else if word = ":quit".toList then .quit
  else .source source

section

variable (hasRoom : Nat → Bool)

/-- The session after a request, and the error to show; none after the last request. -/
def respond (s : Session) : Request → Option (Session × Option Failure)
  | .nothing => some (s, none)
  | .help => some (say s help, none)
  | .listing => some (say s (s.env.listing.map shown), none)
  | .quit => none
  | .source text =>
    match s.run hasRoom text with
    | (.ok answer, s') => some (say s' [answerLine answer], none)
    | (.error e, s') => some (s', some e)

def runLines (s : Session) : List Text → Session
  | [] => s
  | line :: lines =>
    match respond hasRoom s (.ofLine line) with
    | none => s
    | some (s', _) => runLines s' lines

def transcript (lines : List Text) : Text :=
  (runLines hasRoom start lines).out.text

end

end Repl

end Sexpr
