import Sexpr.Expr.Tree
import Sexpr.Run

/-!
The commands that work on a file: list its tokens, show its tree, run it. A command is a function of
what the file holds; what it prints before an error stays printed.
-/

namespace Sexpr

inductive Command
  | tokenize
  | parse
  | run
deriving DecidableEq

structure Outcome where
  stdout : Text
  failure : Option Failure
  exitCode : Nat

namespace Command

def ofName? (name : String) : Option Command :=
  match name with
  | "tokenize" => some tokenize
  | "parse" => some parse
  | "run" => some run
  | _ => none

/-- The source in a file: its text without the newlines at both ends, if it is UTF-8. -/
def sourceOf? (contents : ByteArray) : Option Text :=
  (String.fromUTF8? contents).map fun s => Text.trim (· == '\n') s.toList

def tokenizeOutcome (source : Text) : Outcome :=
  let ts := tokens source
  let legal := ts.takeWhile fun t => !t.item.isIllegal
  let failure := (ts.findSome? Token.fault?).map Failure.reading
  ⟨Text.unlines (legal.map fun t => t.item.listing), failure, if failure.isSome then 65 else 0⟩

def parseOutcome (source : Text) : Outcome :=
  match Program.parse source with
  | .ok p => ⟨Text.unlines [p.tree], none, 0⟩
  | .error e => ⟨[], some (.reading e), 1⟩

def runOutcome (hasRoom : Nat → Bool) (source : Text) : Outcome :=
  let (answer, s) := Session.start.run hasRoom source
  match answer with
  | .ok _ => ⟨s.out.text, none, 0⟩
  | .error e => ⟨s.out.text, some e, 1⟩

def outcome (hasRoom : Nat → Bool) : Command → Text → Outcome
  | tokenize => tokenizeOutcome
  | parse => parseOutcome
  | run => runOutcome hasRoom

end Command

/-- The line about a failure that names the line of the source, if there is one. -/
def Outcome.report (source : Text) (o : Outcome) : Option String :=
  match o.failure with
  | some (.reading e) => e.report source
  | _ => none

end Sexpr
