import Sexpr.Position

/-!
Errors as their reader sees them: a message, a code and help where there is one, and the labelled
stretch of the source.
-/

namespace Sexpr

structure Source where
  name : String := "<input>"
  text : Text

structure Label where
  text : String
  span : Span

structure Diagnostic where
  message : String
  code : Option String := none
  help : Option String := none
  labels : List Label := []
  line : Option Nat := none
  sourceName : Option String := none

end Sexpr
