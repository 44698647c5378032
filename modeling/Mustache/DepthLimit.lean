import Mustache.Text.Basic

/-!
# Limits of depth

A limit says how many expansions of partials may be open at once. As a rule it is a whole number;
but any number that can be compared with one will do, and a limit is told of in the form in which
it was asked for.
-/

namespace Mustache

/-- **How many expansions of partials may be open at once.** -/
inductive DepthLimit where
  | whole (n : Int)
  /-- A truth value, which counts as one or as zero. -/
  | flag (on : Bool)
  /-- A floating-point number, by its whole part and its quoted form. -/
  | fraction (atMost : Int) (shown : Chars)
deriving DecidableEq, Repr, Inhabited

namespace DepthLimit

/-- The greatest number of open expansions that the limit allows; none when it is negative. -/
def bound : DepthLimit → Int
  | .whole n => n
  | .flag on => if on then 1 else 0
  | .fraction atMost _ => atMost

/-- The form in which the limit is told of. -/
def quoted : DepthLimit → Chars
  | .whole n => Chars.ofInt n
  | .flag on => if on then "True".toList else "False".toList
  | .fraction _ shown => shown

end DepthLimit

end Mustache
