import Mustache.Value.Member
import Mustache.Value.Text

/-!
# What can be told of a value

A `Description` tells how a value looks to a template. A `Report` adds its items, and for each of
some names whether the value has such a member and what that member is. Of a value that is too long
to be asked for its size, or cannot be printed, nothing can be told.
-/

namespace Mustache

/-- **How a value looks to a template.** -/
structure Description where
  variant : Variant
  text : Chars
  truthy : Bool
  safe : Bool
  quoted : Chars
deriving DecidableEq, Repr, Inhabited

/-- **What a value says of one name.** -/
structure MemberReport where
  name : Chars
  has : Except Fault Bool
  lookup : Except Fault Description

/-- **All that can be told of a value** and of its members of some names. -/
structure Report where
  description : Description
  items : List Description
  members : List MemberReport

namespace Value

/-- **The description of a value.** -/
def describe (value : Value) : Except Fault Description := do
  let text ← value.text
  let truthy ← value.isTruthy
  let quoted ← value.described
  return ⟨value.variant, text, truthy, value.isSafe, quoted⟩

/-- What the value says of a name. -/
def reportMember (value : Value) (name : Chars) : MemberReport :=
  ⟨name, value.has name, value.lookup name >>= describe⟩

/-- **The report of a value.** -/
def report (value : Value) (names : List Chars) : Except Fault Report := do
  let description ← value.describe
  let items ← (← value.items).mapM describe
  return ⟨description, items, names.map value.reportMember⟩

end Value

end Mustache
