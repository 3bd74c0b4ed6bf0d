/-
The creation date of a post as text. `getISOTimestamp` writes the clock's reading with the formatter, and
`String.date()` reads it with the formatter; what that does is Foundation's. The tables only rest on its reading back
what it wrote, to the second.
-/
import PetIT.Table.System

namespace PetIT.Table

/-- The reading of a clock, in milliseconds since 1970, is before the year 10000, in which a year has a fifth
digit. -/
def Readable (now : Nat) : Prop := now / 1000 < 253402300800

instance (now : Nat) : Decidable (Readable now) := inferInstanceAs (Decidable (_ < _))

/-- `ISO8601DateFormatter.string(from:)`, beside the platform's `date(from:)`. It writes no fraction of a second, and
what it writes is read back. -/
structure Formatter (pf : Platform) where
  string : Nat → String
  isoDate_string : ∀ now, Readable now → pf.isoDate (string now) = some ((now / 1000 : Nat) : Int)

/-- `Date.getISOTimestamp()`, by a clock that reads `now`. -/
def getISOTimestamp {pf : Platform} (formatter : Formatter pf) (now : Nat) : String := formatter.string now

end PetIT.Table
