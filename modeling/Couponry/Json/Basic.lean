/-!
# JSON values

The values the program writes, and the two ways in which reading one can fail. All numbers it deals
in are whole, so a value holds an integer and nothing else; an object keeps its members in the order
in which they are written.
-/

namespace Couponry

/-- A JSON value as it is written. -/
inductive Json where
  | null
  | bool (value : Bool)
  | int (value : Int)
  | text (value : String)
  | array (items : List Json)
  | object (members : List (String × Json))
  deriving Inhabited

namespace Json

/-- Why a text cannot be read as a value of some type. -/
inductive Fault where
  /-- The text stops being JSON before the value is complete. -/
  | broken
  /-- It is JSON, but not of the shape that the type has. -/
  | misfit
  deriving DecidableEq, Repr

/-- An absent value is written as `null`. -/
def ofOption {α : Type} (write : α → Json) : Option α → Json
  | none => .null
  | some a => write a

end Json

end Couponry
