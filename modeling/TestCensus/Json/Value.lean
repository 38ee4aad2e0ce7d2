/-!
# JSON values

The values that a report in JSON consists of.  A number is a natural number or a
number of tenths, which is written with one decimal place.  The members of an
object keep their order.
-/

namespace TestCensus.Json

/-- A JSON value. -/
inductive Value where
  /-- The value `null`. -/
  | null
  /-- A truth value. -/
  | bool (b : Bool)
  /-- A natural number. -/
  | nat (n : Nat)
  /-- A number of tenths. -/
  | tenths (n : Nat)
  /-- A text. -/
  | text (s : String)
  /-- A list of values. -/
  | array (items : List Value)
  /-- Values with names. -/
  | object (members : List (String × Value))

instance : Inhabited Value := ⟨.null⟩

/-- The value of an option, or `null`. -/
def Value.ofOption (f : α → Value) : Option α → Value
  | some a => f a
  | none => .null

/-- The list of the values of the elements of a list. -/
def Value.ofList (f : α → Value) (as : List α) : Value := .array (as.map f)

end TestCensus.Json
