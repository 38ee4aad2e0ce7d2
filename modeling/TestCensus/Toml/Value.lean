/-!
# TOML values

The values that settings consist of.  Only integers, truth values, texts, arrays
and tables carry settings.  Numbers with a fraction and moments in time are read
and then nothing is kept of them.

A table is a list of entries with different keys, in the order of the text.
-/

namespace TestCensus.Toml

/-- A TOML value. -/
inductive Value where
  /-- A truth value. -/
  | boolean (b : Bool)
  /-- An integer of 64 bits. -/
  | integer (n : Int)
  /-- A number with a fraction or an exponent. -/
  | float
  /-- A date, a time or both. -/
  | moment
  /-- A text. -/
  | text (s : String)
  /-- A list of values. -/
  | array (items : List Value)
  /-- Values with keys. -/
  | table (entries : List (String × Value))

instance : Inhabited Value := ⟨.boolean false⟩

/-- The entries of a table. -/
abbrev Table := List (String × Value)

/-- The largest integer of 64 bits. -/
def maxInteger : Nat := 9223372036854775807

/-- A reader takes something off the beginning of a text and leaves the rest. -/
abbrev Reader (α : Type) := List Char → Option (α × List Char)

end TestCensus.Toml
