import TrogonEventStore.Library.SortedEntries
import TrogonEventStore.Text
import Mathlib.Data.String.Basic

namespace TrogonEventStore

/-- A JSON document, or a `serde_json::Value`. A `float` is known by its bits. -/
inductive Json where
  | null
  | bool (value : Bool)
  | number (value : Int)
  | float (bits : UInt64)
  | string (text : String)
  | array (items : List Json)
  | object (entries : List (String × Json))

/-- `serde_json::Map`: the entries in the order of their keys, as `SortedEntries.insert` keeps them. -/
abbrev JsonMap := List (String × Json)

/-- `fromSlice` reads a `Value`, `document` the text that a typed value is read from, entry by entry
in the order it has them; `complaint` is the error for a text that gives no typed value. -/
structure SerdeJson where
  fromSlice : Bytes → Option Json
  document : Bytes → Option Json
  toVec : Json → Bytes
  complaint : Bytes → String

def eqIgnoreAsciiCase (left right : String) : Bool := left.toLower == right.toLower

end TrogonEventStore
