/-!
# Values of a document

A document of settings, written in TOML, consists of keys with values.  A table keeps its
keys in the order in which they were written.
-/

namespace FilterQuery.Toml

/-- A value of a document. -/
inductive Value where
  | string (value : String)
  | integer (value : Int64)
  | float (value : Float)
  | boolean (value : Bool)
  /-- A date, a time or both, in their canonical text. -/
  | moment (text : String)
  | array (items : List Value)
  | table (entries : List (String × Value))
  deriving Repr

end FilterQuery.Toml
