/-!
# `StateTree.Toml.Value`: values of the settings notation

Numbers, dates and times are kept as they are written: no setting is one.
-/

set_option autoImplicit false

namespace StateTree.Toml

/-- A value. -/
inductive Value where
  | text (s : String)
  | bool (b : Bool)
  /-- A number, a date or a time of day. -/
  | plain (written : String)
  | array (items : List Value)
  | table (entries : List (String × Value))
  deriving Inhabited

end StateTree.Toml
