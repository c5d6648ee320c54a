import Signpost.Number.Binary64

/-!
# TOML values

The values of a TOML document.  The entries of a table stand in the order in
which their keys came up.  Of a date or a time only the fact that it is one
matters here.
-/

namespace Signpost

inductive Toml where
  | string (text : String)
  | integer (value : Int)
  | float (value : Binary64)
  | bool (value : Bool)
  | date
  | array (items : List Toml)
  | table (entries : List (String × Toml))
  deriving Inhabited, Repr

end Signpost
