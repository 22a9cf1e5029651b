namespace HostLink
namespace Toml

/-!
Values of a TOML document.  A table keeps its members in the order in which they were
written; no two of them have the same key.  A number with a point or an exponent, and a date
or time, are kept as text, since nothing calculates with them.
-/

/-- A value. -/
inductive Value where
  | text (s : String)
  | integer (n : Int)
  | real (written : String)
  | boolean (b : Bool)
  | dateTime (written : String)
  | array (items : List Value)
  | table (members : List (String × Value))
  deriving Inhabited

/-- The members of a table. -/
abbrev Members := List (String × Value)

/-- The value of a key. -/
def member? (members : Members) (key : String) : Option Value :=
  (members.find? (fun m => m.1 == key)).map Prod.snd

end Toml
end HostLink
