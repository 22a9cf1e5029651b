import HostLink.OrderedMap
import HostLink.Path
import HostLink.Toml.Value

namespace HostLink
namespace Toml

/-!
Values taken as what a program needs.  A value of another kind is refused, also one that could
be converted.  A key that is absent and a key that nobody asks for are both fine.  A date or
time counts as a table with one member, whose key no program uses by itself.
-/

/-- The key under which a date or time holds its text when it is taken as a table. -/
def dateTimeKey : String := "$__toml_private_datetime"

def asText? : Value → Option String
  | .text s => some s
  | _ => none

def asPath? (v : Value) : Option Path :=
  (asText? v).map Path.mk

def asBool? : Value → Option Bool
  | .boolean b => some b
  | _ => none

/-- A number of 32 bits. -/
def asWord? : Value → Option UInt32
  | .integer n => if 0 ≤ n ∧ n.toNat < UInt32.size then some (UInt32.ofNat n.toNat) else none
  | _ => none

def asList? {α : Type} (item? : Value → Option α) : Value → Option (List α)
  | .array items => items.mapM item?
  | _ => none

/-- A table, or what counts as one. -/
def asMembers? : Value → Option Members
  | .table members => some members
  | .dateTime written => some [(dateTimeKey, .text written)]
  | _ => none

/-- A table all of whose values are of one kind. -/
def asMap? {α : Type} (value? : Value → Option α) (v : Value) : Option (OrderedMap String α) := do
  let members ← asMembers? v
  let pairs ← members.mapM (fun m => (value? m.2).map (fun a => (m.1, a)))
  return OrderedMap.ofList pairs

/-- The value of a key, if it is there; it must be of the right kind then. -/
def optional? {α : Type} (members : Members) (key : String) (value? : Value → Option α) :
    Option (Option α) :=
  match member? members key with
  | none => some none
  | some v => (value? v).map some

/-- The value of a key, or a usual one if the key is absent. -/
def withDefault? {α : Type} (members : Members) (key : String) (value? : Value → Option α)
    (usual : α) : Option α :=
  (optional? members key value?).map (fun a => a.getD usual)

/-- A record given as a table, or as the list of its first fields in order. -/
def asRecord? (fields : List String) : Value → Option Members
  | .array items => some (fields.zip items)
  | v => asMembers? v

end Toml
end HostLink
