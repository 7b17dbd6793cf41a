import CrossRef.Value.Basic

/-! # Laying one table over another

The settings of a user are laid over the defaults: where both have a table the two are merged, and
everywhere else the user's value stands. Arrays are values like others and are replaced whole.
-/

namespace CrossRef

mutual

/-- The value that `new` leaves where `old` stood. -/
def Value.over (old : Option Value) : Value → Value
  | .table user =>
    match old with
    | some (.table defaults) => .table (Table.merge defaults user)
    | _ => .table user
  | v => v

/-- **The table `user` laid over the table `defaults`.** -/
def Table.merge (defaults : List (String × Value)) :
    List (String × Value) → List (String × Value)
  | [] => defaults
  | (k, v) :: user =>
    Table.merge (Assoc.put defaults k (Value.over (Assoc.get? defaults k) v)) user

end

end CrossRef
