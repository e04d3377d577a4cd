/-!
# Counting in truth values

A list of truth values is read as a binary number, first value first. Counting
upwards through these numbers visits all lists of one length.

`nextAssignment?` makes the next list from the one before. `countUp` is the same
step taken in place: it writes into one list of values, and tells whether there
was something to write.
-/

namespace PredicateLogic

/-- The next list of truth values of the same length, if the values are not all
true. The last false value becomes true, and the values behind it become
false. -/
def nextAssignment? : List Bool → Option (List Bool)
  | [] => none
  | b :: bs =>
    match nextAssignment? bs with
    | some cs => some (b :: cs)
    | none => if b then none else some (true :: bs.map fun _ => false)

/-- The position of the last false value. -/
def lastFalse? (values : List Bool) : Option Nat :=
  (List.range values.length).findRev? fun i => values[i]? == some false

/-- Counts up in place. The last false value becomes true, and the values behind
it become false. Values that are all true stay as they are. The first result is
whether there was a false value. -/
def countUp (values : List Bool) : Bool × List Bool :=
  match lastFalse? values with
  | none => (false, values)
  | some i =>
    let raised := values.set i true
    (true, raised.take (i + 1) ++ (raised.drop (i + 1)).map fun _ => false)

/-- What comes of counting up the given number of times: the result and the
values each time. -/
def countUps : (times : Nat) → (values : List Bool) → List (Bool × List Bool)
  | 0, _ => []
  | times + 1, values =>
    let counted := countUp values
    counted :: countUps times counted.2

end PredicateLogic
