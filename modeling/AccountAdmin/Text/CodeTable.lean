/-!
# Tables over code points

What is known of characters one by one stands in tables in increasing order of code points.  An
entry speaks of the code points from its first one on, so the entry for a code point is the last one
that starts at or before it; it is found by bisection.

* `lastStart?`: that entry.
* `inIntervals`: whether a code point lies in a table of closed intervals.
* `valueAt?`: the value in a table of single code points.
-/

namespace AccountAdmin.Text

/-- The last entry that starts at or before `n` among those from position `low` on and before
position `high`.  A step leaves less than half of them, so the binary logarithm of their number,
plus one, is `fuel` enough. -/
def lastStartFrom? {α : Type} (start : α → Nat) (table : Array α) (n : Nat) :
    (fuel low high : Nat) → Option α
  | 0, _, _ => none
  | fuel + 1, low, high =>
    if low < high then
      let middle := (low + high) / 2
      match table[middle]? with
      | none => none
      | some entry =>
        if n < start entry then lastStartFrom? start table n fuel low middle
        else (lastStartFrom? start table n fuel (middle + 1) high).or (some entry)
    else none

/-- The last entry that starts at or before `n`. -/
def lastStart? {α : Type} (start : α → Nat) (table : Array α) (n : Nat) : Option α :=
  lastStartFrom? start table n (Nat.log2 table.size + 1) 0 table.size

/-- Whether `n` lies in one of the closed intervals of a table. -/
def inIntervals (table : Array (Nat × Nat)) (n : Nat) : Bool :=
  match lastStart? Prod.fst table n with
  | some (_, last) => decide (n ≤ last)
  | none => false

/-- The value that a table has for `n` itself. -/
def valueAt? {β : Type} (table : Array (Nat × β)) (n : Nat) : Option β :=
  match lastStart? Prod.fst table n with
  | some (m, value) => if m = n then some value else none
  | none => none

end AccountAdmin.Text
