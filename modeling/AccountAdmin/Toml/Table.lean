import AccountAdmin.Toml.Value

/-!
# Adding to TOML tables

A document builds its tables line by line.  A header opens a table at a path, a doubled header opens
one more table in a list of tables, and a line with a key adds a value below the table opened last.
On the way along a path tables that are missing come to be, and of a list of tables the latest is
meant.  What may still be added to a table depends on its origin:

* a header may open a table that so far is only implied by headers below it, and no other one;
* a dotted key may lead through tables without a header of their own, and add only to one that
  dotted keys brought about;
* nothing is ever added to a table between braces, and nothing is ever replaced.

* `Entries.open?`, `Entries.openNext?`: the effect of a header and of a doubled header.
* `Entries.put?`: the effect of a line with a key.
-/

namespace AccountAdmin.Toml.Entries

/-- Replaces the value under a key, or the lack of one, by what becomes of it. -/
def alter? (key : String) (change : Option Value → Option Value) : Entries → Option Entries
  | [] => (change none).map fun v => [(key, v)]
  | (k, v) :: rest =>
    if k = key then (change (some v)).map fun v => (k, v) :: rest
    else (alter? key change rest).map ((k, v) :: ·)

/-- Changes the table at the end of a path, the path of a header or that of a dotted key. -/
def enter? (byDots : Bool) (change : Origin → Entries → Option Entries) :
    (path : List String) → Origin → Entries → Option Entries
  | [], origin, entries => change origin entries
  | key :: path, _, entries =>
    alter? key
      (fun
        | none =>
          let origin := if byDots then .dotted else .implied
          (enter? byDots change path origin []).map (.table origin)
        | some (.table .braced _) => none
        | some (.table origin inner) =>
          if byDots && origin == .header then none
          else (enter? byDots change path origin inner).map (.table origin)
        | some (.tables latest earlier) =>
          (enter? byDots change path .header latest).map (.tables · earlier)
        | some _ => none)
      entries

/-- A table opened by a header. -/
def opened? : Option Value → Option Value
  | none => some (.table .header [])
  | some (.table .implied inner) => some (.table .header inner)
  | some _ => none

/-- A list of tables and one more, opened by a doubled header. -/
def openedNext? : Option Value → Option Value
  | none => some (.tables [] [])
  | some (.tables latest earlier) => some (.tables [] (latest :: earlier))
  | some _ => none

/-- The document after a header. -/
def open? (path : List String) (key : String) (document : Entries) : Option Entries :=
  enter? false (fun _ => alter? key opened?) path .header document

/-- The document after a doubled header. -/
def openNext? (path : List String) (key : String) (document : Entries) : Option Entries :=
  enter? false (fun _ => alter? key openedNext?) path .header document

/-- A value where there was none. -/
def fresh? (v : Value) : Option Value → Option Value
  | none => some v
  | some _ => none

/-- The table after a line with a key, which is a path of dots and a last part. -/
def put? (path : List String) (key : String) (v : Value) (table : Entries) : Option Entries :=
  enter? true
    (fun origin entries =>
      if (origin == .dotted) = path.isEmpty then none else alter? key (fresh? v) entries)
    path .header table

/-- The document after a line with a key below the table opened last. -/
def putBelow? (section_ path : List String) (key : String) (v : Value) (document : Entries) :
    Option Entries :=
  enter? false (fun _ => put? path key v) section_ .header document

end AccountAdmin.Toml.Entries
