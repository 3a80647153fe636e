import ScriptRunner.Text.Basic

/-!
# TOML values and tables

A table is a list of keys with their values. `Table.within` is the one way in which a document
changes a table: it goes down a path of keys, makes the tables that are missing, and edits the table
at the end. Whether a path may lead through a table depends on where the table came from, its
`Origin`.
-/

namespace ScriptRunner.Toml

/-- Where a table came from. -/
inductive Origin where
  /-- It is written between braces, and is closed. -/
  | braces
  /-- A header of its own. -/
  | header
  /-- A header further down, of which it is a part. -/
  | partOfHeader
  /-- A key in several parts. -/
  | partOfKey
  deriving DecidableEq, Repr

/-- A value. Of numbers and of dates and times only the kind is kept: no setting is one. -/
inductive Value where
  | string (text : Text)
  | boolean (b : Bool)
  | number
  | moment
  | array (items : List Value)
  | table (origin : Origin) (entries : List (Text × Value))
  /-- The tables of a header in double brackets, in order. -/
  | tables (elements : List (List (Text × Value)))

/-- Keys with their values. No key occurs twice. -/
abbrev Table := List (Text × Value)

namespace Table

/-- The table with the value of a key changed, or with a new key at its end. -/
def put (key : Text) (value : Value) : Table → Table
  | [] => [(key, value)]
  | (k, v) :: rest => if k = key then (k, value) :: rest else (k, v) :: put key value rest

/-- The table in which a path of keys may go on, as the value holds it. A path leads through the last
one of several tables. A key in several parts does not lead into a table with a header of its own. -/
def Path.next? (byKey : Bool) : Value → Option (Origin × Table)
  | .table origin entries =>
    if origin = .braces ∨ (byKey ∧ origin = .header) then none else some (origin, entries)
  | .tables elements => elements.getLast?.map fun t => (.header, t)
  | _ => none

/-- The value with the table in which a path goes on changed. -/
def Path.replace (entries : Table) : Value → Value
  | .table origin _ => .table origin entries
  | .tables elements => .tables (elements.dropLast ++ [entries])
  | value => value

/-- Edit the table at the end of a path. The path is that of a key if `byKey` holds, and that of a
header otherwise. -/
def within (byKey : Bool) (edit : Origin → Table → Option Table) (origin : Origin) (t : Table) :
    List Text → Option Table
  | [] => edit origin t
  | key :: path =>
    match t.lookup key with
    | none =>
      let origin : Origin := if byKey then .partOfKey else .partOfHeader
      (within byKey edit origin [] path).map fun entries => t.put key (.table origin entries)
    | some value =>
      match Path.next? byKey value with
      | none => none
      | some (origin, entries) =>
        (within byKey edit origin entries path).map fun entries =>
          t.put key (Path.replace entries value)

/-- Enter a value under a key that may have several parts. A key must be new, and a key in several
parts must lead to a table that came from such a key. -/
def insert (keys : List Text) (value : Value) (t : Table) : Option Table :=
  match keys.getLast? with
  | none => none
  | some key =>
    let enter (origin : Origin) (t : Table) : Option Table :=
      if (1 < keys.length ∧ origin ≠ .partOfKey) ∨ (t.lookup key).isSome then none
      else some (t.put key value)
    within true enter .header t keys.dropLast

/-- Start a table with a header of its own. Only a part of other headers may be there already. -/
def startTable (keys : List Text) (t : Table) : Option Table :=
  match keys.getLast? with
  | none => none
  | some key =>
    let start (_ : Origin) (t : Table) : Option Table :=
      match t.lookup key with
      | none => some (t.put key (.table .header []))
      | some (.table .partOfHeader entries) => some (t.put key (.table .header entries))
      | some _ => none
    within false start .header t keys.dropLast

/-- Start one more of several tables. -/
def startElement (keys : List Text) (t : Table) : Option Table :=
  match keys.getLast? with
  | none => none
  | some key =>
    let start (_ : Origin) (t : Table) : Option Table :=
      match t.lookup key with
      | none => some (t.put key (.tables [[]]))
      | some (.tables elements) => some (t.put key (.tables (elements ++ [[]])))
      | some _ => none
    within false start .header t keys.dropLast

/-- Enter a value below a header. -/
def insertBelow (header keys : List Text) (value : Value) (t : Table) : Option Table :=
  within false (fun _ entries => entries.insert keys value) .header t header

end Table

end ScriptRunner.Toml
