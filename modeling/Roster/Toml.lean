/-! Values of settings files, and the trees of tables that their lines build up. -/

namespace Roster

namespace Toml

/-- How a table came into being, which decides what may still be added to it. -/
inductive Origin
  -- Named only on the way to a table below it.
  | implied
  -- Named by a key with dots.
  | dotted
  -- Given a heading of its own, like the whole file.
  | headed
  -- Written as a value in braces, which nothing can be added to.
  | closed
  deriving DecidableEq

end Toml

/-- A value of a settings file. -/
inductive Toml where
  | string (value : String)
  | integer (value : Int)
  | float (spelling : String)
  | boolean (value : Bool)
  | dateTime (spelling : String)
  | array (items : List Toml)
  | table (origin : Toml.Origin) (members : List (String × Toml))
  -- Tables under one heading in double brackets.
  | tables (elements : List Toml)
  deriving Inhabited

namespace Toml

/-- Replaces what a name stands for, or adds the name at the end. -/
def adjust (name : String) (change : Option Toml → Option Toml) :
    List (String × Toml) → Option (List (String × Toml))
  | [] => (change none).map fun value => [(name, value)]
  | (other, value) :: rest =>
    if other = name then (change (some value)).map fun value => (name, value) :: rest
    else (adjust name change rest).map ((other, value) :: ·)

/-- Changes the last of some tables. -/
def adjustLast (change : Toml → Option Toml) (elements : List Toml) : Option (List Toml) :=
  match elements.getLast? with
  | none => none
  | some last => (change last).map fun value => elements.dropLast ++ [value]

/-- Changes the table at the end of a path, making tables on the way; keys with dots may not enter
tables with headings. -/
def descend (byDots : Bool) (change : Toml → Option Toml) : List String → Toml → Option Toml
  | [], root => change root
  | name :: rest, .table origin members =>
    let enter : Option Toml → Option Toml
      | none => descend byDots change rest (.table (if byDots then .dotted else .implied) [])
      | some (.table inner found) =>
        if inner = .closed || (byDots && inner = .headed) then none
        else descend byDots change rest (.table inner found)
      | some (.tables elements) =>
        (adjustLast (descend byDots change rest) elements).map .tables
      | some _ => none
    (adjust name enter members).map (.table origin)
  | _ :: _, _ => none

/-- Adds a value under a new name to a table; a path of dots has to end in a table made by dots. -/
def addMember (byDots : Bool) (name : String) (value : Toml) : Toml → Option Toml
  | .table origin members =>
    if (origin = .dotted) ≠ byDots ∨ members.any (fun pair => pair.1 = name) then none
    else some (.table origin (members ++ [(name, value)]))
  | _ => none

/-- Adds a value under a key, which may have dots, to a table. -/
def assign (key : List String) (value : Toml) (root : Toml) : Option Toml :=
  match key.getLast? with
  | none => none
  | some name =>
    let path := key.dropLast
    descend true (addMember (!path.isEmpty) name value) path root

/-- Opens the table of a heading; only one that was merely implied may exist already. -/
def openTable (heading : List String) (root : Toml) : Option Toml :=
  let declare : Option Toml → Option Toml
    | none => some (.table .headed [])
    | some (.table .implied members) => some (.table .headed members)
    | some _ => none
  openWith declare heading root
where
  /-- Changes what the last name of a heading stands for. -/
  openWith (declare : Option Toml → Option Toml) (heading : List String) (root : Toml) :
      Option Toml :=
    match heading.getLast? with
    | none => none
    | some name =>
      let inParent : Toml → Option Toml
        | .table origin members => (adjust name declare members).map (.table origin)
        | _ => none
      descend false inParent heading.dropLast root

/-- Adds a table under a heading in double brackets. -/
def addTable (heading : List String) (root : Toml) : Option Toml :=
  let declare : Option Toml → Option Toml
    | none => some (.tables [.table .headed []])
    | some (.tables elements) => some (.tables (elements ++ [.table .headed []]))
    | some _ => none
  openTable.openWith declare heading root

/-- The value of a member. -/
def member? (members : List (String × Toml)) (name : String) : Option Toml :=
  (members.find? (fun pair => pair.1 = name)).map Prod.snd

end Toml

end Roster
