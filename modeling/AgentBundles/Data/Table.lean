/-!
# Tables

Values under names, in the order in which the names were first written.
-/

namespace AgentBundles

/-- Values under names. -/
abbrev Table (α : Type) := List (String × α)

namespace Table

variable {α β : Type}

/-- The value under a name. -/
def get? (t : Table α) (name : String) : Option α :=
  (t.find? fun e => e.1 == name).map (·.2)

/-- Whether there is a value under a name. -/
def has (t : Table α) (name : String) : Bool :=
  t.any fun e => e.1 == name

/-- The table with the value under a name replaced, or with a new name at the end. -/
def insert (name : String) (value : α) : Table α → Table α
  | [] => [(name, value)]
  | e :: rest => if e.1 == name then (name, value) :: rest else e :: insert name value rest

/-- The table of pairs written one after the other. -/
def ofList (pairs : List (String × α)) : Table α :=
  pairs.foldl (fun t p => insert p.1 p.2 t) []

/-- The table with a value added at the end of those under a name. -/
def push (name : String) (value : α) (t : Table (List α)) : Table (List α) :=
  t.insert name ((t.get? name).getD [] ++ [value])

/-- The names. -/
def names (t : Table α) : List String := t.map (·.1)

/-- The values. -/
def values (t : Table α) : List α := t.map (·.2)

/-- The table with a function applied to each value. -/
def mapValues (f : α → β) (t : Table α) : Table β := t.map fun e => (e.1, f e.2)

end Table

end AgentBundles
