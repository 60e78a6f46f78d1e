namespace Ambient.Entries

variable {α : Type}

/-- Gives a key a value: in the place of the key if it is there, else at the end. -/
def put (key : String) (value : α) : List (String × α) → List (String × α)
  | [] => [(key, value)]
  | e :: es => if e.1 = key then (key, value) :: es else e :: put key value es

/-- The entries left of a list in which a repeated key keeps its first place and takes its last
value. -/
def ofList (entries : List (String × α)) : List (String × α) :=
  entries.foldl (fun table e => put e.1 e.2 table) []

end Ambient.Entries
