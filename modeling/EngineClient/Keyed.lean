/-! Values under names, with each name once and in ascending order. -/

namespace EngineClient

/-- Values under names, with each name once and in ascending order. -/
abbrev Keyed (α : Type) := List (String × α)

namespace Keyed

variable {α : Type}

/-- Changes the value under a name, or adds one, keeping the names in order. -/
def update (name : String) (change : Option α → α) : Keyed α → Keyed α
  | [] => [(name, change none)]
  | (other, held) :: rest =>
    if name < other then (name, change none) :: (other, held) :: rest
    else if name = other then (name, change (some held)) :: rest
    else (other, held) :: update name change rest

/-- Sets the value under a name. -/
def put (name : String) (value : α) (entries : Keyed α) : Keyed α :=
  entries.update name fun _ => value

/-- The value under a name. -/
def get? (entries : Keyed α) (name : String) : Option α :=
  List.lookup name entries

/-- Sets the values of pairs one after another, so that the last of one name stays. -/
def ofPairs (pairs : List (String × α)) : Keyed α :=
  pairs.foldl (fun entries pair => entries.put pair.1 pair.2) []

end Keyed

end EngineClient
