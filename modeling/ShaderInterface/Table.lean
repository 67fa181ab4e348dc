/-
Finite tables: keys with one value each, in the order in which the keys first came.
-/

namespace ShaderInterface

/-- a finite map, listed by first insertion -/
structure Table (κ ν : Type) where
  entries : List (κ × ν) := []
deriving DecidableEq

namespace Table

variable {κ ν : Type} [DecidableEq κ]

/-- the table with no keys -/
def empty : Table κ ν := ⟨[]⟩

/-- the value under a key -/
def get? (table : Table κ ν) (key : κ) : Option ν := table.entries.lookup key

/-- entries with `key` set to `value`: in place, or at the end if the key is new -/
def insertEntry (key : κ) (value : ν) : List (κ × ν) → List (κ × ν)
  | [] => [(key, value)]
  | (k, v) :: rest => if k = key then (key, value) :: rest else (k, v) :: insertEntry key value rest

/-- the table with `key` set to `value` -/
def insert (table : Table κ ν) (key : κ) (value : ν) : Table κ ν := ⟨insertEntry key value table.entries⟩

/-- the table of a list of pairs; a later pair replaces an earlier one of the same key -/
def ofList (pairs : List (κ × ν)) : Table κ ν := pairs.foldl (fun table pair => table.insert pair.1 pair.2) empty

end Table
end ShaderInterface
