/-!
# Sorted Tables

A table holds one value per key and lists its keys in increasing order.
-/

namespace KafkaCanary

/-- Keys with their values, in increasing order of keys. -/
structure Table (κ α : Type) where
  /-- The entries in order. -/
  entries : List (κ × α)
deriving DecidableEq, Repr

namespace Table

variable {κ α β : Type}

/-- A table without entries. -/
def empty : Table κ α :=
  ⟨[]⟩

section Entries

variable [Ord κ]

/-- Put a value under a key into sorted entries, in place of the key's old value. -/
def insertEntry (key : κ) (value : α) : List (κ × α) → List (κ × α)
  | [] => [(key, value)]
  | (k, v) :: rest =>
    match compare key k with
    | .lt => (key, value) :: (k, v) :: rest
    | .eq => (key, value) :: rest
    | .gt => (k, v) :: insertEntry key value rest

/-- The value under a key in sorted entries. -/
def findEntry (key : κ) : List (κ × α) → Option α
  | [] => none
  | (k, v) :: rest => if compare key k = .eq then some v else findEntry key rest

end Entries

variable [Ord κ]

/-- The value under a key. -/
def get? (table : Table κ α) (key : κ) : Option α :=
  findEntry key table.entries

/-- Put a value under a key, in place of its old value. -/
def insert (table : Table κ α) (key : κ) (value : α) : Table κ α :=
  ⟨insertEntry key value table.entries⟩

/-- Change the value under a key, which counts as `start` if there is none. -/
def modify (table : Table κ α) (key : κ) (start : α) (f : α → α) : Table κ α :=
  table.insert key (f ((table.get? key).getD start))

/-- The table of the entries given; of several with one key the last one counts. -/
def ofList (entries : List (κ × α)) : Table κ α :=
  entries.foldl (fun table (k, v) => table.insert k v) empty

omit [Ord κ] in
/-- The table of the entries that pass a test. -/
def filter (table : Table κ α) (p : κ → α → Bool) : Table κ α :=
  ⟨table.entries.filter fun (k, v) => p k v⟩

omit [Ord κ] in
/-- The number of entries. -/
def size (table : Table κ α) : Nat :=
  table.entries.length

end Table

end KafkaCanary
