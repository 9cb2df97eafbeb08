/-!
# Catalogs: tables that keep the order of first insertion

A catalog maps keys to values and remembers the order in which its keys first came.  Inserting a
key that is already there changes its value and not its position.  No key has two entries, which is
part of the type.
-/

namespace HeaderOrder

namespace Entries

variable {κ α : Type} [DecidableEq κ]

/-- The value of a key in a list of entries: that of the first entry with the key. -/
def lookup (key : κ) : List (κ × α) → Option α
  | [] => none
  | (other, value) :: rest => if other = key then some value else lookup key rest

/-- Put a value at a key: in place if the key is there, else at the end. -/
def put (key : κ) (value : α) : List (κ × α) → List (κ × α)
  | [] => [(key, value)]
  | (other, old) :: rest =>
      if other = key then (other, value) :: rest else (other, old) :: put key value rest

theorem lookup_put (key query : κ) (value : α) (entries : List (κ × α)) :
    lookup query (put key value entries) =
      if key = query then some value else lookup query entries := by
  induction entries with
  | nil => simp [put, lookup]
  | cons entry rest ih =>
      obtain ⟨other, old⟩ := entry
      by_cases same : other = key
      · subst same
        by_cases asked : other = query <;> simp [put, lookup, asked]
      · by_cases asked : other = query
        · subst asked
          have differ : ¬ key = other := fun equal => same equal.symm
          simp [put, lookup, same, differ]
        · simp [put, lookup, same, asked, ih]

theorem map_fst_put (key : κ) (value : α) (entries : List (κ × α)) :
    (put key value entries).map (·.1) =
      if key ∈ entries.map (·.1) then entries.map (·.1) else entries.map (·.1) ++ [key] := by
  induction entries with
  | nil => simp [put]
  | cons entry rest ih =>
      obtain ⟨other, old⟩ := entry
      by_cases same : other = key
      · simp [put, same]
      · have differ : ¬ key = other := fun equal => same equal.symm
        by_cases known : key ∈ rest.map (·.1)
        · rw [if_pos known] at ih
          rw [List.map_cons, if_pos (List.mem_cons_of_mem _ known)]
          simp [put, same, ih]
        · rw [if_neg known] at ih
          rw [List.map_cons, if_neg (fun member => (List.mem_cons.1 member).elim differ known)]
          simp [put, same, ih]

theorem nodup_put (key : κ) (value : α) (entries : List (κ × α))
    (nodup : (entries.map (·.1)).Nodup) : ((put key value entries).map (·.1)).Nodup := by
  rw [map_fst_put]
  split
  · exact nodup
  · next absent =>
      rw [List.nodup_append]
      refine ⟨nodup, by simp, ?_⟩
      intro other member last isLast equal
      rw [List.mem_singleton] at isLast
      exact absent (isLast ▸ equal ▸ member)

end Entries

/-- A table whose entries stand in the order of first insertion. -/
structure Catalog (κ α : Type) where
  entries : List (κ × α)
  nodup : (entries.map (·.1)).Nodup
  deriving Repr, DecidableEq

namespace Catalog

variable {κ α : Type}

def empty : Catalog κ α := ⟨[], List.nodup_nil⟩

/-- The keys in the order of first insertion. -/
def keys (catalog : Catalog κ α) : List κ :=
  catalog.entries.map (·.1)

def isEmpty (catalog : Catalog κ α) : Bool :=
  catalog.entries.isEmpty

theorem map_fst_zipIdx (keys : List κ) :
    (keys.zipIdx.map fun entry => (entry.1, (entry.2 : Int))).map (·.1) = keys := by
  simp [List.map_map, Function.comp_def]

/-- The positions of the keys, counted from zero. -/
def positions (catalog : Catalog κ α) : Catalog κ Int :=
  ⟨catalog.keys.zipIdx.map fun entry => (entry.1, (entry.2 : Int)),
   (map_fst_zipIdx catalog.keys).symm ▸ catalog.nodup⟩

/-- The keys of the positions are the keys of the catalog. -/
@[simp] theorem keys_positions (catalog : Catalog κ α) : catalog.positions.keys = catalog.keys :=
  map_fst_zipIdx catalog.keys

variable [DecidableEq κ]

def get? (catalog : Catalog κ α) (key : κ) : Option α :=
  Entries.lookup key catalog.entries

def insert (catalog : Catalog κ α) (key : κ) (value : α) : Catalog κ α :=
  ⟨Entries.put key value catalog.entries, Entries.nodup_put key value _ catalog.nodup⟩

/-- The catalog that results from inserting pairs one after the other. -/
def ofList (pairs : List (κ × α)) : Catalog κ α :=
  pairs.foldl (fun catalog pair => catalog.insert pair.1 pair.2) empty

@[simp] theorem get?_empty (key : κ) : (empty : Catalog κ α).get? key = none := rfl

/-- After an insertion the key has the new value and every other key what it had. -/
theorem get?_insert (catalog : Catalog κ α) (key query : κ) (value : α) :
    (catalog.insert key value).get? query =
      if key = query then some value else catalog.get? query :=
  Entries.lookup_put key query value catalog.entries

/-- An insertion keeps the keys, and puts a new key at the end. -/
theorem keys_insert (catalog : Catalog κ α) (key : κ) (value : α) :
    (catalog.insert key value).keys =
      if key ∈ catalog.keys then catalog.keys else catalog.keys ++ [key] :=
  Entries.map_fst_put key value catalog.entries

end Catalog

end HeaderOrder
