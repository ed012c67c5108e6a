/-!
# Registers

Values under keys, each key once, in the order in which the keys came.
-/

namespace DiceRoller

/-- Values that are found under their keys. -/
structure Register (κ ν : Type) where
  entries : List (κ × ν)
deriving DecidableEq, Repr

namespace Register

variable {κ ν : Type} [DecidableEq κ]

def empty : Register κ ν :=
  { entries := [] }

/-- The first value under the key. -/
def find? (key : κ) : List (κ × ν) → Option ν
  | [] => none
  | (other, value) :: later =>
      if other = key then some value else find? key later

/-- The entries with the value under the key, in place of one that is there. -/
def replace (key : κ) (value : ν) : List (κ × ν) → List (κ × ν)
  | [] => [(key, value)]
  | (other, previous) :: later =>
      if other = key then (key, value) :: later
      else (other, previous) :: replace key value later

def get? (key : κ) (register : Register κ ν) : Option ν :=
  find? key register.entries

def put (key : κ) (value : ν) (register : Register κ ν) : Register κ ν :=
  { entries := replace key value register.entries }

/-- The register of the entries; of entries under one key the last one counts. -/
def ofList (entries : List (κ × ν)) : Register κ ν :=
  entries.foldl (fun register entry => register.put entry.1 entry.2) empty

private theorem find?_replace (key sought : κ) (value : ν)
    (entries : List (κ × ν)) :
    find? sought (replace key value entries) =
      if sought = key then some value else find? sought entries := by
  induction entries with
  | nil => simp [replace, find?, eq_comm]
  | cons entry later induction =>
      by_cases here : entry.1 = key
      · by_cases same : sought = key
        · simp [replace, find?, here, same]
        · simp [replace, find?, here, same, Ne.symm same]
      · by_cases found : entry.1 = sought
        · subst found
          simp [replace, find?, here]
        · simp [replace, find?, here, found, induction]

@[simp] theorem get?_empty (key : κ) :
    get? key (empty : Register κ ν) = none := rfl

theorem get?_put (key sought : κ) (value : ν) (register : Register κ ν) :
    (register.put key value).get? sought =
      if sought = key then some value else register.get? sought :=
  find?_replace key sought value register.entries

/-- A register has a value under exactly the keys of its entries. -/
theorem isSome_get?_ofList (entries : List (κ × ν)) (key : κ) :
    ((ofList entries).get? key).isSome ↔ key ∈ entries.map Prod.fst := by
  have filled : ∀ (entries : List (κ × ν)) (register : Register κ ν),
      ((entries.foldl (fun register entry => register.put entry.1 entry.2)
        register).get? key).isSome ↔
      (register.get? key).isSome ∨ key ∈ entries.map Prod.fst := by
    intro entries
    induction entries with
    | nil => simp
    | cons entry later induction =>
        intro register
        rw [List.foldl_cons, induction, get?_put, List.map_cons,
          List.mem_cons]
        by_cases here : key = entry.1 <;> simp [here]
  rw [ofList, filled]
  simp

end Register

end DiceRoller
