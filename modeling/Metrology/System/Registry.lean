namespace Metrology

/-- Entries under keys, in the order in which the keys were first registered. -/
structure Registry (α : Type) where
  entries : List (String × α) := []

namespace Registry

variable {α : Type}

def find? (r : Registry α) (key : String) : Option α :=
  r.entries.lookup key

def keys (r : Registry α) : List String :=
  r.entries.map (·.1)

def size (r : Registry α) : Nat :=
  r.entries.length

/-- Binds a key. A known key keeps its place, a new one comes last. -/
def bind (key : String) (entry : α) : List (String × α) → List (String × α)
  | [] => [(key, entry)]
  | (k, old) :: rest => if k = key then (k, entry) :: rest else (k, old) :: bind key entry rest

def insert (r : Registry α) (key : String) (entry : α) : Registry α :=
  ⟨bind key entry r.entries⟩

theorem lookup_bind (key k : String) (entry : α) (entries : List (String × α)) :
    (bind key entry entries).lookup k = if k = key then some entry else entries.lookup k := by
  induction entries with
  | nil => by_cases h : k = key <;> simp [bind, List.lookup_cons, h, beq_eq_false_iff_ne.mpr]
  | cons head rest ih =>
    obtain ⟨name, old⟩ := head
    by_cases same : name = key
    · subst same
      by_cases h : k = name <;> simp [bind, List.lookup_cons, h, beq_eq_false_iff_ne.mpr]
    · by_cases h : k = name
      · subst h
        simp [bind, same]
      · simp [bind, List.lookup_cons, same, beq_eq_false_iff_ne.mpr h, ih]

theorem keys_bind (key : String) (entry : α) (entries : List (String × α)) :
    (bind key entry entries).map (·.1) =
      if key ∈ entries.map (·.1) then entries.map (·.1) else entries.map (·.1) ++ [key] := by
  induction entries with
  | nil => simp [bind]
  | cons head rest ih =>
    obtain ⟨name, old⟩ := head
    by_cases same : name = key
    · simp [bind, same]
    · have other : ¬key = name := fun h => same h.symm
      simp only [bind, if_neg same, List.map_cons, ih, List.mem_cons, other, false_or]
      split <;> simp

theorem find?_insert (r : Registry α) (key k : String) (entry : α) :
    (r.insert key entry).find? k = if k = key then some entry else r.find? k :=
  lookup_bind key k entry r.entries

theorem keys_insert (r : Registry α) (key : String) (entry : α) :
    (r.insert key entry).keys = if key ∈ r.keys then r.keys else r.keys ++ [key] :=
  keys_bind key entry r.entries

end Registry

end Metrology
