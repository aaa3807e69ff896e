namespace Flowplan

abbrev Entries (α : Type) := List (String × α)

namespace Entries

variable {α β : Type}

def names (entries : Entries α) : List String := entries.map (·.1)

def has (entries : Entries α) (name : String) : Bool := entries.any (·.1 == name)

/-- Writes one value: in place if the name is there, at the end if it is new. -/
def put (name : String) (value : α) : Entries α → Entries α
  | [] => [(name, value)]
  | (n, v) :: rest => if n == name then (name, value) :: rest else (n, v) :: put name value rest

def putAll (entries : Entries α) (more : Entries α) : Entries α :=
  more.foldl (fun acc (name, value) => acc.put name value) entries

def erase (entries : Entries α) (name : String) : Entries α := entries.filter (·.1 != name)

def mapValues (f : α → β) (entries : Entries α) : Entries β := entries.map fun (n, v) => (n, f v)

@[simp] theorem put_nil (name : String) (value : α) : put name value [] = [(name, value)] := rfl

@[simp] theorem putAll_nil (entries : Entries α) : entries.putAll [] = entries := rfl

@[simp] theorem lookup_put (name : String) (value : α) (entries : Entries α) :
    (put name value entries).lookup name = some value := by
  induction entries with
  | nil => simp
  | cons e rest ih =>
    rcases e with ⟨other, old⟩
    by_cases h : other = name
    · simp [put, h]
    · have h' : (name == other) = false := by simpa using Ne.symm h
      simp [put, h, List.lookup_cons, h', ih]

theorem lookup_put_of_ne {name other : String} (h : other ≠ name) (value : α)
    (entries : Entries α) : (put name value entries).lookup other = entries.lookup other := by
  have h' : (other == name) = false := by simpa using h
  induction entries with
  | nil => simp [List.lookup_cons, h']
  | cons e rest ih =>
    rcases e with ⟨first, old⟩
    by_cases hn : first = name
    · subst hn
      simp [put, List.lookup_cons, h']
    · simp [put, hn, List.lookup_cons, ih]

end Entries

end Flowplan
