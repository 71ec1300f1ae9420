/-!
# Values under names

Entries in the order in which their names first came. Putting a value under a name that is there
replaces the value in its place. In a dictionary every name occurs once.
-/

namespace Stencil

abbrev Entries (α : Type) := List (String × α)

namespace Entries

variable {α : Type}

/-- The first value under a name. -/
def find? : Entries α → String → Option α
  | [], _ => none
  | (k, v) :: rest, name => if k = name then some v else find? rest name

/-- The entries with a value put under a name: in the place of the value that was there, or last. -/
def insert : Entries α → String → α → Entries α
  | [], name, value => [(name, value)]
  | (k, v) :: rest, name, value =>
    if k = name then (k, value) :: rest else (k, v) :: insert rest name value

def names (es : Entries α) : List String := es.map Prod.fst

theorem names_insert (es : Entries α) (name : String) (value : α) :
    names (insert es name value) =
      if name ∈ names es then names es else names es ++ [name] := by
  induction es with
  | nil => simp [insert, names]
  | cons e es ih =>
    obtain ⟨k, v⟩ := e
    simp only [insert]
    by_cases h : k = name
    · simp [h, names]
    · have hk : ¬ name = k := fun e => h e.symm
      simp only [h, if_false]
      simp only [names, List.map_cons, List.mem_cons, hk, false_or] at ih ⊢
      rw [ih]
      split <;> simp_all

theorem nodup_insert {es : Entries α} (h : (names es).Nodup) (name : String) (value : α) :
    (names (insert es name value)).Nodup := by
  rw [names_insert]
  split
  · exact h
  · next hn =>
    rw [List.nodup_append]
    refine ⟨h, by simp, ?_⟩
    intro a ha b hb hab
    simp only [List.mem_singleton] at hb
    exact hn (hb ▸ hab ▸ ha)

theorem find?_insert (es : Entries α) (name other : String) (value : α) :
    find? (insert es name value) other = if other = name then some value else find? es other := by
  induction es with
  | nil =>
    by_cases h : name = other
    · simp [insert, find?, h]
    · have : ¬ other = name := fun e => h e.symm
      simp [insert, find?, h, this]
  | cons e es ih =>
    obtain ⟨k, v⟩ := e
    by_cases h : k = name
    · by_cases ho : other = name
      · simp [insert, find?, h, ho]
      · have : ¬ name = other := fun e => ho e.symm
        simp [insert, find?, h, ho, this]
    · by_cases hk : k = other
      · have : ¬ other = name := fun e => h (hk.trans e)
        simp [insert, find?, hk, this]
      · simp only [insert, h, if_false, find?, hk, ih]

end Entries

/-- Entries whose names all differ. -/
structure Dictionary (α : Type) where
  entries : Entries α
  nodup : (Entries.names entries).Nodup

namespace Dictionary

variable {α : Type}

def empty : Dictionary α := ⟨[], by simp [Entries.names]⟩

def find? (d : Dictionary α) (name : String) : Option α := Entries.find? d.entries name

def insert (d : Dictionary α) (name : String) (value : α) : Dictionary α :=
  ⟨Entries.insert d.entries name value, Entries.nodup_insert d.nodup name value⟩

/-- The entries put one after the other. -/
def ofList (es : Entries α) : Dictionary α :=
  es.foldl (fun d e => d.insert e.1 e.2) empty

def names (d : Dictionary α) : List String := Entries.names d.entries

def size (d : Dictionary α) : Nat := d.entries.length

end Dictionary

end Stencil
