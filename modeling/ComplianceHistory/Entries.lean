import ComplianceHistory.Keyed

/-!
# Entries in order of insertion

A finite map from names to values that remembers the order in which the names were first given.
Writing a name that is there already replaces its value and keeps its place.
-/

namespace ComplianceHistory

/-- Named values in order of insertion. -/
abbrev Entries (α : Type) := Keyed String α

namespace Entries

variable {α β : Type}

/-- The value of a name. -/
def get? (es : Entries α) (name : String) : Option α := Keyed.get? es name

/-- Whether a name is there. -/
def has (es : Entries α) (name : String) : Bool := (es.get? name).isSome

/-- Gives a name a value, at its old place or else at the end. -/
def put (es : Entries α) (name : String) (x : α) : Entries α := Keyed.put es name x

/-- Gives names values one after the other. -/
def putAll (es : Entries α) (new : Entries α) : Entries α :=
  new.foldl (fun acc e => put acc e.1 e.2) es

/-- The entries of a list of pairs, of which the last one with a name gives its value. -/
def ofList (es : List (String × α)) : Entries α := putAll [] es

/-- The same names with other values. -/
def mapValues (f : α → β) (es : Entries α) : Entries β := es.map fun e => (e.1, f e.2)

theorem get?_put_self (es : Entries α) (name : String) (x : α) :
    (put es name x).get? name = some x := by
  rw [get?, put, Keyed.get?_put, if_pos rfl]

theorem get?_put_of_ne (es : Entries α) {name other : String} (x : α) (h : other ≠ name) :
    (put es name x).get? other = es.get? other := by
  rw [get?, put, Keyed.get?_put, if_neg h, get?]

/-- Looking up a name after its values have been changed. -/
theorem get?_mapValues (f : α → β) (es : Entries α) (name : String) :
    (es.mapValues f).get? name = (es.get? name).map f := by
  induction es with
  | nil => rfl
  | cons e es ih =>
    show Keyed.get? ((e.1, f e.2) :: mapValues f es) name = (Keyed.get? (e :: es) name).map f
    rw [Keyed.get?_cons, Keyed.get?_cons]
    split
    · rfl
    · exact ih

/-- New names go to the end one after the other. -/
theorem putAll_of_nodup (es : Entries α) {new : Entries α} (h : (Keyed.keys es ++ Keyed.keys new).Nodup) :
    putAll es new = es ++ new := by
  induction new generalizing es with
  | nil => exact (List.append_nil es).symm
  | cons e new ih =>
    have he : e.1 ∉ Keyed.keys es := fun hmem =>
      (List.nodup_append.mp h).2.2 _ hmem _ List.mem_cons_self rfl
    show putAll (Keyed.put es e.1 e.2) new = _
    rw [Keyed.put_of_not_mem es e.2 he, ih]
    · simp
    · simpa [Keyed.keys] using h

theorem mem_of_mem_putAll {es new : Entries α} {e : String × α} (h : e ∈ putAll es new) : e ∈ new ∨ e ∈ es := by
  induction new generalizing es with
  | nil => exact .inr h
  | cons d new ih =>
    rcases ih h with h | h
    · exact .inl (List.mem_cons_of_mem d h)
    · rcases Keyed.mem_of_mem_put h with rfl | h
      · exact .inl List.mem_cons_self
      · exact .inr h

theorem nodup_keys_putAll {es : Entries α} (h : (Keyed.keys es).Nodup) (new : Entries α) :
    (Keyed.keys (putAll es new)).Nodup := by
  induction new generalizing es with
  | nil => exact h
  | cons e new ih => exact ih (Keyed.nodup_keys_put h e.1 e.2)

theorem nodup_keys_ofList (es : List (String × α)) : (Keyed.keys (ofList es)).Nodup := by
  have h : (Keyed.keys ([] : Entries α)).Nodup := List.nodup_nil
  exact nodup_keys_putAll h es

theorem keys_mapValues (f : α → β) (es : Entries α) : Keyed.keys (mapValues f es) = Keyed.keys es := by
  unfold mapValues Keyed.keys
  rw [List.map_map]
  rfl

end Entries

end ComplianceHistory
