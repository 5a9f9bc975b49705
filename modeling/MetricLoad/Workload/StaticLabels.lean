/-!
# Static labels

A map from label names to values.  Its entries are kept in strictly increasing order of their names,
by code point, so every name occurs once and equal maps have equal entries.
-/

namespace MetricLoad

/-- Label names with their values, sorted by name. -/
structure StaticLabels where
  entries : List (String × String)
  increasing : entries.Pairwise (fun a b => a.1 < b.1) := by exact List.Pairwise.nil
  deriving DecidableEq, Repr

namespace StaticLabels

instance : Inhabited StaticLabels := ⟨⟨[], List.Pairwise.nil⟩⟩

/-- The map without entries. -/
def empty : StaticLabels := ⟨[], List.Pairwise.nil⟩

/-- Puts an entry into a sorted list in place of one with the same name. -/
def insertEntry (name value : String) : List (String × String) → List (String × String)
  | [] => [(name, value)]
  | (key, old) :: rest =>
    if name < key then (name, value) :: (key, old) :: rest
    else if name = key then (name, value) :: rest
    else (key, old) :: insertEntry name value rest

theorem mem_insertEntry {name value : String} {entries : List (String × String)}
    {entry : String × String} (h : entry ∈ insertEntry name value entries) :
    entry = (name, value) ∨ entry ∈ entries := by
  induction entries with
  | nil => simpa [insertEntry] using h
  | cons first rest ih =>
    obtain ⟨key, old⟩ := first
    simp only [insertEntry] at h
    split at h
    · simpa using h
    · split at h
      · simp only [List.mem_cons] at h ⊢
        rcases h with h | h
        · exact Or.inl h
        · exact Or.inr (Or.inr h)
      · simp only [List.mem_cons] at h ⊢
        rcases h with h | h
        · exact Or.inr (Or.inl h)
        · rcases ih h with h | h
          · exact Or.inl h
          · exact Or.inr (Or.inr h)

theorem pairwise_insertEntry (name value : String) {entries : List (String × String)}
    (h : entries.Pairwise (fun a b => a.1 < b.1)) :
    (insertEntry name value entries).Pairwise (fun a b => a.1 < b.1) := by
  induction entries with
  | nil => simp [insertEntry]
  | cons first rest ih =>
    obtain ⟨key, old⟩ := first
    have hrest := List.pairwise_cons.1 h
    simp only [insertEntry]
    split
    · rename_i hlt
      refine List.pairwise_cons.2 ⟨?_, h⟩
      intro entry hmem
      rcases List.mem_cons.1 hmem with rfl | hmem
      · exact hlt
      · exact String.lt_trans hlt (hrest.1 entry hmem)
    · rename_i hnot
      split
      · rename_i heq
        subst heq
        exact List.pairwise_cons.2 ⟨hrest.1, hrest.2⟩
      · rename_i hne
        refine List.pairwise_cons.2 ⟨?_, ih hrest.2⟩
        intro entry hmem
        rcases mem_insertEntry hmem with rfl | hmem
        · exact Std.lt_of_le_of_ne (String.not_lt.1 hnot) (fun h => hne h.symm)
        · exact hrest.1 entry hmem

/-- The map with an entry; a present name gets the new value. -/
def insert (labels : StaticLabels) (name value : String) : StaticLabels :=
  ⟨insertEntry name value labels.entries, pairwise_insertEntry name value labels.increasing⟩

/-- The map of some entries; of a repeated name the last value stays. -/
def ofList (entries : List (String × String)) : StaticLabels :=
  entries.foldl (fun labels (name, value) => labels.insert name value) empty

end StaticLabels
end MetricLoad
