/-
# Dictionaries in order

Entries by name, in the order in which the names first came up.  Giving a name a second value
keeps its place.  Lookup is `List.lookup`.
-/
import ScriptTemplate.Text.Basic

namespace ScriptTemplate

/-- Entries by name, in order; the first entry of a name counts. -/
abbrev Dictionary (α : Type) := List (Text × α)

namespace Dictionary

variable {α : Type}

/-- Puts a value under a name: in the place of an earlier value of that name, or at the end. -/
def insert (entries : Dictionary α) (name : Text) (value : α) : Dictionary α :=
  if entries.any (·.1 == name) then
    entries.map fun entry => if entry.1 == name then (name, value) else entry
  else entries ++ [(name, value)]

/-- The dictionary that results from giving values one after the other. -/
def ofList (entries : List (Text × α)) : Dictionary α :=
  entries.foldl (fun done entry => done.insert entry.1 entry.2) []

/-- The names that have an entry. -/
def names (entries : Dictionary α) : List Text := entries.map (·.1)

/-! ## Looking up what was put in -/

theorem lookup_map_replace (entries : Dictionary α) (name key : Text) (value : α) :
    (entries.map fun entry => if entry.1 == name then (name, value) else entry).lookup key =
      if key = name then (entries.lookup key).map fun _ => value else entries.lookup key := by
  induction entries with
  | nil => simp
  | cons entry rest ih =>
    obtain ⟨other, held⟩ := entry
    rw [List.map_cons]
    by_cases same : other = name
    · subst same
      by_cases found : key = other
      · subst found
        simp
      · have apart : (key == other) = false := by simpa using found
        simp only [beq_self_eq_true, if_true, List.lookup_cons, apart, ih]
    · have kept : (other == name) = false := by simpa using same
      simp only [kept, Bool.false_eq_true, if_false]
      by_cases found : key = other
      · subst found
        simp [same]
      · have apart : (key == other) = false := by simpa using found
        simp only [List.lookup_cons, apart, ih]

theorem any_eq_isSome_lookup (entries : Dictionary α) (name : Text) :
    entries.any (·.1 == name) = (entries.lookup name).isSome := by
  induction entries with
  | nil => rfl
  | cons entry rest ih =>
    obtain ⟨other, held⟩ := entry
    by_cases same : name = other
    · subst same
      simp
    · have apart : (name == other) = false := by simpa using same
      have apart' : (other == name) = false := by simpa using Ne.symm same
      simp only [List.any_cons, apart', Bool.false_or, List.lookup_cons, apart, ih]

/-- **A name has the value it was given last, and the other names keep theirs.** -/
theorem lookup_insert (entries : Dictionary α) (name key : Text) (value : α) :
    (entries.insert name value).lookup key =
      if key = name then some value else entries.lookup key := by
  rw [insert, any_eq_isSome_lookup]
  cases found : entries.lookup name with
  | some old =>
    rw [Option.isSome_some, if_pos rfl, lookup_map_replace]
    by_cases same : key = name
    · rw [if_pos same, if_pos same, same, found, Option.map_some]
    · rw [if_neg same, if_neg same]
  | none =>
    rw [Option.isSome_none, if_neg Bool.false_ne_true, List.lookup_append]
    by_cases same : key = name
    · rw [if_pos same, same, found]
      simp
    · have apart : (key == name) = false := by simpa using same
      simp [List.lookup_cons, apart, same]

end Dictionary

end ScriptTemplate
