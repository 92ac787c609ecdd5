import Mathlib.Data.List.Basic
import ClientTraits.Declaration.Catalog

/-!
# What a catalog finds

Resolution uses a catalog only through `Catalog.find?`. The lemmas here say what is found after
declarations were inserted, so that nothing else has to look into the list behind a catalog:
inserting changes what is found under one name only (`find?_insert`), and of several declarations
of a name the last one is found (`find?_ofList`).
-/

namespace ClientTraits

namespace Catalog

theorem find?_replaceOrAppend (i : Interface) (name : String) (interfaces : List Interface) :
    (replaceOrAppend i interfaces).find? (fun j => j.name == name) =
      if i.name = name then some i else interfaces.find? fun j => j.name == name := by
  induction interfaces with
  | nil => by_cases h : i.name = name <;> simp [replaceOrAppend, h]
  | cons j rest ih =>
      by_cases hj : j.name = i.name
      · -- Here `i` takes the place of `j`, which had the same name.
        by_cases h : i.name = name <;> simp [replaceOrAppend, hj, h]
      · rw [replaceOrAppend, if_neg hj]
        by_cases h : j.name = name
        · have hi : i.name ≠ name := fun hi => hj (h.trans hi.symm)
          simp [h, hi]
        · simp [h, ih]

/-- Inserting changes what is found under one name. -/
theorem find?_insert (c : Catalog) (i : Interface) (name : String) :
    (c.insert i).find? name = if i.name = name then some i else c.find? name :=
  find?_replaceOrAppend i name c.interfaces

theorem find?_foldl_insert (c : Catalog) (interfaces : List Interface) (name : String) :
    (interfaces.foldl insert c).find? name =
      (interfaces.filter fun i => i.name == name).getLast?.or (c.find? name) := by
  induction interfaces generalizing c with
  | nil => rfl
  | cons i rest ih =>
      rw [List.foldl_cons, ih, find?_insert]
      by_cases h : i.name = name
      · -- It counts unless there is a later one.
        rw [if_pos h, List.filter_cons_of_pos (by simpa using h), List.getLast?_cons]
        cases (rest.filter fun i => i.name == name).getLast? <;> rfl
      · rw [if_neg h, List.filter_cons_of_neg (by simpa using h)]

/-- Of the declarations of a name the last one is found. -/
theorem find?_ofList (interfaces : List Interface) (name : String) :
    (ofList interfaces).find? name = (interfaces.filter fun i => i.name == name).getLast? := by
  rw [ofList, find?_foldl_insert]
  exact Option.or_none

/-- A change that keeps the names commutes with looking up. -/
theorem find?_map (f : Interface → Interface) (hname : ∀ i, (f i).name = i.name) (c : Catalog)
    (name : String) : Catalog.find? ⟨c.interfaces.map f⟩ name = (c.find? name).map f := by
  rw [find?, List.find?_map, find?]
  congr 2
  funext i
  exact congrArg (· == name) (hname i)

end Catalog

end ClientTraits
