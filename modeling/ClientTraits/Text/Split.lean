/-!
# Cutting a text at a delimiter

A text is cut in two at the first delimiter, or into pieces at all of them. The delimiters
themselves are left out.
-/

namespace ClientTraits.Text

/-- What stands before and after the first `delimiter`; nothing if there is none. -/
def splitChars (delimiter : Char) : List Char → Option (List Char × List Char)
  | [] => none
  | c :: rest =>
    if c = delimiter then some ([], rest)
    else (splitChars delimiter rest).map fun (before, after) => (c :: before, after)

/-- A delimiter with none before it is the first one. -/
theorem splitChars_append_cons {delimiter : Char} {before : List Char} (h : delimiter ∉ before)
    (after : List Char) :
    splitChars delimiter (before ++ delimiter :: after) = some (before, after) := by
  induction before with
  | nil => simp [splitChars]
  | cons c before ih =>
      obtain ⟨hc, hbefore⟩ := List.ne_and_not_mem_of_not_mem_cons h
      rw [List.cons_append, splitChars, if_neg hc.symm, ih hbefore]
      rfl

/-- What stands before and after the first `delimiter` of a string. -/
def splitFirst (delimiter : Char) (s : String) : Option (String × String) :=
  (splitChars delimiter s.toList).map fun (before, after) =>
    (String.ofList before, String.ofList after)

/-- The pieces between the delimiters. There is one more of them than there are delimiters. -/
def pieceChars (delimiter : Char) : List Char → List (List Char)
  | [] => [[]]
  | c :: rest =>
    if c = delimiter then [] :: pieceChars delimiter rest
    else
      match pieceChars delimiter rest with
      | [] => [[c]]
      | piece :: pieces => (c :: piece) :: pieces

/-- The pieces of a string between the delimiters. -/
def pieces (delimiter : Char) (s : String) : List String :=
  (pieceChars delimiter s.toList).map String.ofList

end ClientTraits.Text
