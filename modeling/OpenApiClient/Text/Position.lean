/-
Places in a text.

A position counts characters from the start of a text.  A person who looks for it wants a
line and a column instead, both counted from one.
-/

set_option autoImplicit false

namespace OpenApiClient.Text

/-- The line of a position, counted from one. -/
def lineAt (text : List Char) (position : Nat) : Nat := (text.take position).count '\n' + 1

/-- The column of a position, counted from one. -/
def columnAt (text : List Char) (position : Nat) : Nat :=
  ((text.take position).reverse.takeWhile (· ≠ '\n')).length + 1

end OpenApiClient.Text
