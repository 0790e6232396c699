/-!
# `StateTree.Text.Taken`: reading a text from its front

A reader takes a value from the front of a text and leaves the rest. The rest carries the proof that
it is shorter, so readers of nested texts recurse on it.
-/

set_option autoImplicit false

namespace StateTree.Text

/-- A value taken from the front of `cs`, and the shorter rest. -/
structure Taken (α : Type) (cs : List Char) where
  value : α
  rest : List Char
  rest_lt : rest.length < cs.length

namespace Taken

variable {α β : Type} {cs ds : List Char}

/-- The same rest with another value. -/
def map (f : α → β) (taken : Taken α cs) : Taken β cs :=
  ⟨f taken.value, taken.rest, taken.rest_lt⟩

/-- What was taken from a text, as taken from a text at least as long. -/
def within (taken : Taken α cs) (h : cs.length ≤ ds.length) : Taken α ds :=
  ⟨taken.value, taken.rest, Nat.lt_of_lt_of_le taken.rest_lt h⟩

end Taken

/-- What is left after skipping is no longer than the text. -/
theorem length_dropWhile_le (p : Char → Bool) (cs : List Char) :
    (cs.dropWhile p).length ≤ cs.length :=
  (List.dropWhile_suffix p).length_le

end StateTree.Text
