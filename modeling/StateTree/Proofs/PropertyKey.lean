import StateTree.Proofs.Text.Literals
import StateTree.PropertyKey

/-!
# `StateTree.Proofs.PropertyKey`: a key reads back as its name

A key is a name that stands for itself or the literal of a name. Which of the two it is can be seen
from its first character: a name with a quote or a backslash anywhere in it is changed by escaping,
so it never stands bare. This holds under every convention, whatever it takes for an identifier, and
no two names have one key.

- `readKey?`: the reader of keys.
- `KeyConvention.readKey?_key`: a key reads back as its name.
- `KeyConvention.key_injective`: two names have two keys.
-/

set_option autoImplicit false

namespace StateTree

open StateTree.Text

/-- The UTF-16 units of the name that a key stands for. A bare key stands for itself, and has no
escapes here; a quoted one has to be one literal and nothing else. -/
def readKey? (key : String) : Option (List Nat) :=
  if key.toList.head? = some '"' then
    match readLiteral? key.toList with
    | some (units, []) => some units
    | _ => none
  else if '\\' ∈ key.toList then none
  else some (utf16 key.toList)

namespace KeyConvention

variable (convention : KeyConvention) {name : String}

/-- No character of a bare key needs an escape, because escaping must not change it. -/
theorem needsEscape_of_isBare (h : convention.isBare name = true) :
    ∀ c ∈ name.toList, needsEscape c = false := by
  refine escape_eq_self_iff.1 ?_
  unfold isBare at h
  split at h
  · cases h
  · simp only [Bool.and_eq_true, beq_iff_eq] at h
    exact h.1.2

/-- A key reads back as its name, whether it is bare or a literal. Entries of models are told
apart by this. -/
theorem readKey?_key (name : String) :
    readKey? (convention.key name) = some (utf16 name.toList) := by
  unfold key
  split
  · -- A bare name has no character that is escaped, so it begins with no quote.
    rename_i hbare
    have hplain := convention.needsEscape_of_isBare hbare
    have hquote : '"' ∉ name.toList := fun hmem => absurd (hplain '"' hmem) (by decide)
    have hbackslash : '\\' ∉ name.toList := fun hmem => absurd (hplain '\\' hmem) (by decide)
    have hhead : name.toList.head? ≠ some '"' := fun h => hquote (List.mem_of_mem_head? h)
    rw [readKey?, if_neg hhead, if_neg hbackslash]
  · have hhead : (quote name).toList.head? = some '"' := by simp [quote, String.toList_append]
    have hread : readLiteral? (quote name).toList = some (utf16 name.toList, []) := by
      simpa using readLiteral?_quote name []
    rw [readKey?, if_pos hhead, hread]

/-- Two names have two keys. So distinct names of properties give distinct keys, under every
convention. -/
theorem key_injective : Function.Injective convention.key := by
  intro name other h
  have hunits : some (utf16 name.toList) = some (utf16 other.toList) := by
    rw [← convention.readKey?_key name, h, convention.readKey?_key other]
  exact String.toList_inj.1 (utf16_injective (Option.some.inj hunits))

end KeyConvention

end StateTree
