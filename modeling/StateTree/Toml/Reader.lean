import StateTree.Toml.Lexeme
import StateTree.Toml.Plain
import StateTree.Toml.Tree

/-!
# `StateTree.Toml.Reader`: reading the settings notation

- `readValue`: a value.
- `Statement`, `readStatements`: the lines of a text.
- `parse?`: the entries of a whole text.
-/

set_option autoImplicit false

namespace StateTree.Toml

open StateTree.Text (Taken)

/-! ### Values -/

/-- A value other than an array or a table. -/
def readSimple (cs : List Char) : Option (Value × List Char) :=
  match readText cs with
  | some (text, rest) => some (.text (String.ofList text), rest)
  | none =>
    match Json.afterWord? "true".toList cs, Json.afterWord? "false".toList cs with
    | some rest, _ => some (.bool true, rest)
    | none, some rest => some (.bool false, rest)
    | none, none => (readPlain cs).map fun (written, rest) => (.plain written, rest)

/-- What was read from the front of a text, provided that something was. -/
def taken? {α : Type} (cs : List Char) : Option (α × List Char) → Option (Taken α cs)
  | none => none
  | some (value, rest) => if h : rest.length < cs.length then some ⟨value, rest, h⟩ else none

/-- A key and the equals sign after it. What may stand around the sign is left out by `skip`. -/
def readAssigned (skip : List Char → List Char) (cs : List Char) : Option (Taken Key cs) :=
  taken? cs do
    let (key, rest) ← readKey cs
    match skip rest with
    | '=' :: rest => some (key, skip rest)
    | _ => none

mutual

/-- A value. -/
def readValue (cs : List Char) : Option (Taken Value cs) :=
  match cs with
  | '[' :: rest =>
    (readItems rest).map fun taken => (taken.map .array).within (Nat.le_succ _)
  | '{' :: rest =>
    (readEntries [] rest).map fun taken =>
      (taken.map fun entries => .table (entryValues entries)).within (Nat.le_succ _)
  | cs => taken? cs (readSimple cs)
termination_by (cs.length, 0)
decreasing_by all_goals exact Prod.Lex.left _ _ (Nat.lt_succ_self _)

/-- The items of an array up to its closing bracket. A comma may stand after the last. -/
def readItems (cs : List Char) : Option (Taken (List Value) cs) :=
  match hopen : skipTrivia cs with
  | ']' :: rest => some ⟨[], rest, length_lt_of_skipTrivia hopen⟩
  | first =>
    have hfirst : first.length ≤ cs.length := hopen ▸ length_skipTrivia_le cs
    match readValue first with
    | none => none
    | some ⟨value, rest, hrest⟩ =>
      have hrest := Nat.lt_of_lt_of_le hrest hfirst
      match h : skipTrivia rest with
      | ',' :: rest' =>
        have hlt := Nat.lt_trans (length_lt_of_skipTrivia h) hrest
        (readItems rest').map fun taken => (taken.map (value :: ·)).within (Nat.le_of_lt hlt)
      | ']' :: rest' => some ⟨[value], rest', Nat.lt_trans (length_lt_of_skipTrivia h) hrest⟩
      | _ => none
termination_by (cs.length, 1)
decreasing_by
  · rcases Nat.lt_or_eq_of_le hfirst with hlt | heq
    · exact Prod.Lex.left _ _ hlt
    · rw [heq]; exact Prod.Lex.right _ (by decide)
  · exact Prod.Lex.left _ _ hlt

/-- The entries of a table in braces up to the closing one, after those read before. Line ends and
comments may stand anywhere but inside keys, and a comma after the last entry. -/
def readEntries (before : Entries) (cs : List Char) : Option (Taken Entries cs) :=
  match hopen : skipTrivia cs with
  | '}' :: rest => some ⟨before, rest, length_lt_of_skipTrivia hopen⟩
  | first =>
    have hfirst : first.length ≤ cs.length := hopen ▸ length_skipTrivia_le cs
    match readAssigned skipTrivia first with
    | none => none
    | some ⟨key, afterKey, hkey⟩ =>
      have hkey := Nat.lt_of_lt_of_le hkey hfirst
      match readValue afterKey with
      | none => none
      | some ⟨value, rest, hrest⟩ =>
        have hrest := Nat.lt_trans hrest hkey
        match before.assign key value with
        | none => none
        | some entries =>
          match h : skipTrivia rest with
          | ',' :: rest' =>
            have hlt := Nat.lt_trans (length_lt_of_skipTrivia h) hrest
            (readEntries entries rest').map fun taken => taken.within (Nat.le_of_lt hlt)
          | '}' :: rest' => some ⟨entries, rest', Nat.lt_trans (length_lt_of_skipTrivia h) hrest⟩
          | _ => none
termination_by (cs.length, 1)
decreasing_by
  · exact Prod.Lex.left _ _ hkey
  · exact Prod.Lex.left _ _ hlt

end

/-! ### Lines -/

/-- What a line says. -/
inductive Statement where
  /-- The lines after this one belong to a table. -/
  | table (key : Key)
  /-- The lines after this one belong to a new item of an array of tables. -/
  | item (key : Key)
  | entry (key : Key) (value : Value)

/-- The key of a header, up to the closing bracket. -/
def readHeader (cs : List Char) : Option (Key × List Char) := do
  let (key, rest) ← readKey (skipSpace cs)
  match rest with
  | ']' :: rest => some (key, rest)
  | _ => none

/-- The statement of a line. -/
def readStatement : List Char → Option (Statement × List Char)
  | '[' :: '[' :: rest => do
    let (key, rest) ← readHeader rest
    match rest with
    | ']' :: rest => some (.item key, rest)
    | _ => none
  | '[' :: rest => (readHeader rest).map fun (key, rest) => (.table key, rest)
  | cs => do
    let key ← readAssigned skipSpace cs
    let value ← readValue key.rest
    return (.entry key.value value.value, value.rest)

/-- The statements of a text. -/
def readStatements (cs : List Char) : Option (List Statement) :=
  match skipTrivia cs with
  | [] => some []
  | first =>
    match taken? cs (do
      let (statement, rest) ← readStatement first
      return (statement, ← afterLine? rest)) with
    | none => none
    | some ⟨statement, rest, _⟩ => (readStatements rest).map (statement :: ·)
termination_by cs.length

/-- The entries after a statement. The second component is the place of the table that the entries
of the next lines belong to. -/
def follow (state : Entries × List String) : Statement → Option (Entries × List String)
  | .table key => do
    let place := key.path ++ [key.name]
    return (← state.1.within (Entries.define · key.name) key.path, place)
  | .item key => do
    let place := key.path ++ [key.name]
    return (← state.1.within (Entries.append · key.name) key.path, place)
  | .entry key value => do
    return (← state.1.within (Entries.assign · key value) state.2, state.2)

/-- The entries of a text. A byte order mark may stand in front. -/
def parse? (src : String) : Option (List (String × Value)) := do
  let cs := match src.toList with
    | '\ufeff' :: rest => rest
    | cs => cs
  let statements ← readStatements cs
  let (entries, _) ← statements.foldlM follow ([], [])
  return entryValues entries

end StateTree.Toml
