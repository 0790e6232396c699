import StateTree.Naming.Convention
import StateTree.Outline.Converter
import StateTree.Proofs.Text.CaseMapping

/-!
# `StateTree.Proofs.Outline.Signatures`: the types that converter methods name

The signature of a converter method names the type to convert, itself or inside a helper type, as
`Instance<typeof Group>`. Apart from words of the language, the words of all signatures are the
types to convert and the helper types that the file imports for them.

The import is put together from what each type to convert asks for, not from the signatures. That
the two agree needs the names of types to be read back from the text of a signature, so it rests on
two facts about names: they have no character that sets words apart, and helper types are reserved.

- `Source.typeWords`: the words of a type.
- `caseClosed_isWordCharacter`: names have none of the characters that set words apart.
- `allHelpers_eq`: the imported helper types are those that the signatures name.
- `mem_typeWords_methods`: what else the signatures name.
-/

set_option autoImplicit false

namespace StateTree

namespace Source

/-- The characters that words are made of: all but those that set the words of a type apart.
Signatures have no others that do. -/
def isWordCharacter (c : Char) : Bool :=
  c ≠ '<' && c ≠ '>' && c ≠ ' '

/-- The words of a type, which angle brackets and blanks set apart. It is read off the text of a
signature, without looking at how that was put together. -/
def typeWords (type : String) : List String :=
  ((type.toList.splitOnP fun c => !isWordCharacter c).map String.ofList).filter fun word =>
    word ≠ ""

/-- The words in the signature of a method. -/
def Method.typeWords (method : Method) : List String :=
  Source.typeWords method.paramType ++ Source.typeWords method.returns

/-- No change of case leads to a character that sets words apart or away from one. All three come
before the letters in the order of characters. -/
theorem caseClosed_isWordCharacter : Text.CaseClosed isWordCharacter := by
  refine Text.caseClosed_of_letters fun c hc => ?_
  have hne : ∀ d : Char, d.toNat < 0x41 → c ≠ d := by
    rintro d hd rfl
    omega
  simp [isWordCharacter, hne]

/-- What sets words apart is no letter and no number. So a name, which is made of these, is one
word. -/
theorem isWordCharacter_of_isAlphanumeric {c : Char} (h : Text.isAlphanumeric c = true) :
    isWordCharacter c = true := by
  by_contra hc
  simp only [isWordCharacter, Bool.and_eq_true, decide_eq_true_eq, not_and_or, not_not] at hc
  rcases hc with (rfl | rfl) | rfl <;> revert h <;> decide

variable {name word : String}

/-- The word of a type that is one word, such as that of an enum. -/
theorem mem_typeWords_iff (hname : name.toList.all isWordCharacter = true) :
    word ∈ typeWords name ↔ word ≠ "" ∧ word = name := by
  rw [typeWords, List.splitOnP_eq_singleton (by simpa using hname)]
  simp [and_comm]

/-- The words of a helper type of a constant: the helper, the operator and the name. That the name
is one word is needed for it to come out whole. -/
theorem mem_typeWords_typeof_iff {helper : String}
    (hhelper : helper.toList.all isWordCharacter = true)
    (hname : name.toList.all isWordCharacter = true) :
    word ∈ typeWords (helper ++ "<typeof " ++ name ++ ">") ↔
      word ≠ "" ∧ (word = helper ∨ word = "typeof" ∨ word = name) := by
  have hlist : (helper ++ "<typeof " ++ name ++ ">").toList =
      helper.toList ++ '<' :: ("typeof".toList ++ ' ' :: (name.toList ++ '>' :: [])) := by
    simp [String.toList_append]
  have hall : ∀ {s : String}, s.toList.all isWordCharacter = true →
      ∀ c ∈ s.toList, (!isWordCharacter c) = false := by simp
  rw [typeWords, hlist, List.splitOnP_append_cons_of_forall_mem (hall hhelper) _ rfl,
    List.splitOnP_append_cons_of_forall_mem (hall (by decide)) _ rfl,
    List.splitOnP_append_cons_of_forall_mem (hall hname) _ rfl, List.splitOnP_nil]
  simp only [List.map_cons, List.map_nil, String.ofList_toList, List.mem_filter, List.mem_cons,
    List.not_mem_nil, or_false, decide_eq_true_eq, String.ofList_nil]
  rw [and_comm]
  refine and_congr_right ?_
  intro hne
  -- The fourth piece, behind the closing bracket, is empty.
  simp [hne]

end Source

namespace Outline

open StateTree.Source (isWordCharacter)

/-- The helper types that there are, in alphabetical order. They are reserved, so no type is
called like one. -/
def helperTypes : List String :=
  ["Instance", "SnapshotIn", "SnapshotOut"]

variable {client : Client} {checks : Bool} {word : String}

/-- The words of the signatures of a type's methods are those of its decoded and its encoded form,
besides that of texts. Each form is in some signature, so none of its words is missing. -/
theorem Client.mem_typeWords_methods_iff :
    (∃ method ∈ client.methods checks, word ∈ method.typeWords) ↔ word = "string" ∨
      word ∈ Source.typeWords (client.types checks).1 ∨
      word ∈ Source.typeWords (client.types checks).2 := by
  have hstring : Source.typeWords "string" = ["string"] := by decide
  simp only [Client.methods, Source.Method.typeWords, List.mem_cons, List.not_mem_nil, or_false,
    exists_eq_or_imp, exists_eq_left, List.mem_append, hstring]
  tauto

/-- An enum stands for itself in signatures, and any other type inside helper types. Which helper
types these are depends on whether there are runtime checks. -/
theorem Client.types_cases (client : Client) (checks : Bool) :
    client.types checks = (client.name, client.name) ∧ client.helpers checks = [] ∨
    ∃ decoded encoded, decoded ∈ helperTypes ∧ encoded ∈ helperTypes ∧
      client.types checks =
        (decoded ++ "<typeof " ++ client.name ++ ">", encoded ++ "<typeof " ++ client.name ++ ">") ∧
      ∀ helper, helper ∈ client.helpers checks ↔ helper = decoded ∨ helper = encoded := by
  by_cases henum : client.isEnum
  · exact .inl (by simp [types, helpers, henum])
  · cases checks with
    | true =>
      exact .inr ⟨"Instance", "Instance", by simp [types, helpers, helperTypes, henum]⟩
    | false =>
      exact .inr ⟨"SnapshotIn", "SnapshotOut", by simp [types, helpers, helperTypes, henum]⟩

/-- A helper type is one word. -/
theorem isWord_of_mem_helperTypes :
    ∀ helper ∈ helperTypes, helper ≠ "" ∧ helper.toList.all isWordCharacter = true := by
  decide

/-- A type's signatures name the type, its helper types and words of the language. -/
theorem Client.mem_typeWords_methods (hname : client.name.toList.all isWordCharacter = true)
    (h : ∃ method ∈ client.methods checks, word ∈ method.typeWords) :
    word = "string" ∨ word = "typeof" ∨ word = client.name ∨ word ∈ client.helpers checks := by
  rw [Client.mem_typeWords_methods_iff] at h
  -- An enum stands for itself on both sides, any other type inside a helper type for each.
  obtain ⟨htypes, -⟩ | ⟨decoded, encoded, hdecoded, hencoded, htypes, hhelpers⟩ :=
    client.types_cases checks
  · rw [htypes, or_self, Source.mem_typeWords_iff hname] at h
    exact h.imp_right fun hword => .inr (.inl hword.2)
  · rw [htypes, Source.mem_typeWords_typeof_iff (isWord_of_mem_helperTypes _ hdecoded).2 hname,
      Source.mem_typeWords_typeof_iff (isWord_of_mem_helperTypes _ hencoded).2 hname] at h
    rw [hhelpers]
    tauto

/-- A type's signatures name all its helper types. So no helper type is imported in vain. -/
theorem Client.exists_method_of_helper (hname : client.name.toList.all isWordCharacter = true)
    (h : word ∈ client.helpers checks) :
    ∃ method ∈ client.methods checks, word ∈ method.typeWords := by
  rw [Client.mem_typeWords_methods_iff]
  obtain ⟨-, hhelpers⟩ | ⟨decoded, encoded, hdecoded, hencoded, htypes, hhelpers⟩ :=
    client.types_cases checks
  · simp [hhelpers] at h
  · rw [htypes, Source.mem_typeWords_typeof_iff (isWord_of_mem_helperTypes _ hdecoded).2 hname,
      Source.mem_typeWords_typeof_iff (isWord_of_mem_helperTypes _ hencoded).2 hname]
    obtain rfl | rfl := (hhelpers word).1 h
    · exact .inr (.inl ⟨(isWord_of_mem_helperTypes _ hdecoded).1, .inl rfl⟩)
    · exact .inr (.inr ⟨(isWord_of_mem_helperTypes _ hencoded).1, .inl rfl⟩)

/-! ### All signatures of a file -/

variable {clients : List Client}

/-- A helper type is imported exactly if the signatures name it. A type to convert is never taken
for one, since helper types are reserved. -/
theorem allHelpers_eq
    (hnames : ∀ client ∈ clients, client.name.toList.all isWordCharacter = true)
    (hreserved : ∀ client ∈ clients, client.name ∉ Naming.Convention.moduleReserved)
    (checks : Bool) :
    allHelpers clients checks = helperTypes.filter fun helper =>
      (clients.flatMap fun client => client.methods checks).any fun method =>
        method.typeWords.contains helper := by
  have hother : ∀ helper ∈ helperTypes, helper ≠ "string" ∧ helper ≠ "typeof" ∧
      helper ∈ Naming.Convention.moduleReserved := by decide
  refine List.filter_congr ?_
  intro helper hhelper
  rw [Bool.eq_iff_iff]
  simp only [List.any_eq_true, List.mem_flatMap, List.contains_iff_mem]
  constructor
  · rintro ⟨client, hclient, hmem⟩
    obtain ⟨method, hmethod, hword⟩ := Client.exists_method_of_helper (hnames client hclient) hmem
    exact ⟨method, ⟨client, hclient, hmethod⟩, hword⟩
  · rintro ⟨method, ⟨client, hclient, hmethod⟩, hword⟩
    -- The word of a signature is one of the language, the name of the type, or a helper type.
    obtain ⟨hstring, htypeof, hmodule⟩ := hother helper hhelper
    obtain rfl | rfl | rfl | hmem :=
      Client.mem_typeWords_methods (hnames client hclient) ⟨method, hmethod, hword⟩
    · exact absurd rfl hstring
    · exact absurd rfl htypeof
    · exact absurd hmodule (hreserved client hclient)
    · exact ⟨client, hclient, hmem⟩

/-- Whatever the signatures name besides words of the language is a type to convert or a helper
type that is imported. It is the last of the places where a file has names in it. -/
theorem mem_typeWords_cases
    (hnames : ∀ client ∈ clients, client.name.toList.all isWordCharacter = true)
    {method : Source.Method}
    (hmethod : method ∈ clients.flatMap fun client => client.methods checks)
    (hword : word ∈ method.typeWords) :
    word ∈ ["string", "typeof"] ∨ word ∈ clients.map Client.name ∨
      word ∈ allHelpers clients checks := by
  obtain ⟨client, hclient, hmethod⟩ := List.mem_flatMap.1 hmethod
  obtain rfl | rfl | rfl | hmem :=
    Client.mem_typeWords_methods (hnames client hclient) ⟨method, hmethod, hword⟩
  · simp
  · simp
  · exact .inr (.inl (List.mem_map_of_mem hclient))
  · refine .inr (.inr (List.mem_filter.2 ⟨?_, ?_⟩))
    · -- A type has no other helper types than those that there are.
      obtain ⟨-, hhelpers⟩ | ⟨_, _, hdecoded, hencoded, -, hhelpers⟩ := client.types_cases checks
      · simp [hhelpers] at hmem
      · obtain rfl | rfl := (hhelpers word).1 hmem
        · exact hdecoded
        · exact hencoded
    · exact List.any_eq_true.2 ⟨client, hclient, by simpa using hmem⟩

end Outline

end StateTree
