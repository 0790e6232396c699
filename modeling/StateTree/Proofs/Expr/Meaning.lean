import StateTree.Proofs.Expr.Translation

/-!
# `StateTree.Proofs.Expr.Meaning`: what a type stands for

The meaning of a type is a tree: the shape of the type with everything in it that is written out,
down to scalars and to the classes and enums that are referred to. No name occurs in it and no
declaration.

- `Meaning`: the trees.
- `keptMembers`: the members of a union that count; `distinctMembers_eq_keptMembers`: they are the
  ones that are translated.
- `meaning`: the tree of a type.
-/

set_option autoImplicit false

namespace StateTree.Expr

open StateTree.Graph

/-- What a type stands for. Classes and enums are leaves, known by their positions, so that the
tree of a type is finite also where classes refer to each other. -/
inductive Meaning where
  /-- A value of any shape, passed on as it is. -/
  | any
  | null
  | boolean
  | number
  | string
  | date
  | array (items : Meaning)
  /-- A class, by its position. -/
  | object (id : TypeId)
  /-- An enum, by its position. -/
  | enumeration (id : TypeId)
  | union (members : List Meaning)

/-- What a primitive type stands for. Whole and other numbers are not told apart, and of the
formats of strings only that of dates is. -/
def Meaning.ofPrimitive : Primitive → Meaning
  | .any => any
  | .null => null
  | .bool => boolean
  | .integer => number
  | .double => number
  | .string => string
  | .formatted .dateTime => date
  | .formatted _ => string

/-- Whether a member of a union is primitive, and one before it has the same primitive type. -/
def isRepeated (kind : TypeId → Kind) (before : List TypeId) (member : TypeId) : Bool :=
  before.any fun earlier =>
    (kind member).primitive?.isSome && (kind earlier).primitive? == (kind member).primitive?

/-- The members of a union that are not repeated, given those before them. It looks at what came
before in the union itself, where translation carries a list of primitive types. -/
def keptMembers (kind : TypeId → Kind) (before : List TypeId) : List TypeId → List TypeId
  | [] => []
  | member :: rest =>
    if isRepeated kind before member then keptMembers kind (before ++ [member]) rest
    else member :: keptMembers kind (before ++ [member]) rest

/-- A member is repeated if its primitive type came before. What is not primitive is never
repeated, also if it comes twice. -/
theorem isRepeated_iff {kind : TypeId → Kind} {before : List TypeId} {member : TypeId} :
    isRepeated kind before member ↔
      ∃ type, (kind member).primitive? = some type ∧
        ∃ earlier ∈ before, (kind earlier).primitive? = some type := by
  unfold isRepeated
  cases (kind member).primitive? <;> simp

/-- The members that are translated are those that are not repeated. By `hseen` the primitive
types that translation has seen are those of the members before, which each step keeps up. -/
theorem distinctMembers_eq_keptMembers (kind : TypeId → Kind) {seen : List Primitive}
    {before members : List TypeId}
    (hseen : ∀ type, type ∈ seen ↔ ∃ earlier ∈ before, (kind earlier).primitive? = some type) :
    distinctMembers kind seen members = keptMembers kind before members := by
  -- With each member that is passed both lists grow, whether it is kept or not.
  induction members generalizing seen before with
  | nil => rfl
  | cons member rest ih =>
    rw [distinctMembers, keptMembers]
    cases hkind : (kind member).primitive? with
    | none =>
      have hrepeated : ¬ isRepeated kind before member := by simp [isRepeated_iff, hkind]
      have hrest := @ih seen (before ++ [member]) fun type => by simp [hseen, hkind]
      simp only [hrepeated, Bool.false_eq_true, if_false, hrest]
    | some type =>
      have hmem : type ∈ seen ↔ isRepeated kind before member := by
        simp [isRepeated_iff, hkind, hseen]
      by_cases htype : type ∈ seen
      · -- The repeated member comes before the rest, but its primitive type has been seen.
        have hrest := @ih seen (before ++ [member]) fun other => by
          rw [hseen]
          constructor
          · rintro ⟨earlier, hearlier, hother⟩
            exact ⟨earlier, by simp [hearlier], hother⟩
          · rintro ⟨earlier, hearlier, hother⟩
            rcases List.mem_append.1 hearlier with hearlier | hearlier
            · exact ⟨earlier, hearlier, hother⟩
            · obtain rfl : earlier = member := by simpa using hearlier
              obtain rfl : type = other := by simpa [hkind] using hother
              exact (hseen type).1 htype
        simp only [htype, if_true, hmem.1 htype, hrest]
      · have hrest := @ih (type :: seen) (before ++ [member]) fun other => by
          simp [hseen, hkind, or_comm, or_and_right, exists_or, eq_comm]
        have hrepeated : ¬ isRepeated kind before member := fun h => htype (hmem.2 h)
        simp only [htype, hrepeated, Bool.false_eq_true, if_false, hrest]

/-- The members that count come from the members. So they are written inside the union, as the
recursion of `meaning` asks for. -/
theorem mem_of_mem_keptMembers {kind : TypeId → Kind} {before members : List TypeId} {id : TypeId}
    (h : id ∈ keptMembers kind before members) : id ∈ members := by
  induction members generalizing before with
  | nil => simp [keptMembers] at h
  | cons member rest ih =>
    rw [keptMembers] at h
    split at h
    · exact List.mem_cons_of_mem _ (ih h)
    · rcases List.mem_cons.1 h with rfl | h
      · exact List.mem_cons_self
      · exact List.mem_cons_of_mem _ (ih h)

/-- What a type stands for: any value for a map, the class or enum itself, and otherwise what its
parts stand for. The recursion is along what is written inside what, which is well-founded in a
graph. -/
def meaning (graph : TypeGraph) (id : TypeId) : Meaning :=
  match h : graph.kind id with
  | .primitive type => .ofPrimitive type
  | .array items =>
    have := inside_of_mem h (List.mem_singleton_self items)
    .array (meaning graph items)
  | .map _ => .any
  | .object _ => .object id
  | .enumeration _ => .enumeration id
  | .union members =>
    .union ((keptMembers graph.kind [] members).attach.map fun member =>
      have := inside_of_mem h (mem_of_mem_keptMembers member.2)
      meaning graph member.1)
termination_by graph.inside_wellFounded.wrap id
decreasing_by all_goals assumption

variable {graph : TypeGraph} {id : TypeId}

/-- A primitive type stands for a scalar. The lemmas from here to `meaning_union` are how
`meaning` is used, since its recursion does not unfold by itself. -/
theorem meaning_primitive {type : Primitive} (h : graph.kind id = .primitive type) :
    meaning graph id = .ofPrimitive type := by
  rw [meaning]
  split <;> simp_all

/-- An array stands for a list of what its items stand for. -/
theorem meaning_array {items : TypeId} (h : graph.kind id = .array items) :
    meaning graph id = .array (meaning graph items) := by
  rw [meaning]
  split <;> simp_all

/-- A map is passed on as it is, whatever its values are. -/
theorem meaning_map {values : TypeId} (h : graph.kind id = .map values) :
    meaning graph id = .any := by
  rw [meaning]
  split <;> simp_all

/-- A class stands for itself. What its properties are is said by its declaration. -/
theorem meaning_object {properties : Keyed Graph.Property}
    (h : graph.kind id = .object properties) : meaning graph id = .object id := by
  rw [meaning]
  split <;> simp_all

/-- An enum stands for itself, too. -/
theorem meaning_enumeration {cases : Distinct} (h : graph.kind id = .enumeration cases) :
    meaning graph id = .enumeration id := by
  rw [meaning]
  split <;> simp_all

/-- A union stands for what its kept members stand for, in order. Two members that are not
primitive may stand for the same. -/
theorem meaning_union {members : List TypeId} (h : graph.kind id = .union members) :
    meaning graph id = .union ((keptMembers graph.kind [] members).map (meaning graph)) := by
  rw [meaning]
  split <;> simp_all

end StateTree.Expr
