import Mathlib.Data.List.Induction
import StateTree.Proofs.Fallible
import StateTree.Settings.Basic

/-!
# `StateTree.Proofs.Settings.Changes`: settings after changes

A change is read before anything is written: its key names one of seven fields, and its value stands
for one of the choices of that field. What is read does not depend on the settings. So a change that
fails leaves them as they were, one that does not writes a single field, and after a run of changes
each field holds the last choice that was read for it.

- `Field`, `get`, `put`: the fields of settings.
- `reading`, `run_change`: what is read of a change, and what the change does with it.
- `after`, `get_after`: the settings after a run of changes, of which some may fail.
- `after_eq_of_filter_eq`: changes of different fields can trade places.
- `ofPairs_eq_ok_iff`: making settings of pairs is a run without failures.
- `ofPairs_of_perm_toPairs`: settings are made of the pairs that spell their choices.
- `change_laws`: all of this for settings that are not refused.
-/

set_option autoImplicit false

namespace StateTree.Settings

open StateTree.Text (AcronymStyle)

/-! ### The fields of settings -/

/-- The fields of settings. What is proved of one field is proved of all, by cases or for any. -/
inductive Field where
  | declareUnions
  | runtimeChecks
  | propertyNaming
  | acronyms
  | moduleReference
  | converters
  | justTypes
  deriving DecidableEq, Repr

namespace Field

/-- All fields, in the order of their keys in a file of settings. -/
def all : List Field :=
  [declareUnions, runtimeChecks, propertyNaming, acronyms, moduleReference, converters, justTypes]

/-- What can be chosen for a field. The type depends on the field, so a choice cannot be for
another one. -/
def Choice : Field → Type
  | declareUnions | runtimeChecks | justTypes => Bool
  | propertyNaming => PropertyNaming
  | acronyms => AcronymStyle
  | moduleReference => String
  | converters => ConverterScope

/-- The key of a field, as it is written today. -/
def key : Field → String
  | declareUnions => "declare-unions-separately"
  | runtimeChecks => "runtime-type-checking"
  | propertyNaming => "property-naming"
  | acronyms => "acronym-style"
  | moduleReference => "module-reference"
  | converters => "converters"
  | justTypes => "just-types"

/-- The field that a key names, be it the key of the field or an older one. Any other key names
none, and a change of it fails. -/
def ofKey? : String → Option Field
  | "declare-unions-separately" | "declare-unions" => some declareUnions
  | "runtime-type-checking" | "runtime-typecheck" => some runtimeChecks
  | "property-naming" | "nice-property-names" => some propertyNaming
  | "acronym-style" => some acronyms
  | "module-reference" => some moduleReference
  | "converters" => some converters
  | "just-types" => some justTypes
  | _ => none

/-- Reads a choice for a field, under one of its keys. The naming of properties has another
language under its older key. Nothing else depends on the key. -/
def read : (field : Field) → (key value : String) → Except String field.Choice
  | declareUnions, _, value | runtimeChecks, _, value | justTypes, _, value => parseBool value
  | propertyNaming, key, value =>
    if key = "nice-property-names" then parseNice value else PropertyNaming.parse value
  | acronyms, _, value => AcronymStyle.parse value
  | moduleReference, _, value => parseReference value
  | converters, _, value => ConverterScope.parse value

/-- The spelling of a choice. It reads back as the choice under the key of the field, by
`read_spelling`. -/
def spelling : (field : Field) → field.Choice → String
  | declareUnions, choice | runtimeChecks, choice | justTypes, choice =>
    cond choice "true" "false"
  | propertyNaming, choice => PropertyNaming.text choice
  | acronyms, choice => AcronymStyle.text choice
  | moduleReference, choice => choice
  | converters, choice => ConverterScope.text choice

/-- The key of a field names it, and no other field. -/
theorem ofKey?_key (field : Field) : ofKey? field.key = some field := by
  cases field <;> rfl

end Field

/-- What is chosen for a field. With `put` it speaks of any field at once, where the code has one
branch for each. -/
def get (settings : Settings) : (field : Field) → field.Choice
  | .declareUnions => settings.declareUnions
  | .runtimeChecks => settings.runtimeChecks
  | .propertyNaming => settings.propertyNaming
  | .acronyms => settings.acronyms
  | .moduleReference => settings.moduleReference
  | .converters => settings.converters
  | .justTypes => settings.justTypes

/-- The settings with another choice for a field. All other fields are left. -/
def put (settings : Settings) : (field : Field) → field.Choice → Settings
  | .declareUnions, choice => { settings with declareUnions := choice }
  | .runtimeChecks, choice => { settings with runtimeChecks := choice }
  | .propertyNaming, choice => { settings with propertyNaming := choice }
  | .acronyms, choice => { settings with acronyms := choice }
  | .moduleReference, choice => { settings with moduleReference := choice }
  | .converters, choice => { settings with converters := choice }
  | .justTypes, choice => { settings with justTypes := choice }

section

variable {settings other : Settings} {field : Field} {key value : String}
  {call : String × String} {calls calls' pairs : List (String × String)}

/-- Settings are known by their fields. Two runs of changes are compared by this. -/
theorem ext_get (h : ∀ field, settings.get field = other.get field) : settings = other := by
  cases settings
  cases other
  simp only [Settings.mk.injEq]
  exact ⟨h .declareUnions, h .runtimeChecks, h .propertyNaming, h .acronyms, h .moduleReference,
    h .converters, h .justTypes⟩

/-- A field holds what was put there. It is the first of the two laws that all about changes comes
from. -/
theorem get_put_self (settings : Settings) (choice : field.Choice) :
    (settings.put field choice).get field = choice := by
  cases field <;> rfl

/-- The other fields hold what they held. It is the second one. -/
theorem get_put_of_ne {field' : Field} (h : field' ≠ field) (settings : Settings)
    (choice : field.Choice) : (settings.put field choice).get field' = settings.get field' := by
  cases field <;> cases field' <;> first | rfl | exact absurd rfl h

/-! ### One change -/

/-- What is read of a change of a field: a choice, or why the value is not one. -/
def readingOf (field : Field) (key value : String) :
    Except Error ((field : Field) × field.Choice) :=
  match field.read key value with
  | .ok choice => .ok ⟨field, choice⟩
  | .error reason => .error (.invalidOption key value reason)

/-- What is read of a change: a field and a choice for it. The settings are not an argument, so
whether a change fails does not depend on them. -/
def reading (key value : String) : Except Error ((field : Field) × field.Choice) :=
  match Field.ofKey? key with
  | some field => readingOf field key value
  | none => .error (.unknownOption key)

/-- What comes of settings if this is read of a change. An error leaves them as they were. -/
def written (settings : Settings) :
    Except Error ((field : Field) × field.Choice) → EStateM.Result Error Settings Unit
  | .ok read => .ok () (settings.put read.1 read.2)
  | .error error => .error error settings

/-- A choice for a field is written if it can be read. The hypotheses say that a branch of the
code is about this field. -/
theorem run_choose {parse : String → Except String field.Choice}
    {put : field.Choice → Settings → Settings} (hparse : field.read key value = parse value)
    (hput : ∀ choice, put choice settings = settings.put field choice) :
    (choose key value parse put).run settings = settings.written (readingOf field key value) := by
  unfold choose readingOf
  rw [hparse]
  cases parse value with
  | error reason => rfl
  | ok choice => exact congrArg (EStateM.Result.ok ()) (hput choice)

/-- A change writes what is read of it. If nothing can be read, it fails and leaves the settings
as they were. From here on changes are a matter of `reading` and `put`. -/
theorem run_change (settings : Settings) (key value : String) :
    (change key value).run settings = settings.written (reading key value) := by
  unfold change
  -- One case for each key, of which three fields have two. The last is of a key that no option
  -- has.
  split
  · exact @run_choose settings .declareUnions _ _ _ _ rfl fun _ => rfl
  · exact @run_choose settings .declareUnions _ _ _ _ rfl fun _ => rfl
  · exact @run_choose settings .runtimeChecks _ _ _ _ rfl fun _ => rfl
  · exact @run_choose settings .runtimeChecks _ _ _ _ rfl fun _ => rfl
  · exact @run_choose settings .propertyNaming _ _ _ _ rfl fun _ => rfl
  · exact @run_choose settings .propertyNaming _ _ _ _ rfl fun _ => rfl
  · exact @run_choose settings .acronyms _ _ _ _ rfl fun _ => rfl
  · exact @run_choose settings .moduleReference _ _ _ _ rfl fun _ => rfl
  · exact @run_choose settings .converters _ _ _ _ rfl fun _ => rfl
  · exact @run_choose settings .justTypes _ _ _ _ rfl fun _ => rfl
  · have hkey : Field.ofKey? key = none := by
      unfold Field.ofKey?
      split <;> first | rfl | contradiction
    unfold reading
    rw [hkey]
    rfl

/-- The choice that a change makes for a field, if it is one for this field and can be read. It is
`reading` as seen from the field. -/
def chosen? (field : Field) (call : String × String) : Option field.Choice :=
  if Field.ofKey? call.1 = some field then (field.read call.1 call.2).toOption else none

/-- The key of a change names the field that it makes a choice for, and this is read from its
value. -/
theorem of_chosen? {choice : field.Choice} (h : chosen? field call = some choice) :
    Field.ofKey? call.1 = some field ∧ field.read call.1 call.2 = .ok choice := by
  unfold chosen? at h
  cases hread : field.read call.1 call.2 <;> simp_all [Except.toOption]

/-- What is read of a change is the choice that it makes. The two ways to speak of a change say
the same. -/
theorem reading_eq_ok_iff {choice : field.Choice} :
    reading key value = .ok ⟨field, choice⟩ ↔ chosen? field (key, value) = some choice := by
  unfold reading chosen?
  cases hkey : Field.ofKey? key with
  | none => simp
  | some named =>
    unfold readingOf
    -- A choice that is read is one for the field that the key names, and for no other.
    by_cases hnamed : named = field
    · subst hnamed
      cases hread : named.read key value <;> simp [hread, Except.toOption]
    · cases hread : named.read key value <;> simp [hread, hnamed]

/-- Nothing is read of a change that makes no choice, whatever the field. -/
theorem chosen?_eq_none_of_reading {error : Error} (h : reading key value = .error error)
    (field : Field) : chosen? field (key, value) = none := by
  cases hchosen : chosen? field (key, value) with
  | none => rfl
  | some choice =>
    rw [reading_eq_ok_iff.2 hchosen] at h
    cases h

/-! ### A run of changes -/

/-- The settings that a change leaves, whether it fails or not. With it a run of changes is a fold
over settings, also where some of them fail. -/
def leaves (settings : Settings) (call : String × String) : Settings :=
  match (change call.1 call.2).run settings with
  | .ok _ left => left
  | .error _ left => left

/-- The settings after a run of changes. A change that fails does not end the run, unlike in
`setAll`. -/
def after (settings : Settings) (calls : List (String × String)) : Settings :=
  calls.foldl leaves settings

/-- After a change, a field holds the choice that the change makes for it, or what it held. This
is the step lemma of runs. -/
theorem get_leaves (settings : Settings) (call : String × String) (field : Field) :
    (settings.leaves call).get field = (chosen? field call).getD (settings.get field) := by
  obtain ⟨key, value⟩ := call
  unfold leaves
  rw [run_change]
  cases hread : reading key value with
  | error error => rw [chosen?_eq_none_of_reading hread]; rfl
  | ok read =>
    obtain ⟨named, choice⟩ := read
    -- A call changes the field that its key names, and is a choice for no other.
    by_cases hnamed : field = named
    · subst hnamed
      rw [reading_eq_ok_iff.1 hread]
      exact get_put_self settings choice
    · have hnone : chosen? field (key, value) = none := by
        cases hchosen : chosen? field (key, value) with
        | none => rfl
        | some choice =>
          rw [reading_eq_ok_iff.2 hchosen] at hread
          cases hread
          exact absurd rfl hnamed
      rw [hnone]
      exact get_put_of_ne hnamed settings choice

/-- After a run of changes, a field holds the last choice that was made for it, or what it held
before the first. The induction is from the end, where the last choice is. -/
theorem get_after (settings : Settings) (calls : List (String × String)) (field : Field) :
    (settings.after calls).get field =
      ((calls.filterMap (chosen? field)).getLast?).getD (settings.get field) := by
  induction calls using List.reverseRecOn with
  | nil => rfl
  | append_singleton calls call ih =>
    have hlast : settings.after (calls ++ [call]) = (settings.after calls).leaves call := by
      simp [after]
    rw [hlast, get_leaves, ih, List.filterMap_append, List.getLast?_append]
    -- The last call is a choice for the field, and then the one that counts, or it is not and
    -- nothing changes.
    cases hchosen : chosen? field call with
    | none => simp [List.filterMap_cons_none hchosen]
    | some choice => simp [List.filterMap_cons_some hchosen]

/-- Runs that have the same changes of each field in the same order end in the same settings. So
changes of different fields can trade places. Changes of no field, which fail, count for nothing.
-/
theorem after_eq_of_filter_eq (h : ∀ field : Field,
    calls.filter (fun call => Field.ofKey? call.1 = some field) =
      calls'.filter (fun call => Field.ofKey? call.1 = some field)) :
    settings.after calls = settings.after calls' := by
  -- Other changes make no choice for the field.
  have hchosen : ∀ (field : Field) (calls : List (String × String)),
      (calls.filter fun call => Field.ofKey? call.1 = some field).filterMap (chosen? field) =
        calls.filterMap (chosen? field) := by
    intro field calls
    rw [List.filterMap_filter]
    refine List.filterMap_congr fun call _ => ?_
    unfold chosen?
    split <;> simp_all
  refine ext_get fun field => ?_
  rw [get_after, get_after, ← hchosen field calls, h field, hchosen]

/-! ### Settings that are not refused -/

/-- What is read as a module reference is the text itself, if it is not blank. Blanks at its ends
are kept. -/
theorem parseReference_eq_ok_iff {s reference : String} :
    parseReference s = .ok reference ↔ s = reference ∧ (Text.trim s).isEmpty = false := by
  unfold parseReference
  split <;> simp_all

/-- Settings are not refused if their module reference is not blank. No other field can be wrong.
-/
theorem check_eq_ok_iff :
    settings.check = .ok () ↔ (Text.trim settings.moduleReference).isEmpty = false := by
  have hread := @parseReference_eq_ok_iff settings.moduleReference settings.moduleReference
  unfold check
  cases hreference : parseReference settings.moduleReference with
  | error reason => simp_all
  | ok reference =>
    simp [(parseReference_eq_ok_iff.1 hreference).2]

/-- A change leaves no settings that are refused: a module reference is checked before it is
written. -/
theorem check_leaves (h : settings.check = .ok ()) (call : String × String) :
    (settings.leaves call).check = .ok () := by
  rw [check_eq_ok_iff] at h ⊢
  have hreference : (settings.leaves call).moduleReference =
      (chosen? .moduleReference call).getD settings.moduleReference :=
    get_leaves settings call .moduleReference
  -- Only the module reference is checked, and a call that sets it has checked it.
  rw [hreference]
  cases hchosen : chosen? .moduleReference call with
  | none => exact h
  | some reference =>
    obtain ⟨hvalue, hblank⟩ := parseReference_eq_ok_iff.1 (of_chosen? hchosen).2
    rwa [hvalue] at hblank

/-- A run of changes leaves no settings that are refused, if it does not begin with such. -/
theorem check_after (h : settings.check = .ok ()) (calls : List (String × String)) :
    (settings.after calls).check = .ok () := by
  induction calls generalizing settings with
  | nil => exact h
  | cons call calls ih => exact ih (check_leaves h call)

/-- The defaults are not refused. -/
theorem check_default : ({} : Settings).check = .ok () := by
  decide

/-! ### Settings of pairs -/

/-- A change succeeds if something is read of it, and gives what it leaves. -/
theorem set_eq_ok_iff : settings.set key value = .ok other ↔
    (∃ read, reading key value = .ok read) ∧ other = settings.leaves (key, value) := by
  unfold set leaves
  rw [run_change]
  cases reading key value with
  | error error => simp [written]
  | ok read => simp [written, eq_comm]

/-- A change succeeds or fails regardless of the settings. So it can be asked of a change in a run
what can be asked of it alone. -/
theorem exists_run_change_iff :
    (∃ left, (change key value).run settings = .ok () left) ↔
      ∃ read, reading key value = .ok read := by
  rw [run_change]
  cases reading key value with
  | error error => simp [written]
  | ok read => simp [written]

/-- Changes that are made until one fails are a run in which none fails. -/
theorem setAll_eq_ok_iff : settings.setAll calls = .ok other ↔
    (∀ call ∈ calls, ∃ read, reading call.1 call.2 = .ok read) ∧ other = settings.after calls := by
  -- On the changes. The settings are those that the changes before have left.
  induction calls generalizing settings with
  | nil => simp [setAll, after, eq_comm]
  | cons call calls ih =>
    obtain ⟨key, value⟩ := call
    have hafter : settings.after ((key, value) :: calls) =
        (settings.leaves (key, value)).after calls := rfl
    rw [List.forall_mem_cons, hafter]
    unfold setAll
    cases hset : settings.set key value with
    | error error =>
      have hnone : ¬ ∃ read, reading key value = .ok read := by
        intro hread
        rw [set_eq_ok_iff.2 ⟨hread, rfl⟩] at hset
        cases hset
      simp [hnone]
    | ok left =>
      obtain ⟨hread, rfl⟩ := set_eq_ok_iff.1 hset
      simp only [ih, hread, true_and]

/-- Settings are made of pairs exactly if no change fails in the run from the defaults, and they
are what this run ends in. The check at the end refuses nothing. -/
theorem ofPairs_eq_ok_iff : ofPairs pairs = .ok settings ↔
    (∀ call ∈ pairs, ∃ read, reading call.1 call.2 = .ok read) ∧
      settings = ({} : Settings).after pairs := by
  -- The check at the end never fails: it holds of the default and no change breaks it.
  have hchecked : ofPairs pairs = setAll {} pairs := by
    unfold ofPairs
    cases hall : setAll {} pairs with
    | error error => rfl
    | ok left =>
      obtain ⟨-, rfl⟩ := setAll_eq_ok_iff.1 hall
      simp only [check_after check_default]
      rfl
  rw [hchecked, setAll_eq_ok_iff]

/-- The pairs that spell the choices of settings, one for each field, also where a choice is the
default. -/
def toPairs (settings : Settings) : List (String × String) :=
  Field.all.map fun field => (field.key, field.spelling (settings.get field))

/-- Their keys are those of the seven choices, in the same order. -/
theorem keys_toPairs (settings : Settings) : settings.toPairs.map Prod.fst = optionNames :=
  rfl

/-- The spelling of a choice is read as this choice. For the module reference this needs that the
settings are not refused. -/
theorem read_spelling (h : settings.check = .ok ()) (field : Field) :
    field.read field.key (field.spelling (settings.get field)) = .ok (settings.get field) := by
  have hbool : ∀ choice : Bool, parseBool (cond choice "true" "false") = .ok choice := by decide
  -- The words of each option are read back as the choice they are for. Only a module reference
  -- can be one that is not accepted, and this is where the check is needed.
  cases field with
  | declareUnions => exact hbool settings.declareUnions
  | runtimeChecks => exact hbool settings.runtimeChecks
  | propertyNaming =>
    show PropertyNaming.parse settings.propertyNaming.text = .ok settings.propertyNaming
    cases settings.propertyNaming <;> rfl
  | acronyms =>
    show AcronymStyle.parse settings.acronyms.text = .ok settings.acronyms
    cases settings.acronyms <;> rfl
  | moduleReference => exact parseReference_eq_ok_iff.2 ⟨rfl, check_eq_ok_iff.1 h⟩
  | converters =>
    show ConverterScope.parse settings.converters.text = .ok settings.converters
    cases settings.converters <;> rfl
  | justTypes => exact hbool settings.justTypes

/-- A pair under the key of a field makes a choice for this field, and it is the one of the
settings. -/
theorem chosen?_spelling (h : settings.check = .ok ()) (field : Field) :
    chosen? field (field.key, field.spelling (settings.get field)) = some (settings.get field) := by
  rw [chosen?, if_pos field.ofKey?_key, read_spelling h]
  rfl

/-- And for no other, whatever the value. -/
theorem chosen?_key_of_ne {field' : Field} (h : field' ≠ field) (value : String) :
    chosen? field (field'.key, value) = none := by
  rw [chosen?, field'.ofKey?_key, if_neg (by simpa using h)]

/-- Among the pairs, each field is chosen for once. So their order does not matter. -/
theorem filterMap_toPairs (h : settings.check = .ok ()) (field : Field) :
    settings.toPairs.filterMap (chosen? field) = [settings.get field] := by
  have hself := chosen?_spelling h
  cases field <;>
    simp [toPairs, Field.all, hself, chosen?_key_of_ne]

/-- Settings that are not refused are made of their pairs, in any order. The choices of a field in
another order are still the one. -/
theorem ofPairs_of_perm_toPairs (h : settings.check = .ok ())
    (hperm : pairs.Perm settings.toPairs) : ofPairs pairs = .ok settings := by
  refine ofPairs_eq_ok_iff.2 ⟨fun call hcall => ?_, ext_get fun field => ?_⟩
  · obtain ⟨field, -, rfl⟩ := List.mem_map.1 (hperm.subset hcall)
    exact ⟨_, reading_eq_ok_iff.2 (chosen?_spelling h field)⟩
  · have hchosen := hperm.filterMap (chosen? field)
    rw [filterMap_toPairs h, List.perm_singleton] at hchosen
    rw [get_after, hchosen]
    rfl

/-! ### The laws of changes -/

/-- The laws of changes of settings, whatever changes came before.

A change that fails makes no choice and leaves the settings. One that does not makes a choice for
the field that its key names, writes this choice and leaves the other fields. The settings are not
refused at any time. Each field holds the last choice that was made for it, or what it held at
first, and runs that have the same changes of each field in the same order end in the same settings.
-/
structure ChangeLaws (settings : Settings) : Prop where
  failed : ∀ calls key value error left,
    (change key value).run (settings.after calls) = .error error left →
      left = settings.after calls ∧ ∀ field, chosen? field (key, value) = none
  succeeded : ∀ calls key value left,
    (change key value).run (settings.after calls) = .ok () left →
      ∃ field choice, Field.ofKey? key = some field ∧ chosen? field (key, value) = some choice ∧
        left.get field = choice ∧
        ∀ other, other ≠ field → left.get other = (settings.after calls).get other
  accepted : ∀ calls, (settings.after calls).check = .ok ()
  last : ∀ calls field, (settings.after calls).get field =
    ((calls.filterMap (chosen? field)).getLast?).getD (settings.get field)
  reordered : ∀ calls calls', (∀ field : Field,
    calls.filter (fun call => Field.ofKey? call.1 = some field) =
      calls'.filter (fun call => Field.ofKey? call.1 = some field)) →
    settings.after calls = settings.after calls'

/-- Settings that are not refused obey the laws of changes. Settings are made of pairs exactly if no
change fails in the run from the defaults, and they are what this run ends in. So settings that are
not refused are made of the pairs that spell their choices, in any order. -/
theorem change_laws (settings : Settings) (h : settings.check = .ok ()) :
    settings.ChangeLaws ∧
    (∀ pairs made, ofPairs pairs = .ok made ↔
      (∀ before call rest, pairs = before ++ call :: rest →
        ∃ left, (change call.1 call.2).run (({} : Settings).after before) = .ok () left) ∧
      made = ({} : Settings).after pairs) ∧
    (settings.toPairs.map Prod.fst = optionNames ∧
      ∀ pairs, pairs.Perm settings.toPairs → ofPairs pairs = .ok settings) := by
  refine ⟨⟨?_, ?_, check_after h, get_after settings, fun _ _ => after_eq_of_filter_eq⟩, ?_,
    keys_toPairs settings, fun _ => ofPairs_of_perm_toPairs h⟩
  -- A call fails if its key or its value cannot be read, which is before anything is written.
  · intro calls key value error left hrun
    rw [run_change] at hrun
    cases hread : reading key value with
    | ok read =>
      rw [hread] at hrun
      cases hrun
    | error error =>
      rw [hread] at hrun
      cases hrun
      exact ⟨rfl, chosen?_eq_none_of_reading hread⟩
  · intro calls key value left hrun
    rw [run_change] at hrun
    cases hread : reading key value with
    | error error =>
      rw [hread] at hrun
      cases hrun
    | ok read =>
      obtain ⟨field, choice⟩ := read
      rw [hread] at hrun
      cases hrun
      have hchosen := reading_eq_ok_iff.1 hread
      exact ⟨field, choice, (of_chosen? hchosen).1, hchosen, get_put_self _ choice,
        fun other hother => get_put_of_ne hother _ choice⟩
  · intro pairs made
    simp only [exists_run_change_iff]
    rw [ofPairs_eq_ok_iff]
    refine and_congr_left fun _ => ⟨?_, ?_⟩
    · rintro hall before call rest rfl
      exact hall call (by simp)
    · intro hall call hcall
      obtain ⟨before, rest, hpairs⟩ := List.append_of_mem hcall
      exact hall before call rest hpairs

/-- Settings for models that import their types from a module beside them. -/
def localModule : Settings where
  propertyNaming := .nice
  acronyms := .lowerCase
  moduleReference := "./types"
  converters := .allObjects

/-- Their pairs make them also from the last to the first. -/
theorem localModule_of_pairs :
    localModule.check = .ok () ∧ localModule.ChangeLaws ∧
      ofPairs localModule.toPairs.reverse = .ok localModule := by
  have hcheck : localModule.check = .ok () := by decide
  obtain ⟨hlaws, -, -, hmade⟩ := change_laws localModule hcheck
  exact ⟨hcheck, hlaws, hmade _ (List.reverse_perm _)⟩

/-- A change that fails is passed over, and the last one of a field counts, under whatever key. -/
example : after {} [("nice-property-names", "true"), ("property-naming", "snake"),
    ("module-reference", " "), ("converters", "all-objects"), ("property-naming", "original")] =
      { converters := .allObjects } := by
  decide

end

end StateTree.Settings
