import Mathlib.Data.List.Basic
import SyntaxMode.Json.StateForm

/-!
# States are read back as they were written

A form is lawful if every value is read back from the form in which it is written. The basic forms
are lawful, because a word is in the range that its reader asks for. A structure is read field by
field, and the last field of a name counts, so a field of another name changes nothing
(`required?_insert`, `orDefault?_insert`). From the inside out, all forms of which a state is made
are lawful, and so are the forms of styles and settings (`forms_roundTrip`).
-/

namespace SyntaxMode

namespace Json

/-- A form from which each value is read back as it was written. -/
class LawfulForm (α : Type) [Form α] : Prop where
  read?_write : ∀ value : α, read? (write value) = some value

export LawfulForm (read?_write)

/-- Whether each value of a type is read back from its form, and so is each value that any JSON
value is read as. -/
def RoundTrips (α : Type) [Form α] : Prop :=
  (∀ value : α, read? (write value) = some value) ∧
    ∀ (json : Json) (value : α), read? json = some value → read? (write value) = some value

/-- Whether no fields but those of some names matter to how an object is read. -/
def ReadsOnly (α : Type) [Form α] (names : List String) : Prop :=
  ∀ (front back : List (String × Json)) (name : String) (value : Json), name ∉ names →
    (read? (.object (front ++ (name, value) :: back)) : Option α) = read? (.object (front ++ back))

/-- Whether a field that is missing is read as if it had a given value. -/
def Supplies (α : Type) [Form α] (name : String) (value : Json) : Prop :=
  ∀ fields : List (String × Json), field? name fields = none →
    (read? (.object fields) : Option α) = read? (.object (fields ++ [(name, value)]))

/-- A lawful form of JSON reads back what it has written. -/
theorem roundTrips_of_lawfulForm (α : Type) [Form α] [LawfulForm α] : RoundTrips α :=
  ⟨read?_write, fun _ value _ => read?_write value⟩

/-! ## Basic forms -/

instance : LawfulForm Bool where
  read?_write _ := rfl

instance : LawfulForm UInt32 where
  read?_write value := by
    have hlt : (value.toNat : Int) < UInt32.size := Int.ofNat_lt.2 value.toNat_lt
    have hread : (read? (write value) : Option UInt32) = _ := if_pos ⟨Int.natCast_nonneg _, hlt⟩
    rw [hread, Int.toNat_natCast, UInt32.ofNat_toNat]

instance : LawfulForm Int32 where
  read?_write value := by
    have hread : (read? (write value) : Option Int32) = _ :=
      if_pos ⟨value.minValue_le_toInt, value.toInt_le⟩
    rw [hread, Int32.ofInt_toInt]

instance {α : Type} [Form α] [LawfulForm α] : LawfulForm (List α) where
  read?_write items := by
    show (items.map write).mapM read? = some items
    induction items with
    | nil => rfl
    | cons item rest ih => rw [List.map_cons, List.mapM_cons, read?_write, ih]; rfl

/-- A value that may be missing is read back if no value is written as `null`. -/
theorem read?_write_option {α : Type} [Form α] [LawfulForm α]
    (h : ∀ value : α, write value ≠ .null) (value? : Option α) :
    read? (write value?) = some value? := by
  cases value? with
  | none => rfl
  | some value =>
    have hread : (read? (write (some value)) : Option (Option α)) =
        (read? (write value)).map some := by
      show read? (write value) = _
      cases hjson : write value with
      | null => exact absurd hjson (h value)
      | _ => rfl
    rw [hread, read?_write]
    rfl

instance : LawfulForm (Option Bool) where
  read?_write := read?_write_option fun _ => Json.noConfusion

/-! ## Fields -/

section
variable {name other : String} {value : Json} {fields front back : List (String × Json)}

@[simp] theorem field?_nil : field? name [] = none := rfl

@[simp] theorem field?_cons (field : String × Json) :
    field? name (field :: fields) =
      (field? name fields).or (if name = field.1 then some field.2 else none) := by
  rw [field?, List.reverse_cons, List.lookup_append, field?]
  by_cases h : name = field.1
  · rw [if_pos h, h, List.lookup_cons_self]
  · rw [if_neg h, List.lookup_cons, beq_eq_false_iff_ne.2 h]
    rfl

/-- A field at the end is found if it has the name, and none before it is lost. -/
theorem field?_concat (field : String × Json) :
    field? name (fields ++ [field]) =
      if name = field.1 then some field.2 else field? name fields := by
  rw [field?, List.reverse_append, List.reverse_singleton, List.singleton_append, List.lookup_cons]
  by_cases h : name = field.1
  · rw [if_pos h, beq_iff_eq.2 h]
  · rw [if_neg h, beq_eq_false_iff_ne.2 h]
    rfl

/-- A field of another name does not matter. -/
theorem field?_insert (h : name ≠ other) :
    field? name (front ++ (other, value) :: back) = field? name (front ++ back) := by
  induction front with
  | nil => rw [List.nil_append, List.nil_append, field?_cons, if_neg h, Option.or_none]
  | cons field front ih => rw [List.cons_append, List.cons_append, field?_cons, field?_cons, ih]

/-- Where the fields of some names decide how an object is read, no other fields matter. -/
theorem readsOnly_of_congr {α : Type} [Form α] {names : List String}
    (h : ∀ fields fields', (∀ name ∈ names, field? name fields = field? name fields') →
      (read? (.object fields) : Option α) = read? (.object fields')) : ReadsOnly α names :=
  fun _ _ _ _ hname => h _ _ fun _ hmem => field?_insert (ne_of_mem_of_not_mem hmem hname)

end

end Json

open Json

/-! ## Names -/

instance : LawfulForm Style where
  read?_write := Style.ofName?_name

instance : LawfulForm Delimiter where
  read?_write delimiter := by cases delimiter <;> rfl

instance : LawfulForm Quote where
  read?_write quote := by cases quote <;> rfl

instance : LawfulForm Region where
  read?_write region := by
    cases region with
    | code | comment => rfl
    | string quote =>
      show (read? (write quote)).map Region.string = _
      rw [read?_write]
      rfl

instance : LawfulForm Context.Kind where
  read?_write kind := by
    cases kind with
    | outside | arm => rfl
    | block delimiter =>
      show (read? (write delimiter)).map Context.Kind.block = _
      rw [read?_write]
      rfl

/-! ## Structures -/

section
variable (fields : List (String × Json))

/-- A context is read from an object field by field, with an alignment that may be missing. -/
theorem Context.read?_object :
    (read? (.object fields) : Option Context) = do
      let indented ← required? "indented" fields
      let column ← required? "column" fields
      let kind ← required? "kind" fields
      let align ← orDefault? "align" none fields
      return { indented, column, kind, align } := rfl

/-- A nesting is read from an object field by field, with its contexts from the outermost one
on. -/
theorem Nesting.read?_object :
    (read? (.object fields) : Option Nesting) = do
      let outside ← required? "top" fields
      let outermostFirst : List Context ← required? "open" fields
      return { outside, opened := outermostFirst.reverse } := rfl

/-- A state is read from an object field by field. -/
theorem State.read?_object :
    (read? (.object fields) : Option State) = do
      let region ← required? "tokenizer" fields
      let nesting ← required? "contexts" fields
      let indented ← required? "indented" fields
      let freshLine ← required? "start_of_line" fields
      return { region, nesting, indented, freshLine } := rfl

/-- Settings are read from an object field by field, and may be missing. -/
theorem Config.read?_object :
    (read? (.object fields) : Option Config) = do
      let indentUnit ← orDefault? "indent_unit" 2 fields
      let tabSize ← orDefault? "tab_size" 4 fields
      return { indentUnit, tabSize } := rfl

end

instance : LawfulForm Context where
  read?_write context := by
    refine (Context.read?_object _).trans ?_
    simp [required?, orDefault?, read?_write]

instance : LawfulForm Nesting where
  read?_write nesting := by
    refine (Nesting.read?_object _).trans ?_
    simp [required?, read?_write]

instance : LawfulForm State where
  read?_write state := by
    refine (State.read?_object _).trans ?_
    simp [required?, read?_write]

instance : LawfulForm Config where
  read?_write config := by
    refine (Config.read?_object _).trans ?_
    simp [orDefault?, read?_write]

/-! ## Fields that do not matter and fields that are missing -/

/-- A context has four fields. -/
theorem Context.readsOnly : ReadsOnly Context ["indented", "column", "kind", "align"] :=
  readsOnly_of_congr fun fields fields' h => by
    simp [Context.read?_object, required?, orDefault?, h]

/-- A nesting has two fields. -/
theorem Nesting.readsOnly : ReadsOnly Nesting ["top", "open"] :=
  readsOnly_of_congr fun fields fields' h => by simp [Nesting.read?_object, required?, h]

/-- A state has four fields. -/
theorem State.readsOnly :
    ReadsOnly State ["tokenizer", "contexts", "indented", "start_of_line"] :=
  readsOnly_of_congr fun fields fields' h => by simp [State.read?_object, required?, h]

/-- Settings have two fields. -/
theorem Config.readsOnly : ReadsOnly Config ["indent_unit", "tab_size"] :=
  readsOnly_of_congr fun fields fields' h => by simp [Config.read?_object, orDefault?, h]

/-- An alignment that is missing is none. -/
theorem Context.supplies_align : Supplies Context "align" .null := by
  intro fields hfield
  have hnull : (read? .null : Option (Option Bool)) = some none := rfl
  simp [Context.read?_object, required?, orDefault?, field?_concat, hfield, hnull]

/-- An indent unit that is missing is 2. -/
theorem Config.supplies_indentUnit : Supplies Config "indent_unit" (.integer 2) := by
  intro fields hfield
  have hdefault : (read? (.integer 2) : Option UInt32) = some 2 := rfl
  simp [Config.read?_object, orDefault?, field?_concat, hfield, hdefault]

/-- A tab size that is missing is 4. -/
theorem Config.supplies_tabSize : Supplies Config "tab_size" (.integer 4) := by
  intro fields hfield
  have hdefault : (read? (.integer 4) : Option UInt32) = some 4 := rfl
  simp [Config.read?_object, orDefault?, field?_concat, hfield, hdefault]

/-- **Forms are read back.** Each state, and each value of all that a state is made of, each style
and each settings are read back as they were written. Whatever JSON value one of them is read from,
the value that is written for it reads back as the same one. Fields of other names do not matter to
how an object is read, an alignment that is missing is read as `null`, and settings that are
missing are read as their defaults. -/
theorem forms_roundTrip :
    (RoundTrips State ∧ RoundTrips Context ∧ RoundTrips Nesting ∧ RoundTrips Context.Kind ∧
      RoundTrips Delimiter ∧ RoundTrips Region ∧ RoundTrips Quote ∧ RoundTrips Style ∧
      RoundTrips Config) ∧
    (ReadsOnly State ["tokenizer", "contexts", "indented", "start_of_line"] ∧
      ReadsOnly Context ["indented", "column", "kind", "align"] ∧
      ReadsOnly Nesting ["top", "open"] ∧ ReadsOnly Config ["indent_unit", "tab_size"]) ∧
    Supplies Context "align" .null ∧ Supplies Config "indent_unit" (.integer 2) ∧
      Supplies Config "tab_size" (.integer 4) :=
  ⟨⟨roundTrips_of_lawfulForm _, roundTrips_of_lawfulForm _, roundTrips_of_lawfulForm _,
      roundTrips_of_lawfulForm _, roundTrips_of_lawfulForm _, roundTrips_of_lawfulForm _,
      roundTrips_of_lawfulForm _, roundTrips_of_lawfulForm _, roundTrips_of_lawfulForm _⟩,
    ⟨State.readsOnly, Context.readsOnly, Nesting.readsOnly, Config.readsOnly⟩,
    Context.supplies_align, Config.supplies_indentUnit, Config.supplies_tabSize⟩

end SyntaxMode
