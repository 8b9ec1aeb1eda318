import Scaffold.Shape.OfJson

/-!
Values that a shape reads again from what they are written as. It does not matter in which spelling
they were read: a record is written as an object of all its fields, whether it came as an object,
with members left out or under other names, or as an array.
-/
namespace Scaffold
namespace Shape

variable {α β ρ σ : Type}

def Readable (shape : Shape α) (value : α) : Prop :=
  ∃ json, shape.ofJson json = .ok value

/-- Whatever the shape reads, it reads the same from what `write` makes of it. -/
def Restores (shape : Shape α) (write : α → Json) : Prop :=
  ∀ value, shape.Readable value → shape.ofJson (write value) = .ok value

theorem textRestores : text.Restores .string :=
  fun _ _ => by simp [ofJson]

theorem bindOk {ε : Type} {first : Except ε α} {next : α → Except ε β} {result : β} :
    first >>= next = .ok result ↔ ∃ value, first = .ok value ∧ next value = .ok result := by
  cases first <;> simp [bind, Except.bind]

end Shape

namespace Fields
open Shape

variable {ρ σ : Type}

def full : {ρ σ : Type} → Fields ρ σ → ρ → σ
  | _, _, .none, _ => ()
  | _, _, .field _ _ _ _ rest, (value, values) => (some value, rest.full values)

def Filled : {ρ σ : Type} → Fields ρ σ → σ → Prop
  | _, _, .none, _ => True
  | _, _, .field _ _ _ shape rest, (slot, slots) =>
    (∀ value, slot = some value → shape.Readable value) ∧ rest.Filled slots

def AllReadable : {ρ σ : Type} → Fields ρ σ → ρ → Prop
  | _, _, .none, _ => True
  | _, _, .field _ _ _ shape rest, (value, values) => shape.Readable value ∧ rest.AllReadable values

/- Fields with a way to write the value of each. A fallback is a value like any other, and the names
of a field are not those of a later one. -/
inductive Written : {ρ σ : Type} → Fields ρ σ → (ρ → List (String × Json)) → Prop where
  | none : Written .none fun _ => []
  | field {α ρ σ : Type} {name : String} {aliases : List String} {fallback : Option α}
      {shape : Shape α} {rest : Fields ρ σ} {write : α → Json} {members : ρ → List (String × Json)}
      (restores : shape.Restores write)
      (standard : ∀ value, fallback = some value → shape.Readable value)
      (apart : ∀ other ∈ rest.names, other ≠ name ∧ other ∉ aliases) (others : rest.Written members) :
      Written (.field name aliases fallback shape rest) fun (value, values) =>
        (name, write value) :: members values

theorem filledEmpty : {ρ σ : Type} → (fields : Fields ρ σ) → fields.Filled fields.empty
  | _, _, .none => trivial
  | _, _, .field _ _ _ _ rest => ⟨nofun, rest.filledEmpty⟩

theorem memberFills : {ρ σ : Type} → (fields : Fields ρ σ) → {closed : Bool} →
    {known : List String} → {slots after : σ} → {entry : String × Json} → fields.Filled slots →
    membersOfJson fields closed known slots entry = .ok after → fields.Filled after
  | _, _, .none, _, _, _, _, _, _, _ => trivial
  | _, _, .field name aliases _ shape rest, closed, known, (slot, slots), after, (key, json),
      filled, read => by
    simp only [membersOfJson] at read
    split at read
    · cases slot with
      | some value => contradiction
      | none =>
        obtain ⟨value, found, stored⟩ := bindOk.mp read
        cases stored
        exact ⟨fun _ same => Option.some.inj same ▸ ⟨json, found⟩, filled.2⟩
    · obtain ⟨passed, found, stored⟩ := bindOk.mp read
      cases stored
      exact ⟨filled.1, rest.memberFills filled.2 found⟩

theorem membersFill {fields : Fields ρ σ} {closed : Bool} {known : List String}
    {entries : List (String × Json)} {slots after : σ} (filled : fields.Filled slots)
    (read : entries.foldlM (membersOfJson fields closed known) slots = .ok after) :
    fields.Filled after := by
  induction entries generalizing slots with
  | nil =>
    cases read
    exact filled
  | cons entry entries ih =>
    rw [List.foldlM_cons] at read
    obtain ⟨next, one, others⟩ := bindOk.mp read
    exact ih (fields.memberFills filled one) others

section Written
variable {fields : Fields ρ σ} {members : ρ → List (String × Json)}

theorem completeReadable {slots : σ} {values : ρ} (written : fields.Written members)
    (filled : fields.Filled slots) (complete : fields.complete slots = .ok values) :
    fields.AllReadable values := by
  induction written with
  | none => trivial
  | @field _ _ _ _ _ fallback _ rest _ _ _ standard _ _ ih =>
    obtain ⟨slot, slots⟩ := slots
    simp only [Fields.complete] at complete
    split at complete
    · next value chosen =>
      cases others : rest.complete slots with
      | error stopped => simp [others, Except.map] at complete
      | ok values =>
        simp only [others, Except.map, Except.ok.injEq] at complete
        subst complete
        refine ⟨?_, ih filled.2 others⟩
        cases slot with
        | some read => exact filled.1 value chosen
        | none => exact standard value chosen
    · contradiction

theorem fallbacksReadable {position : Nat} {values : ρ} (written : fields.Written members)
    (complete : fallbacks position fields = .ok values) : fields.AllReadable values := by
  induction written generalizing position with
  | none => trivial
  | @field _ _ _ _ _ fallback _ rest _ _ _ standard _ _ ih =>
    simp only [fallbacks] at complete
    split at complete
    · next value =>
      cases others : fallbacks (position + 1) rest with
      | error stopped => simp [others, Except.map] at complete
      | ok values =>
        simp only [others, Except.map, Except.ok.injEq] at complete
        subst complete
        exact ⟨standard value rfl, ih others⟩
    · contradiction

theorem itemsReadable {title : String} {size total position : Nat} {items : List Json} {values : ρ}
    (written : fields.Written members)
    (read : fieldsOfItems fields title size total position items = .ok values) :
    fields.AllReadable values := by
  induction written generalizing position items with
  | none => trivial
  | @field _ _ _ _ _ _ _ _ _ _ restores standard apart others ih =>
    cases items with
    | nil =>
      simp only [fieldsOfItems] at read
      split at read
      · next complete =>
        cases read
        exact fallbacksReadable (.field restores standard apart others) complete
      · contradiction
    | cons item items =>
      simp only [fieldsOfItems] at read
      obtain ⟨value, found, read⟩ := bindOk.mp read
      obtain ⟨values, rest, stored⟩ := bindOk.mp read
      cases stored
      exact ⟨⟨item, found⟩, ih rest⟩

theorem namesWritten (written : fields.Written members) (values : ρ) :
    (members values).map (·.1) = fields.names := by
  induction written with
  | none => rfl
  | field _ _ _ _ ih =>
    simp only [List.map_cons, names]
    rw [ih]

theorem ownMember {α : Type} {name : String} {aliases : List String} {fallback : Option α}
    {shape : Shape α} {closed : Bool} {known : List String} {json : Json} {value : α} {slots : σ}
    (read : shape.ofJson json = .ok value) :
    membersOfJson (.field name aliases fallback shape fields) closed known
        (Option.none, slots) (name, json) = .ok (some value, slots) := by
  simp [membersOfJson, read, bind, Except.bind]

/- The members of later fields pass by the slot of the first. -/
theorem slotKept {α : Type} {name : String} {aliases : List String} {fallback : Option α}
    {shape : Shape α} {closed : Bool} {known : List String} {entries : List (String × Json)}
    {slot : Option α} {slots : σ}
    (apart : ∀ other ∈ entries.map (·.1), other ≠ name ∧ other ∉ aliases) :
    entries.foldlM (membersOfJson (.field name aliases fallback shape fields) closed known)
        (slot, slots) =
      (entries.foldlM (membersOfJson fields closed known) slots).map (slot, ·) := by
  induction entries generalizing slots with
  | nil => rfl
  | cons entry entries ih =>
    obtain ⟨key, json⟩ := entry
    obtain ⟨notName, notAlias⟩ := apart key (by simp)
    have passed : (key == name || aliases.contains key) = false := by
      simp [notName, notAlias]
    simp only [List.foldlM_cons, membersOfJson, passed, Bool.false_eq_true, if_false]
    cases membersOfJson fields closed known slots (key, json) with
    | error mismatch => rfl
    | ok next => exact ih fun other member => apart other (List.mem_cons_of_mem _ member)

theorem membersRead {closed : Bool} {known : List String} {values : ρ}
    (written : fields.Written members) (readable : fields.AllReadable values) :
    (members values).foldlM (membersOfJson fields closed known) fields.empty =
      .ok (fields.full values) := by
  induction written with
  | none => rfl
  | @field _ _ _ name aliases _ _ rest write members restores _ apart others ih =>
    obtain ⟨value, values⟩ := values
    refine (congrArg (· >>= _) (ownMember (restores value readable.1))).trans ?_
    refine (slotKept ?_).trans ?_
    · rw [namesWritten others]
      exact apart
    · rw [ih readable.2]
      rfl

end Written

theorem completeFull : {ρ σ : Type} → (fields : Fields ρ σ) → (values : ρ) →
    fields.complete (fields.full values) = .ok values
  | _, _, .none, _ => rfl
  | _, _, .field _ _ _ _ rest, (value, values) => by
    simp [full, complete, rest.completeFull values, Except.map]

end Fields

namespace Shape

variable {α β ρ σ : Type}

theorem recordReadable {title : String} {closed : Bool} {fields : Fields ρ σ} {build : ρ → α}
    {members : ρ → List (String × Json)} {value : α} (written : fields.Written members)
    (readable : (record title closed fields build).Readable value) :
    ∃ values, fields.AllReadable values ∧ build values = value := by
  obtain ⟨json, read⟩ := readable
  cases json with
  | object entries =>
    simp only [ofJson] at read
    obtain ⟨slots, filled, read⟩ := bindOk.mp read
    split at read
    · next values complete =>
      cases read
      have filled := Fields.membersFill fields.filledEmpty filled
      exact ⟨values, Fields.completeReadable written filled complete, rfl⟩
    · contradiction
  | array items =>
    simp only [ofJson] at read
    obtain ⟨values, found, built⟩ := bindOk.mp read
    cases built
    exact ⟨values, Fields.itemsReadable written found, rfl⟩
  | _ => simp [ofJson, mismatch] at read

theorem recordRestores {title : String} {closed : Bool} {fields : Fields ρ σ} {build : ρ → α}
    {members : ρ → List (String × Json)} {write : α → Json} (written : fields.Written members)
    (writes : ∀ values, write (build values) = .object (members values)) :
    (record title closed fields build).Restores write := by
  intro value read
  obtain ⟨values, readable, rfl⟩ := recordReadable written read
  rw [writes]
  simp only [ofJson, Fields.membersRead written readable]
  simp [bind, Except.bind, fields.completeFull]

theorem flagRestores : flag.Restores .bool :=
  fun _ _ => by simp [ofJson]

theorem anythingRestores : anything.Restores fun value => value :=
  fun _ _ => by simp [ofJson]

theorem membersRestores : members.Restores fun entries => (entries.map .object).getD .null := by
  intro entries _
  cases entries <;> simp [ofJson]

theorem choiceRestores {cases : List (String × α)} {name : α → String}
    (named : ∀ value, cases.lookup (name value) = some value) :
    (choice cases).Restores fun value => .string (name value) :=
  fun value _ => by simp [ofJson, findCase, named value]

theorem namedRestores {convert : String → α} {name : α → String}
    (again : ∀ raw, convert (name (convert raw)) = convert raw) :
    (converted convert text).Restores fun value => .string (name value) := by
  rintro value ⟨json, read⟩
  simp only [ofJson] at read
  split at read
  · next raw =>
    cases read
    simp [ofJson, Except.map, again raw]
  · simp [mismatch, Except.map] at read

theorem listRestores {item : Shape α} {write : α → Json} (restores : item.Restores write) :
    (list item).Restores fun values => .array (values.map write) := by
  rintro values ⟨json, read⟩
  cases json with
  | array items =>
    simp only [ofJson] at read ⊢
    induction items generalizing values with
    | nil =>
      cases read
      rfl
    | cons first items ih =>
      rw [List.mapM_cons] at read
      obtain ⟨value, one, read⟩ := bindOk.mp read
      obtain ⟨values, others, stored⟩ := bindOk.mp read
      cases stored
      rw [List.map_cons, List.mapM_cons, restores value ⟨first, one⟩, ih values others]
      rfl
  | _ => simp [ofJson, mismatch] at read

end Shape

end Scaffold
