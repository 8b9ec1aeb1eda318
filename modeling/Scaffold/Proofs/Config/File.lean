import Scaffold.Config.File
import Scaffold.Proofs.Toml.Keys

/-!
What a settings file says, key by key. A file is refused for any entry that is no setting, and what it
says of one key changes nothing else.
-/
namespace Scaffold.Config
open Toml

def orderName : Migration.Order → String
  | .declared => "declared"
  | .dependency => "dependency"

/-- An order is written as its name, or as a table with that name alone and nothing behind it. -/
inductive Names (order : Migration.Order) : Item → Prop where
  | text : Names order (.text (orderName order))
  | array {origin : Origin} : Names order (.table origin [(orderName order, .array [])])
  | table {origin inner : Origin} : Names order (.table origin [(orderName order, .table inner [])])

inductive Setting : String × Item → Prop where
  | packageName (value : String) : Setting ("package_name", .text value)
  | packageVersion (value : String) : Setting ("package_version", .text value)
  | order {item : Item} {order : Migration.Order} (names : Names order item) :
      Setting ("migration_order", item)

def nameIn (entries : Entries) : Option String :=
  (entries.lookup "package_name").bind text?

def versionIn (entries : Entries) : Option String :=
  (entries.lookup "package_version").bind text?

def orderIn (entries : Entries) : Option Migration.Order :=
  (entries.lookup "migration_order").bind order?

def withEntries (config : Config) (entries : Entries) : Config :=
  ⟨(nameIn entries).getD config.packageName, (versionIn entries).getD config.packageVersion,
    (orderIn entries).getD config.order⟩

theorem textIff {item : Item} {value : String} : text? item = some value ↔ item = .text value := by
  cases item <;> simp [text?]

theorem orderNamedIff {name : String} {order : Migration.Order} :
    orderNamed? name = some order ↔ name = orderName order := by
  unfold orderNamed?
  split <;> cases order <;> simp_all [orderName]

theorem emptyItemIff {item : Item} :
    isEmptyItem item = true ↔ item = .array [] ∨ ∃ origin, item = .table origin [] := by
  cases item <;> simp [isEmptyItem]

theorem orderIff {item : Item} {order : Migration.Order} : order? item = some order ↔ Names order item := by
  constructor
  · intro named
    unfold order? at named
    split at named
    · cases orderNamedIff.mp named
      exact .text
    · split at named
      · next nothing =>
        cases orderNamedIff.mp named
        rcases emptyItemIff.mp nothing with rfl | ⟨inner, rfl⟩
        · exact .array
        · exact .table
      · contradiction
    · contradiction
  · intro names
    cases names <;> exact orderNamedIff.mpr rfl

theorem setIff {config next : Config} {entry : String × Item} :
    set? config entry = some next ↔ Setting entry ∧ config.withEntries [entry] = next := by
  obtain ⟨key, item⟩ := entry
  constructor
  · intro went
    unfold set? at went
    split at went
    · next same =>
      cases same
      obtain ⟨value, text, rfl⟩ := Option.map_eq_some_iff.mp went
      cases textIff.mp text
      exact ⟨.packageName value, rfl⟩
    · next same =>
      cases same
      obtain ⟨value, text, rfl⟩ := Option.map_eq_some_iff.mp went
      cases textIff.mp text
      exact ⟨.packageVersion value, rfl⟩
    · next same =>
      cases same
      obtain ⟨order, names, rfl⟩ := Option.map_eq_some_iff.mp went
      refine ⟨.order (orderIff.mp names), ?_⟩
      simp [withEntries, nameIn, versionIn, orderIn, List.lookup_cons, names]
    · contradiction
  · rintro ⟨setting, rfl⟩
    cases setting with
    | packageName value => rfl
    | packageVersion value => rfl
    | order names =>
      simp [set?, withEntries, nameIn, versionIn, orderIn, List.lookup_cons, orderIff.mpr names]

theorem givenCons {α : Type} {entry : String × Item} {rest : Entries}
    (distinct : Distinct (entry :: rest)) (key : String) (read : Item → Option α) (standard : α) :
    (((entry :: rest).lookup key).bind read).getD standard =
      ((rest.lookup key).bind read).getD ((([entry].lookup key).bind read).getD standard) := by
  obtain ⟨name, item⟩ := entry
  by_cases same : key = name
  · subst same
    simp [lookupFresh distinct]
  · have differs : (key == name) = false := beq_eq_false_iff_ne.mpr same
    simp [List.lookup_cons, differs]

theorem withEntriesCons {config : Config} {entry : String × Item} {rest : Entries}
    (distinct : Distinct (entry :: rest)) :
    (config.withEntries [entry]).withEntries rest = config.withEntries (entry :: rest) := by
  simp only [withEntries, nameIn, versionIn, orderIn, givenCons distinct]

theorem setAllIff {config result : Config} {entries : Entries} (distinct : Distinct entries) :
    entries.foldlM set? config = some result ↔
      (∀ entry ∈ entries, Setting entry) ∧ config.withEntries entries = result := by
  induction entries generalizing config with
  | nil => simp [withEntries, nameIn, versionIn, orderIn]
  | cons entry rest ih =>
    rw [List.foldlM_cons, Option.bind_eq_bind, Option.bind_eq_some_iff, List.forall_mem_cons,
      ← withEntriesCons distinct]
    constructor
    · rintro ⟨next, first, later⟩
      obtain ⟨setting, rfl⟩ := setIff.mp first
      obtain ⟨settings, rfl⟩ := (ih (List.nodup_cons.mp distinct).2).mp later
      exact ⟨⟨setting, settings⟩, rfl⟩
    · rintro ⟨⟨setting, settings⟩, rfl⟩
      exact ⟨_, setIff.mpr ⟨setting, rfl⟩, (ih (List.nodup_cons.mp distinct).2).mpr ⟨settings, rfl⟩⟩

theorem ofTextIff {text : String} {config : Config} :
    Config.ofText text = .ok config ↔ ∃ entries, Entries.ofText? text = some entries ∧
      (∀ entry ∈ entries, Setting entry) ∧ ({} : Config).withEntries entries = config := by
  unfold Config.ofText ofEntries?
  cases reads : Entries.ofText? text with
  | none => simp
  | some entries =>
    have all : ∀ result, entries.foldlM set? ({} : Config) = some result ↔ _ :=
      fun _ => setAllIff (textDistinct reads)
    simp only [Option.some.injEq, exists_eq_left', ← all]
    cases entries.foldlM set? {} <;> simp

end Scaffold.Config
