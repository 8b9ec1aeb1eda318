import Scaffold.Proofs.Json.LaidOut
import Scaffold.Proofs.Shape.Restoring
import Scaffold.Shape.OfNode

/-!
What a shape reads from a value it also reads from the text the value is laid out as.
-/
namespace Scaffold
open Json (Plain itemNodes memberNodes)

namespace Shape

def Agrees {α : Type} (shape : Shape α) : Prop :=
  ∀ {depth json value}, Plain depth json → shape.ofJson json = .ok value → shape.ofNode depth json.node = .ok value

end Shape

namespace Fields
open Shape

variable {ρ σ : Type}

def MembersAgree (fields : Fields ρ σ) : Prop :=
  ∀ {closed known depth slots after name json}, Plain depth json →
    membersOfJson fields closed known slots (name, json) = .ok after →
    memberOfNode fields closed known depth slots name json.node = .ok after

def ItemsAgree (fields : Fields ρ σ) : Prop :=
  ∀ {title size total depth position items values}, (∀ item ∈ items, Plain depth item) →
    fieldsOfItems fields title size total position items = .ok values →
    fieldsOfNode fields title size depth position (itemNodes items) = .ok values

end Fields

namespace Shape

variable {α β ρ σ : Type}

theorem textAgrees : text.Agrees := by
  intro depth json value _ read
  cases json with
  | string s =>
    simp only [ofJson] at read
    cases read
    rfl
  | _ => simp [ofJson, mismatch] at read

theorem flagAgrees : flag.Agrees := by
  intro depth json value _ read
  cases json with
  | bool b =>
    simp only [ofJson] at read
    cases read
    rfl
  | _ => simp [ofJson, mismatch] at read

theorem anythingAgrees : anything.Agrees := by
  intro depth json value plain read
  simp only [ofJson] at read
  cases read
  rw [ofNode, plain.kept]
  rfl

theorem entriesOrNoneAgree : members.Agrees := by
  intro depth json value plain read
  cases plain with
  | null =>
    simp only [ofJson] at read
    cases read
    rfl
  | object each apart =>
    simp only [ofJson] at read
    cases read
    have kept := Json.membersKept [] (fun member inside => (each member inside).kept) apart
    simp only [Json.node, ofNode, descend]
    exact congrArg (fun entries => (orFault entries).map some) kept
  | _ => simp [ofJson, mismatch] at read

theorem choiceAgrees {cases : List (String × α)} : (choice cases).Agrees := by
  intro depth json value plain read
  cases plain with
  | string name =>
    simp only [ofJson] at read
    simp only [Json.node, ofNode, read]
    rfl
  | @object depth entries each apart =>
    cases entries with
    | nil => simp [ofJson] at read
    | cons entry others =>
      obtain ⟨name, content⟩ := entry
      cases others with
      | cons next others => simp [ofJson] at read
      | nil =>
        simp only [ofJson] at read
        obtain ⟨found, named, read⟩ := bindOk.mp read
        cases content with
        | null =>
          cases read
          simp only [Json.node, memberNodes, ofNode, named]
          rfl
        | _ => contradiction
  | _ => simp [ofJson, mismatch] at read

theorem itemsAgree {item : Shape α} (agrees : item.Agrees) {depth : Nat} {items : List Json} {values : List α}
    (plain : ∀ item ∈ items, Plain depth item) (read : items.mapM item.ofJson = .ok values) :
    readItems (item.ofNode depth) (itemNodes items) = .ok values := by
  induction items generalizing values with
  | nil =>
    cases read
    rfl
  | cons first items ih =>
    obtain ⟨this, others⟩ := List.forall_mem_cons.mp plain
    rw [List.mapM_cons] at read
    obtain ⟨value, one, read⟩ := bindOk.mp read
    obtain ⟨values, rest, stored⟩ := bindOk.mp read
    cases stored
    rw [itemNodes, readItems, agrees this one, ih others rest]
    rfl

theorem listAgrees {item : Shape α} (agrees : item.Agrees) : (list item).Agrees := by
  intro depth json values plain read
  cases plain with
  | array each =>
    simp only [ofJson] at read
    simp only [Json.node, ofNode]
    exact itemsAgree agrees each read
  | _ => simp [ofJson, mismatch] at read

theorem convertedAgrees {convert : α → β} {shape : Shape α} (agrees : shape.Agrees) :
    (converted convert shape).Agrees := by
  intro depth json value plain read
  simp only [ofJson] at read
  cases found : shape.ofJson json with
  | error mismatch => simp [found, Except.map] at read
  | ok value =>
    rw [found] at read
    cases read
    rw [ofNode, agrees plain found]
    rfl

theorem entriesAgree {fields : Fields ρ σ} (agree : fields.MembersAgree) {closed : Bool} {known : List String}
    {depth : Nat} {entries : List (String × Json)} {slots after : σ}
    (plain : ∀ entry ∈ entries, Plain depth entry.2)
    (read : entries.foldlM (membersOfJson fields closed known) slots = .ok after) :
    readMembers (memberOfNode fields closed known depth) slots (memberNodes entries) = .ok after := by
  induction entries generalizing slots with
  | nil =>
    cases read
    rfl
  | cons entry entries ih =>
    obtain ⟨first, others⟩ := List.forall_mem_cons.mp plain
    rw [List.foldlM_cons] at read
    obtain ⟨next, one, rest⟩ := bindOk.mp read
    rw [memberNodes, readMembers, agree first one]
    exact ih others rest

theorem recordAgrees {title : String} {closed : Bool} {fields : Fields ρ σ} {build : ρ → α}
    (members : fields.MembersAgree) (items : fields.ItemsAgree) : (record title closed fields build).Agrees := by
  intro depth json value plain read
  cases plain with
  | object each =>
    simp only [ofJson] at read
    obtain ⟨slots, entries, complete⟩ := bindOk.mp read
    refine bindOk.mpr ⟨_, rfl, bindOk.mpr ⟨slots, entriesAgree members each entries, ?_⟩⟩
    cases filled : fields.complete slots with
    | error missing => simp [filled] at complete
    | ok values =>
      simp only [filled] at complete ⊢
      cases complete
      rfl
  | array each =>
    simp only [ofJson] at read
    obtain ⟨values, found, built⟩ := bindOk.mp read
    cases built
    exact bindOk.mpr ⟨_, rfl, bindOk.mpr ⟨values, items each found, rfl⟩⟩
  | _ => simp [ofJson, mismatch] at read

end Shape

namespace Fields
open Shape

variable {α ρ σ : Type}

theorem noMembersAgree : Fields.none.MembersAgree := by
  intro closed known depth slots after name json _ read
  cases closed with
  | true => contradiction
  | false =>
    cases read
    simp [memberOfNode, Json.nodeSound]

theorem fieldMembersAgree {name : String} {aliases : List String} {fallback : Option α} {shape : Shape α}
    {rest : Fields ρ σ} (agrees : shape.Agrees) (others : rest.MembersAgree) :
    (field name aliases fallback shape rest).MembersAgree := by
  intro closed known depth slots after key json plain read
  obtain ⟨slot, slots⟩ := slots
  simp only [membersOfJson] at read
  split at read
  · next own =>
    cases slot with
    | some value => contradiction
    | none =>
      obtain ⟨value, found, stored⟩ := bindOk.mp read
      cases stored
      simp only [memberOfNode, own, if_true]
      exact bindOk.mpr ⟨value, agrees plain found, rfl⟩
  · next other =>
    obtain ⟨passed, found, stored⟩ := bindOk.mp read
    cases stored
    simp only [memberOfNode, other]
    exact bindOk.mpr ⟨passed, others plain found, rfl⟩

theorem noItemsAgree : Fields.none.ItemsAgree := by
  intro title size total depth position items values _ read
  cases items with
  | nil =>
    cases read
    rfl
  | cons item items => contradiction

theorem fieldItemsAgree {name : String} {aliases : List String} {fallback : Option α} {shape : Shape α}
    {rest : Fields ρ σ} (agrees : shape.Agrees) (others : rest.ItemsAgree) :
    (field name aliases fallback shape rest).ItemsAgree := by
  intro title size total depth position items values plain read
  cases items with
  | nil =>
    simp only [fieldsOfItems] at read
    split at read
    · next filled =>
      cases read
      simp only [itemNodes, fieldsOfNode, filled]
    · contradiction
  | cons item items =>
    obtain ⟨first, behind⟩ := List.forall_mem_cons.mp plain
    simp only [fieldsOfItems] at read
    obtain ⟨value, found, read⟩ := bindOk.mp read
    obtain ⟨values, rest, stored⟩ := bindOk.mp read
    cases stored
    exact bindOk.mpr ⟨value, agrees first found, bindOk.mpr ⟨values, others behind rest, rfl⟩⟩

end Fields

namespace Shape

mutual

theorem agrees : {α : Type} → (shape : Shape α) → shape.Agrees
  | _, text => textAgrees
  | _, flag => flagAgrees
  | _, anything => anythingAgrees
  | _, members => entriesOrNoneAgree
  | _, choice _ => choiceAgrees
  | _, list item => listAgrees (agrees item)
  | _, record _ _ fields _ => recordAgrees (membersAgree fields) (fieldsAgree fields)
  | _, converted _ shape => convertedAgrees (agrees shape)

theorem membersAgree : {ρ σ : Type} → (fields : Fields ρ σ) → fields.MembersAgree
  | _, _, .none => Fields.noMembersAgree
  | _, _, .field _ _ _ shape rest => Fields.fieldMembersAgree (agrees shape) (membersAgree rest)

theorem fieldsAgree : {ρ σ : Type} → (fields : Fields ρ σ) → fields.ItemsAgree
  | _, _, .none => Fields.noItemsAgree
  | _, _, .field _ _ _ shape rest => Fields.fieldItemsAgree (agrees shape) (fieldsAgree rest)

end

theorem prettyRead {α : Type} {shape : Shape α} {json : Json} {value : α} {behind : String}
    (plain : Plain Json.depthLimit json) (read : shape.ofJson json = .ok value)
    (blank : ∀ c ∈ behind.toList, Json.isSpace c = true) :
    shape.ofJsonText (Json.pretty json ++ behind) = .ok value := by
  have ended : Json.skipSpace behind.toList = [] := List.dropWhile_eq_nil_iff.mpr blank
  rw [ofJsonText, plain.readPretty]
  refine bindOk.mpr ⟨value, agrees shape plain read, ?_⟩
  simp [ended]

end Shape

end Scaffold
