import Scaffold.Manifest
import Scaffold.Payments
import Scaffold.Proofs.Backend.Encoding
import Scaffold.Proofs.Project.Emission
import Scaffold.Proofs.Shape.OfNode

/-!
The JSON that is written into a project: the product list, which is the value of a constant, and the package
file. Both hold texts of any kind, and no text keeps them from being read again.
-/
namespace Scaffold
open Json (Plain)

theorem textsPlain {depth : Nat} (items : List String) : Plain (depth + 1) (texts items) := by
  apply Plain.array
  intro item member
  obtain ⟨s, -, same⟩ := List.mem_map.mp member
  exact same ▸ .string s

theorem productPlain {depth : Nat} (product : Product) : Plain (depth + 2) product.toJson := by
  apply Plain.object
  · simp only [List.forall_mem_cons]
    exact ⟨.string _, .string _, .string _, textsPlain _, nofun⟩
  · simp only [List.map_cons, List.map_nil]
    decide

theorem productsPlain {depth : Nat} (products : List Product) :
    Plain (depth + 3) (Payments.productsJson products) := by
  apply Plain.array
  intro json member
  obtain ⟨product, -, same⟩ := List.mem_map.mp member
  exact same ▸ productPlain product

namespace Manifest

theorem stringsPlain {depth : Nat} {members : List (String × String)} (apart : (members.map (·.1)).Nodup) :
    Plain (depth + 1) (strings members) := by
  apply Plain.object
  · intro member inside
    obtain ⟨entry, -, same⟩ := List.mem_map.mp inside
    exact same ▸ .string entry.2
  · rw [List.map_map]
    exact apart

theorem packagePlain {depth : Nat} (name version : String) : Plain (depth + 2) (packageJson name version) := by
  apply Plain.object
  · simp only [List.forall_mem_cons]
    exact ⟨.string name, .string version, .bool true, stringsPlain (by decide), stringsPlain (by decide),
      stringsPlain (by decide), nofun⟩
  · simp only [List.map_cons, List.map_nil]
    decide

end Manifest

namespace Shape

variable {α β ρ σ : Type}

theorem listReads {item : Shape α} {write : α → Json} {values : List α}
    (each : ∀ value ∈ values, item.ofJson (write value) = .ok value) :
    (list item).ofJson (.array (values.map write)) = .ok values := by
  simp only [ofJson]
  induction values with
  | nil => rfl
  | cons value values ih =>
    obtain ⟨first, others⟩ := List.forall_mem_cons.mp each
    rw [List.map_cons, List.mapM_cons, first, ih others]
    rfl

theorem textReads (s : String) : text.ofJson (.string s) = .ok s := by
  simp only [ofJson]

theorem itemRead {name title : String} {aliases : List String} {fallback : Option α} {shape : Shape α}
    {rest : Fields ρ σ} {size total position : Nat} {item : Json} {items : List Json} {value : α} {values : ρ}
    (first : shape.ofJson item = .ok value)
    (others : fieldsOfItems rest title size total (position + 1) items = .ok values) :
    fieldsOfItems (.field name aliases fallback shape rest) title size total position (item :: items) =
      .ok (value, values) :=
  bindOk.mpr ⟨value, first, bindOk.mpr ⟨values, others, rfl⟩⟩

theorem productReads (value : Product) : product.ofJson value.toJson = .ok value := by
  have billing : billing.ofJson (.string value.billing.name) = .ok value.billing := by
    cases value.billing <;> rfl
  have features : (list text).ofJson (texts value.features) = .ok value.features :=
    listReads fun s _ => textReads s
  -- in one spelling the product can be read, so it can in the one it is written in
  apply productRestores
  refine ⟨.array [.string value.name, .string value.billing.name, .string value.price, texts value.features], ?_⟩
  simp only [product, ofJson]
  refine bindOk.mpr ⟨(value.name, value.billing, value.price, value.features, ()), ?_, rfl⟩
  exact itemRead (textReads value.name) <| itemRead billing <| itemRead (textReads value.price) <|
    itemRead features rfl

theorem productsRead (values : List Product) :
    (list product).ofJson (Payments.productsJson values) = .ok values :=
  listReads fun value _ => productReads value

end Shape

theorem configRead (products : List Product) :
    ∃ json : String, Payments.configText products = "export const STRIPE_PRODUCTS = " ++ json ++ ";" ++ "\n" ∧
      Json.parse? json = some (Payments.productsJson products) ∧
      (Shape.list Shape.product).ofJsonText json = .ok products := by
  have ending : (";" : String) ++ "\n" = ";\n" := by decide
  have cut : ∀ text : String, text ++ ";" ++ "\n" = text ++ ";\n" := by
    intro text
    rw [← ending, String.append_assoc]
  have plain : Plain Json.depthLimit (Payments.productsJson products) := productsPlain products
  have whole : ∀ c ∈ ("" : String).toList, Json.isSpace c = true := List.forall_mem_nil _
  have parsed := Json.parsePretty plain whole
  have read := Shape.prettyRead plain (Shape.productsRead products) whole
  rw [String.append_empty] at parsed read
  exact ⟨_, (cut _).symm, parsed, read⟩

theorem packageRead (name version : String) :
    Json.parse? (Manifest.packageText name version) = some (Manifest.packageJson name version) :=
  Json.parsePretty (Manifest.packagePlain name version) (List.forall_mem_singleton.mpr rfl)

namespace Project

variable (backend : Backend) (config : Config)

theorem configResolved :
    ⟨paymentsConfigPath, Payments.configText backend.products⟩ ∈ (generate backend config).resolved := by
  have fixed : paymentsConfigPath ∈ fixedPaths := by decide
  have apart : paymentsConfigPath ≠ routeIndexPath := by decide
  exact fixedResolved (by simp [emitted]) fixed apart

theorem packageResolved :
    ⟨packagePath, Manifest.packageText config.packageName config.packageVersion⟩ ∈
      (generate backend config).resolved := by
  have fixed : packagePath ∈ fixedPaths := by decide
  have apart : packagePath ≠ routeIndexPath := by decide
  exact fixedResolved (by simp [emitted]) fixed apart

end Project

theorem embeddedJsonSurvives :
    (∀ products : List Product, ∃ json : String,
      Payments.configText products = "export const STRIPE_PRODUCTS = " ++ json ++ ";" ++ "\n" ∧
      Json.parse? json = some (Payments.productsJson products) ∧
      (Shape.list Shape.product).ofJsonText json = .ok products) ∧
    (∀ name version : String, ∃ document : Json,
      Json.parse? (Manifest.packageText name version) = some document ∧
      document.member? "name" = some (.string name) ∧ document.member? "version" = some (.string version)) ∧
    ∀ (backend : Backend) (config : Config),
      ⟨"src/config/stripe.ts", Payments.configText backend.products⟩ ∈ (generate backend config).resolved ∧
      ⟨"package.json", Manifest.packageText config.packageName config.packageVersion⟩ ∈
        (generate backend config).resolved := by
  refine ⟨configRead, ?_, ?_⟩
  · intro name version
    exact ⟨Manifest.packageJson name version, packageRead name version, rfl, rfl⟩
  · intro backend config
    exact ⟨Project.configResolved backend config, Project.packageResolved backend config⟩

end Scaffold
