import Scaffold.Proofs.Config.Layers
import Scaffold.Proofs.Text.AsciiLower

/-!
Settings in layers: an option stands over the environment, the environment over the file, and the file
over the standard. Each setting is settled by its own layers alone, once the file that is selected can be
read.
-/
namespace Scaffold.CommandLine
open Text Toml
open Config (Selected Entered)
open Scaffold.Task

structure Inquiry where
  workspace : Workspace
  environment : Environment
  source : Source
  file : Option Path := none
  order : Option Migration.Order := none
  packageName : Option String := none

structure Layers where
  packageName : List (Option String)
  packageVersion : List (Option String)
  order : List (Option Migration.Order)
  deriving DecidableEq, Repr

def topmost {α : Type} (layers : List (Option α)) (standard : α) : α :=
  (layers.findSome? id).getD standard

def Layers.settle (layers : Layers) : Config :=
  ⟨topmost layers.packageName "generated-backend", topmost layers.packageVersion "1.0.0",
    topmost layers.order .declared⟩

namespace Inquiry

def result (inquiry : Inquiry) : Except Failure Config :=
  ((resolveConfig inquiry.environment inquiry.source inquiry.file inquiry.order
    inquiry.packageName).on inquiry.workspace).1

def Finds (inquiry : Inquiry) (entries : Entries) : Prop :=
  ∃ file, Selected inquiry.workspace.tree inquiry.workspace.current inquiry.file
      inquiry.source.path? file ∧
    Entered inquiry.workspace.tree inquiry.workspace.current file entries

def layers (inquiry : Inquiry) (entries : Entries) : Layers where
  packageName := [inquiry.packageName,
    ((inquiry.environment "STACKFORGE_PACKAGE_NAME").map trim).filter (· ≠ ""),
    (entries.lookup "package_name").bind Config.text?]
  packageVersion := [(entries.lookup "package_version").bind Config.text?]
  order := [inquiry.order,
    (inquiry.environment "STACKFORGE_MIGRATION_ORDER").bind Migration.Order.ofName?,
    (entries.lookup "migration_order").bind Config.order?]

end Inquiry

def orderNames : Migration.Order → List String
  | .declared => ["declared", "input"]
  | .dependency => ["dependency", "dependencies", "topological"]

theorem orderNamed {raw : String} {order : Migration.Order} :
    Migration.Order.ofName? raw = some order ↔ ∃ name ∈ orderNames order, SameLetters (trim raw) name := by
  have small : ∀ name ∈ orderNames order, asciiLower name = name := by cases order <;> decide
  have listed : (∃ name ∈ orderNames order, SameLetters (trim raw) name) ↔
      asciiLower (trim raw) ∈ orderNames order := by
    simp only [sameLettersIff]
    constructor
    · rintro ⟨name, member, same⟩
      rwa [same, small name member]
    · exact fun member => ⟨_, member, (asciiLowerAgain _).symm⟩
  rw [listed]
  unfold Migration.Order.ofName?
  split <;> cases order <;> simp_all [orderNames]

theorem topmostCons {α : Type} (layer : Option α) (layers : List (Option α)) (standard : α) :
    topmost (layer :: layers) standard = layer.getD (topmost layers standard) := by
  cases layer <;> rfl

theorem spokenName (environment : Environment) : Config.packageNameOf environment =
    ((environment "STACKFORGE_PACKAGE_NAME").map trim).filter (· ≠ "") := by
  unfold Config.packageNameOf Config.packageNameVariable
  cases environment "STACKFORGE_PACKAGE_NAME" with
  | none => rfl
  | some value =>
    by_cases blank : isBlankText value = true
    · simp [Option.filter, blank, trimNone.mpr blank]
    · simp [Option.filter, blank, mt trimNone.mp blank]

theorem layersSettle (inquiry : Inquiry) (entries : Entries) :
    ((({} : Config).withEntries entries).withEnvironment inquiry.environment).withOptions
      inquiry.order inquiry.packageName = (inquiry.layers entries).settle := by
  simp only [Layers.settle, Inquiry.layers, topmostCons, ← spokenName]
  rfl

theorem resultIff (inquiry : Inquiry) (config : Config) :
    inquiry.result = .ok config ↔
      ∃ entries, inquiry.Finds entries ∧ (inquiry.layers entries).settle = config := by
  have answers := answersBind
    (Config.loadAnswers inquiry.environment inquiry.file inquiry.source.path?) fun loaded =>
      answersPure (loaded.withOptions inquiry.order inquiry.packageName)
  refine (answers.told inquiry.workspace config).trans ?_
  constructor
  · rintro ⟨_, ⟨file, entries, selected, entered, rfl⟩, rfl⟩
    exact ⟨entries, ⟨file, selected, entered⟩, (layersSettle inquiry entries).symm⟩
  · rintro ⟨entries, ⟨file, selected, entered⟩, rfl⟩
    exact ⟨_, ⟨file, entries, selected, entered, rfl⟩, layersSettle inquiry entries⟩

/-- Settings are there exactly when the selected file can be read, and are then settled layer by layer;
two inquiries that agree in the layers of a setting agree in the setting, whatever else they differ in. -/
structure Layered (inquiry : Inquiry) : Prop where
  settled : ∀ config, inquiry.result = .ok config ↔
    ∃ entries, inquiry.Finds entries ∧ (inquiry.layers entries).settle = config
  spoken : ∀ order,
    (inquiry.environment "STACKFORGE_MIGRATION_ORDER").bind Migration.Order.ofName? = some order ↔
      ∃ raw, inquiry.environment "STACKFORGE_MIGRATION_ORDER" = some raw ∧
        ∃ name ∈ orderNames order, SameLetters (trim raw) name
  filed : ∀ (entries : Entries) (order : Migration.Order),
    (entries.lookup "migration_order").bind Config.order? = some order ↔
      ∃ item, entries.lookup "migration_order" = some item ∧ Config.Names order item
  apart : ∀ (other : Inquiry) (entries others : Entries) (config different : Config),
    inquiry.Finds entries → other.Finds others → inquiry.result = .ok config →
    other.result = .ok different →
      ((inquiry.layers entries).packageName = (other.layers others).packageName →
        config.packageName = different.packageName) ∧
      ((inquiry.layers entries).packageVersion = (other.layers others).packageVersion →
        config.packageVersion = different.packageVersion) ∧
      ((inquiry.layers entries).order = (other.layers others).order → config.order = different.order)

theorem foundSettles {inquiry : Inquiry} {entries : Entries} {config : Config}
    (finds : inquiry.Finds entries) (result : inquiry.result = .ok config) :
    (inquiry.layers entries).settle = config :=
  Except.ok.inj (((resultIff inquiry _).mpr ⟨entries, finds, rfl⟩).symm.trans result)

theorem settingsLayered (inquiry : Inquiry) : Layered inquiry where
  settled := resultIff inquiry
  spoken order := by simp only [Option.bind_eq_some_iff, orderNamed]
  filed entries order := by simp only [Option.bind_eq_some_iff, Config.orderIff]
  apart other entries others config different found finds first second := by
    rw [← foundSettles found first, ← foundSettles finds second]
    simp only [Layers.settle]
    exact ⟨fun same => by rw [same], fun same => by rw [same], fun same => by rw [same]⟩

def shopText : String :=
  "package_name = \"shop\"\nmigration_order = \"dependency\"\n"

def shopEntries : Entries :=
  [("package_name", .text "shop"), ("migration_order", .text "dependency")]

/- A file beside the input, and in the environment a name and an order over those of the file. -/
def shop : Inquiry where
  workspace := { tree := { entries := [(["stackforge.toml"], .file shopText.toUTF8)] } }
  environment name :=
    if name == "STACKFORGE_PACKAGE_NAME" then some " bazaar "
    else if name == "STACKFORGE_MIGRATION_ORDER" then some " Input" else none
  source := .file ⟨"shop.json"⟩

/- An order that names none, so that the file is asked. -/
def straying : Inquiry :=
  { shop with
    environment := fun name => if name == "STACKFORGE_MIGRATION_ORDER" then some "sideways" else none }

theorem entriesOfTexts {entries : Entries} {texts : List (String × String)}
    (seen : entries.map (fun (name, item) => (name, Config.text? item)) =
      texts.map fun (name, value) => (name, some value)) :
    entries = texts.map fun (name, value) => (name, .text value) := by
  induction texts generalizing entries with
  | nil => exact List.map_eq_nil_iff.mp seen
  | cons text texts ih =>
    obtain ⟨⟨name, item⟩, rest, rfl, first, later⟩ := List.map_eq_cons_iff.mp seen
    obtain ⟨rfl, named⟩ := Prod.mk.inj first
    rw [Config.textIff.mp named, ih later, List.map_cons]

theorem shopReads : Entries.ofText? shopText = some shopEntries := by
  have seen : (Entries.ofText? shopText).map (·.map fun (name, item) => (name, Config.text? item)) =
      some [("package_name", some "shop"), ("migration_order", some "dependency")] := by
    decide +kernel
  obtain ⟨entries, read, shown⟩ := Option.map_eq_some_iff.mp seen
  rw [read, @entriesOfTexts entries [("package_name", "shop"), ("migration_order", "dependency")] shown]
  rfl

theorem shopFinds : shop.Finds shopEntries := by
  have above : Path.parent? ⟨"shop.json"⟩ = some ⟨""⟩ := by rfl
  have there : shop.workspace.tree.isThere shop.workspace.current
      (Path.push ⟨""⟩ "stackforge.toml") = true := by rfl
  have holds : Holds shop.workspace.tree shop.workspace.current (Path.push ⟨""⟩ "stackforge.toml")
      shopText := ⟨_, rfl, rfl⟩
  have named : Config.Names .dependency (.text "dependency") := .text
  refine ⟨_, .beside above there, .file holds shopReads fun entry member => ?_⟩
  rcases List.mem_pair.mp member with rfl | rfl
  · exact .packageName "shop"
  · exact .order named

theorem shopSettled :
    shop.result = .ok ⟨"bazaar", "1.0.0", .declared⟩ ∧
      straying.result = .ok ⟨"shop", "1.0.0", .dependency⟩ ∧
      ∀ config, { shop with order := some .dependency }.result = .ok config →
        config.packageName = "bazaar" := by
  have settled : shop.result = .ok ⟨"bazaar", "1.0.0", .declared⟩ :=
    ((settingsLayered shop).settled _).mpr ⟨_, shopFinds, rfl⟩
  have strayed : straying.result = .ok ⟨"shop", "1.0.0", .dependency⟩ :=
    ((settingsLayered straying).settled _).mpr ⟨_, shopFinds, rfl⟩
  refine ⟨settled, strayed, fun config went => ?_⟩
  have same := (settingsLayered shop).apart { shop with order := some .dependency } _ _ _ config
    shopFinds shopFinds settled went
  exact (same.1 rfl).symm

end Scaffold.CommandLine
