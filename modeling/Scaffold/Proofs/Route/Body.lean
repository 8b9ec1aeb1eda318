import Mathlib.Data.List.Forall2
import Mathlib.Data.List.Nodup
import Scaffold.Proofs.Json.Quoted
import Scaffold.Proofs.Route.Imports

/-!
The validation schema of a route module, read back: its lines are the entries of the declared body in
their order, each under the declared key, however the key had to be written.
-/
namespace Scaffold.Route
open Text

def opensName (c : Char) : Bool :=
  c.isAlpha || c == '_' || c == '$'

def goesOn (c : Char) : Bool :=
  opensName c || c.isDigit

/- A key at the start of an entry, bare or as a string literal, and what follows it. -/
def readKey (cs : List Char) : Option (String × List Char) :=
  match cs with
  | '"' :: rest =>
    match Json.openString rest with
    | .closed (some key) rest => some (key, rest)
    | _ => none
  | cs =>
    if cs.head?.any opensName then
      some (String.ofList (cs.takeWhile goesOn), cs.dropWhile goesOn)
    else none

def readEntry (line : String) : Option (String × String) := do
  let entry ← after? "  " line
  let (key, rest) ← readKey entry.toList
  let value ← after? ": " (String.ofList rest)
  let validator ← before? "," value
  return (key, validator)

def readEntries (text : String) : Option (List (String × String)) :=
  ((splitAt '\n' text).takeWhile (· != "\x7d);")).mapM readEntry

def validatorOf : Json → String
  | .string raw => bodyValidator raw
  | _ => "z.unknown()"

def Visible (s : String) : Prop :=
  ∀ c ∈ s.toList, ¬ c.toNat < 32

instance (s : String) : Decidable (Visible s) :=
  List.decidableBAll (fun (c : Char) => ¬ c.toNat < 32) s.toList

inductive Written (key : String) : String → Prop where
  | bare (plain : isIdentifier key = true) : Written key key
  | literal {text cs} (special : isIdentifier key = false) (opens : text.toList = '"' :: cs)
      (closes : Json.openString cs = .closed (some key) []) : Written key text

def BodyEntry.line (entry : BodyEntry) : String :=
  "  " ++ entry.key ++ ": " ++ entry.validator ++ ","

variable {key : String} {type : Json} {rest : List Char}

theorem isIdentifierIff : isIdentifier key = true ↔
    ∃ first rest, key.toList = first :: rest ∧ opensName first = true ∧
      ∀ c ∈ rest, goesOn c = true := by
  unfold isIdentifier
  cases key.toList with
  | nil => simp
  | cons first rest =>
    have same : (fun c : Char => c.isAlphanum || c == '_' || c == '$') = goesOn := by
      funext c
      simp only [goesOn, opensName, Char.isAlphanum]
      cases c.isAlpha <;> cases c.isDigit <;> simp
    rw [same]
    simp [opensName]

theorem readBare (plain : isIdentifier key = true) (stop : rest.head?.all (!goesOn ·) = true) :
    readKey (key.toList ++ rest) = some (key, rest) := by
  obtain ⟨first, others, text, opens, word⟩ := isIdentifierIff.mp plain
  have inside : ∀ c ∈ key.toList, goesOn c = true := by
    rw [text]
    rintro c (_ | ⟨_, later⟩)
    · simp [goesOn, opens]
    · exact word c later
  have ends : rest.takeWhile goesOn = [] ∧ rest.dropWhile goesOn = rest := by
    cases rest with
    | nil => exact ⟨rfl, rfl⟩
    | cons c rest =>
      have other : goesOn c = false := by simpa using stop
      simp [other]
  have taken : (key.toList ++ rest).takeWhile goesOn = key.toList := by
    rw [List.takeWhile_append_of_pos inside, ends.1, List.append_nil]
  have dropped : (key.toList ++ rest).dropWhile goesOn = rest := by
    rw [List.dropWhile_append_of_pos inside, ends.2]
  rw [readKey, taken, dropped, String.ofList_toList]
  · simp [text, opens]
  · rintro cs quote
    rw [text, List.cons_append] at quote
    rw [(List.cons.inj quote).1] at opens
    exact absurd opens (by decide)

theorem readLiteral (name : String) (rest : List Char) :
    readKey ((Json.quoted name).toList ++ rest) = some (name, rest) := by
  obtain ⟨cs, opened, closed⟩ := Json.readQuoted name rest
  rw [opened, List.cons_append, readKey, closed]

theorem bodyEntryKey (key : String) (type : Json) :
    (bodyEntry key type).key = if isIdentifier key then key else Json.quoted key :=
  rfl

theorem bodyEntryValidator (key : String) (type : Json) :
    (bodyEntry key type).validator = validatorOf type := by
  cases type <;> simp only [bodyEntry, validatorOf]

theorem readWritten (type : Json) (stop : rest.head?.all (!goesOn ·) = true) :
    readKey ((bodyEntry key type).key.toList ++ rest) = some (key, rest) := by
  rw [bodyEntryKey]
  split
  · rename_i plain
    exact readBare plain stop
  · exact readLiteral key rest

theorem bodyEntryWritten (key : String) (type : Json) : Written key (bodyEntry key type).key := by
  rw [bodyEntryKey]
  split
  · rename_i plain
    exact .bare plain
  · rename_i special
    obtain ⟨cs, opened, closed⟩ := Json.readQuoted key []
    rw [List.append_nil] at closed
    exact .literal (by simpa using special) opened closed

theorem bodyEntryApart {other : String} {type kind : Json}
    (same : (bodyEntry key type).key = (bodyEntry other kind).key) : key = other := by
  have left : readKey ((bodyEntry key type).key.toList ++ []) = some (key, []) :=
    readWritten type rfl
  rw [same, readWritten kind rfl] at left
  simpa using left.symm

theorem readLine (key : String) (type : Json) :
    readEntry (bodyEntry key type).line = some (key, validatorOf type) := by
  have cut : (bodyEntry key type).line = "  " ++ ((bodyEntry key type).key ++
      (": " ++ (validatorOf type ++ ","))) := by
    simp only [BodyEntry.line, bodyEntryValidator, String.append_assoc]
  have name : readKey ((bodyEntry key type).key ++ (": " ++ (validatorOf type ++ ","))).toList =
      some (key, (": " ++ (validatorOf type ++ ",")).toList) := by
    rw [String.toList_append]
    exact readWritten type (by simp [goesOn, opensName])
  rw [readEntry, cut, afterStart]
  simp only [Option.bind_eq_bind, Option.bind_some, name, String.ofList_toList, afterStart, beforeLast]
  rfl

theorem visibleAppend {s t : String} : Visible (s ++ t) ↔ Visible s ∧ Visible t := by
  simp only [Visible, String.toList_append, List.mem_append, or_imp, forall_and]

theorem goesOnVisible {c : Char} (inside : goesOn c = true) : ¬ c.toNat < 32 := by
  intro control
  have none : ∀ n < 32, goesOn (Char.ofNat n) = false := by decide
  have other := none c.toNat control
  rw [Char.ofNat_toNat, inside] at other
  contradiction

theorem keyVisible (key : String) (type : Json) : Visible (bodyEntry key type).key := by
  rw [bodyEntryKey]
  split
  · rename_i plain
    obtain ⟨first, rest, text, opens, word⟩ := isIdentifierIff.mp plain
    rw [Visible, text]
    rintro c (_ | ⟨_, later⟩)
    · exact goesOnVisible (by simp [goesOn, opens])
    · exact goesOnVisible (word c later)
  · exact Json.quotedVisible key

theorem columnValidatorVisible (type : ColumnType) : Visible type.validator := by
  cases type <;> (simp only [ColumnType.validator]; decide)

theorem bodyValidatorVisible (raw : String) : Visible (bodyValidator raw) := by
  unfold bodyValidator
  extract_lets whole optional base required
  have needed : Visible required := by
    unfold required
    split
    all_goals first | decide | exact columnValidatorVisible _
  split
  · exact visibleAppend.mpr ⟨needed, by decide⟩
  · exact needed

theorem validatorVisible (type : Json) : Visible (validatorOf type) := by
  cases type
  case string raw => exact bodyValidatorVisible raw
  all_goals exact (by decide : Visible "z.unknown()")

theorem lineVisible (key : String) (type : Json) : Visible (bodyEntry key type).line := by
  simp only [BodyEntry.line, visibleAppend, bodyEntryValidator]
  exact ⟨⟨⟨⟨by decide, keyVisible key type⟩, by decide⟩, validatorVisible type⟩, by decide⟩

theorem visibleLine {s : String} (visible : Visible s) : '\n' ∉ s.toList :=
  fun member => visible '\n' member (by decide)

/- What a module has between the opening of its schema and what follows the schema. -/
def schemaText (entries : List BodyEntry) : String :=
  unlines (entries.map (·.line) ++ ["\x7d);"])

def declared (member : String × Json) : String × String :=
  (member.1, validatorOf member.2)

def bodyEntries (members : List (String × Json)) : List BodyEntry :=
  members.map fun member => bodyEntry member.1 member.2

theorem linesRead (members : List (String × Json)) :
    ((bodyEntries members).map (·.line)).mapM readEntry = some (members.map declared) := by
  induction members with
  | nil => rfl
  | cons member members ih =>
    rw [bodyEntries, List.map_cons, List.map_cons, List.mapM_cons, readLine, ← bodyEntries, ih]
    rfl

theorem bodyLine {members : List (String × Json)} {line : String}
    (member : line ∈ (bodyEntries members).map (·.line)) :
    '\n' ∉ line.toList ∧ line ≠ "\x7d);" := by
  rw [bodyEntries, List.map_map] at member
  obtain ⟨entry, -, rfl⟩ := List.mem_map.mp member
  refine ⟨visibleLine (lineVisible entry.1 entry.2), fun closing => ?_⟩
  simp [BodyEntry.line, ← String.toList_inj] at closing

theorem schemaRead (members : List (String × Json)) (behind : String) :
    readEntries (schemaText (bodyEntries members) ++ behind) = some (members.map declared) := by
  have free : ∀ line ∈ (bodyEntries members).map (·.line) ++ ["\x7d);"], '\n' ∉ line.toList := by
    intro line member
    rcases List.mem_append.mp member with inside | closing
    · exact (bodyLine inside).1
    · rw [List.mem_singleton.mp closing]
      decide
  have others : ∀ line ∈ (bodyEntries members).map (·.line), (line != "\x7d);") = true :=
    fun line member => bne_iff_ne.mpr (bodyLine member).2
  rw [readEntries, schemaText, splitAtUnlines free, List.append_assoc,
    List.takeWhile_append_of_pos others]
  simpa using linesRead members

theorem schemaStands (m : Module) {entries : List BodyEntry} (takes : m.method.takesBody = true)
    (body : m.body = some entries) :
    ∃ behind, m.text = unlines (m.imports ++ [""] ++ m.comments ++
      ["", "const " ++ m.schema ++ " = z.object(\x7b"]) ++ (schemaText entries ++ behind) := by
  have block : m.bodySchema = ["", "const " ++ m.schema ++ " = z.object(\x7b"] ++
      (entries.map (·.line) ++ ["\x7d);"]) := by
    simp [Module.bodySchema, takes, body, BodyEntry.line]
  obtain ⟨after, text⟩ := textParts m
  refine ⟨unlines ("" :: m.handlerLine :: after), ?_⟩
  rw [text, block]
  simp only [schemaText, unlinesAppend, String.append_assoc]

structure Entered (member : String × Json) (entry : BodyEntry) : Prop where
  key : Written member.1 entry.key
  visible : Visible entry.key
  validator : entry.validator = validatorOf member.2

structure Module.Validates (m : Module) (members : List (String × Json)) (entries : List BodyEntry) :
    Prop where
  stands : ∃ behind, m.text = unlines (m.imports ++ [""] ++ m.comments ++
    ["", "const " ++ m.schema ++ " = z.object(\x7b"]) ++ (schemaText entries ++ behind)
  readBack : ∀ behind, readEntries (schemaText entries ++ behind) = some (members.map declared)
  entered : List.Forall₂ Entered members entries
  distinct : (entries.map (·.key)).Nodup ↔ (members.map (·.1)).Nodup

theorem entriesEntered (members : List (String × Json)) :
    List.Forall₂ Entered members (bodyEntries members) := by
  rw [bodyEntries, List.forall₂_map_right_iff, List.forall₂_same]
  exact fun member _ => ⟨bodyEntryWritten member.1 member.2, keyVisible member.1 member.2,
    bodyEntryValidator member.1 member.2⟩

theorem keysDistinct (members : List (String × Json)) :
    ((bodyEntries members).map (·.key)).Nodup ↔ (members.map (·.1)).Nodup := by
  have texts : (bodyEntries members).map (·.key) =
      (members.map (·.1)).map fun name => (bodyEntry name .null).key := by
    simp [bodyEntries, bodyEntryKey]
  rw [texts]
  exact List.nodup_map_iff fun _ _ => bodyEntryApart

theorem bodyValidated {endpoint : Endpoint} {members : List (String × Json)} (table : Table)
    (takes : endpoint.method = .post ∨ endpoint.method = .put)
    (body : endpoint.body = some members) :
    ∃ entries, (moduleFor endpoint table).body = some entries ∧
      (moduleFor endpoint table).Validates members entries := by
  have entries : (moduleFor endpoint table).body = some (bodyEntries members) := by
    simp [moduleFor, body, bodyEntries]
  have accepts : (moduleFor endpoint table).method.takesBody = true := by
    rcases takes with post | put
    · simp [moduleFor, post, Method.takesBody]
    · simp [moduleFor, put, Method.takesBody]
  exact ⟨bodyEntries members, entries, schemaStands _ accepts entries, schemaRead members,
    entriesEntered members, keysDistinct members⟩

def awkwardBody : List (String × Json) :=
  [("a b", .string " Int ? "), ("a_b", .string "string"), ("", .null), ("\"\n\u2028", .bool true),
    ("1st", .array []), ("$1", .string "nobody")]

def awkwardEndpoint : Endpoint :=
  { path := "/users", method := .put, body := some awkwardBody }

theorem awkwardBodyValidated :
    ∃ entries, (moduleFor awkwardEndpoint { name := "User" }).Validates awkwardBody entries ∧
      (entries.map (·.key)).Nodup := by
  obtain ⟨entries, -, validates⟩ :=
    bodyValidated { name := "User" } (.inr rfl) (rfl : awkwardEndpoint.body = some awkwardBody)
  exact ⟨entries, validates, validates.distinct.mpr (by decide)⟩

end Scaffold.Route
