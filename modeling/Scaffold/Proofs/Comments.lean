import Scaffold.Auth
import Scaffold.Proofs.Route.Imports
import Scaffold.Proofs.Text.Blank

/-!
The comments that repeat words of the document: the heading of a route module, and the sign-in
providers of the middleware. A comment ends at the first line terminator, and what follows is code.
-/
namespace Scaffold
open Text
open Route (Module moduleFor oneLine)
open Auth (Middleware ProviderNote middleware providerNote)

def terminators : List Char :=
  ['\n', '\r', '\u2028', '\u2029']

def Unbroken (s : String) : Prop :=
  ∀ c ∈ terminators, c ∉ s.toList

instance (s : String) : Decidable (Unbroken s) :=
  List.decidableBAll (· ∉ s.toList) terminators

def IsComment (line : String) : Prop :=
  ∃ words, line = "//" ++ words ∧ Unbroken words

def BrokenInside (description : String) : Prop :=
  ∃ line ∈ splitAt '\n' description, ∃ c ∈ terminators, Between c line.toList

theorem terminatorBlank {c : Char} (ends : c ∈ terminators) : isBlank c = true :=
  List.all_eq_true.mp (by decide : terminators.all isBlank = true) c ends

theorem terminatorNotSpace {c : Char} (ends : c ∈ terminators) : c ≠ ' ' := by
  rintro rfl
  exact absurd ends (by decide)

theorem unbrokenAppend {s t : String} : Unbroken (s ++ t) ↔ Unbroken s ∧ Unbroken t := by
  simp only [Unbroken, String.toList_append, List.mem_append, not_or]
  exact ⟨fun both => ⟨fun c ends => (both c ends).1, fun c ends => (both c ends).2⟩,
    fun both c ends => ⟨both.1 c ends, both.2 c ends⟩⟩

theorem commentIff {words : String} : IsComment ("//" ++ words) ↔ Unbroken words := by
  constructor
  · rintro ⟨others, same, unbroken⟩
    rwa [← (String.append_right_inj "//").mp same] at unbroken
  · exact fun unbroken => ⟨words, rfl, unbroken⟩

namespace Route

variable {description : String} {c : Char}

theorem oneLineHolds (blank : isBlank c = true) (wide : c ≠ ' ') :
    c ∈ (oneLine description).toList ↔
      ∃ line ∈ splitAt '\n' description, Between c line.toList := by
  constructor
  · intro member
    obtain ⟨word, inside, found⟩ := (memIntercalate ' ' member).resolve_left wide
    obtain ⟨line, cut, rfl⟩ := List.mem_map.mp (List.mem_filter.mp inside).1
    rw [trim, String.toList_ofList] at found
    exact ⟨line, cut, betweenOfTrimmed blank found⟩
  · rintro ⟨line, cut, between⟩
    have found : c ∈ (trim line).toList := by
      rw [trim, String.toList_ofList]
      exact trimCharsBetween between
    refine intercalateHolds " " (List.mem_filter.mpr ⟨List.mem_map_of_mem cut, ?_⟩) found
    simp [← String.toList_inj, List.ne_nil_of_mem found]

theorem oneLineUnbroken : Unbroken (oneLine description) ↔ ¬ BrokenInside description := by
  constructor
  · rintro unbroken ⟨line, cut, c, ends, between⟩
    exact unbroken c ends
      ((oneLineHolds (terminatorBlank ends) (terminatorNotSpace ends)).mpr ⟨line, cut, between⟩)
  · intro whole c ends member
    obtain ⟨line, cut, between⟩ :=
      (oneLineHolds (terminatorBlank ends) (terminatorNotSpace ends)).mp member
    exact whole ⟨line, cut, c, ends, between⟩

theorem headingCommented (endpoint : Endpoint) (table : Table) :
    (∀ line ∈ (moduleFor endpoint table).comments, IsComment line) ↔
      Unbroken endpoint.path ∧ ¬ BrokenInside endpoint.description := by
  have first : IsComment ("// " ++ endpoint.method.name ++ " " ++ endpoint.path) ↔
      Unbroken endpoint.path := by
    have named : Unbroken (" " ++ endpoint.method.name ++ " ") := by
      cases endpoint.method <;> decide
    rw [show "// " = "//" ++ " " by decide, String.append_assoc, String.append_assoc,
      String.append_assoc, commentIff, ← String.append_assoc, ← String.append_assoc, unbrokenAppend]
    exact and_iff_right named
  have second : IsComment ("// " ++ oneLine endpoint.description) ↔
      Unbroken (oneLine endpoint.description) := by
    rw [show "// " = "//" ++ " " by decide, String.append_assoc, commentIff, unbrokenAppend]
    exact and_iff_right (by decide)
  rw [← oneLineUnbroken, Module.comments]
  by_cases none : oneLine endpoint.description = ""
  · have silent : Unbroken "" := by decide
    simp [moduleFor, none, first, silent]
  · simp [moduleFor, none, first, second]

theorem headingStands (m : Module) :
    ∃ before after, m.text = unlines (before ++ m.comments ++ after) := by
  obtain ⟨after, text⟩ := textParts m
  rw [List.append_assoc (_ ++ m.comments)] at text
  exact ⟨_, _, text⟩

end Route

namespace Auth

def Middleware.notes (m : Middleware) : List String :=
  if m.providers.isEmpty then ["//   (none declared)"] else m.providers.map (·.text)

theorem noteCommented (provider : Provider) :
    IsComment (providerNote provider).text ↔
      Unbroken provider.name ∧ Unbroken provider.kind := by
  have kind : Unbroken (providerNote provider).kind ↔ Unbroken provider.kind := by
    rw [providerNote]
    split
    · rename_i none
      rw [String.isEmpty_iff.mp none]
      have plain : Unbroken "unspecified" ↔ Unbroken "" := by decide
      exact plain
    · rfl
  have cut : (providerNote provider).text =
      "//" ++ ("   - " ++ provider.name ++ (" (" ++ (providerNote provider).kind ++ ")")) := by
    rw [ProviderNote.text, show "//   - " = "//" ++ "   - " by decide]
    simp only [String.append_assoc]
    rfl
  rw [cut, commentIff, unbrokenAppend, unbrokenAppend, unbrokenAppend, unbrokenAppend, kind]
  constructor
  · rintro ⟨⟨-, name⟩, ⟨-, kind⟩, -⟩
    exact ⟨name, kind⟩
  · rintro ⟨name, kind⟩
    exact ⟨⟨by decide, name⟩, ⟨by decide, kind⟩, by decide⟩

theorem notesCommented (auth : Auth) (endpoints : List Endpoint) :
    (∀ line ∈ (middleware auth endpoints).notes, IsComment line) ↔
      ∀ provider ∈ auth.providers, Unbroken provider.name ∧ Unbroken provider.kind := by
  rw [Middleware.notes]
  by_cases none : auth.providers = []
  · have silent : IsComment "//   (none declared)" :=
      ⟨"   (none declared)", by decide, by decide⟩
    simp [middleware, none, silent]
  · simp [middleware, none, noteCommented]

theorem notesStand (m : Middleware) :
    ∃ before after, m.text = unlines (before ++ m.notes ++ after) :=
  ⟨_, _, by simp only [Middleware.text, List.append_assoc]; rfl⟩

end Auth

/-- Where the comments stand, and which texts of the document keep them comments. -/
structure Remarked (endpoint : Endpoint) (table : Table) (auth : Auth) (endpoints : List Endpoint) :
    Prop where
  headingStands : ∃ before after, (moduleFor endpoint table).text = String.join
    ((before ++ (moduleFor endpoint table).comments ++ after).map (· ++ "\n"))
  heading : (∀ line ∈ (moduleFor endpoint table).comments, IsComment line) ↔
    Unbroken endpoint.path ∧ ¬ BrokenInside endpoint.description
  notesStand : ∃ before after, (middleware auth endpoints).text = String.join
    ((before ++ (middleware auth endpoints).notes ++ after).map (· ++ "\n"))
  notes : (∀ line ∈ (middleware auth endpoints).notes, IsComment line) ↔
    ∀ provider ∈ auth.providers, Unbroken provider.name ∧ Unbroken provider.kind

theorem documentRemarked (endpoint : Endpoint) (table : Table) (auth : Auth)
    (endpoints : List Endpoint) : Remarked endpoint table auth endpoints where
  headingStands := Route.headingStands _
  heading := Route.headingCommented endpoint table
  notesStand := Auth.notesStand _
  notes := Auth.notesCommented auth endpoints

theorem commentsEscaped :
    (¬ ∀ line ∈ (moduleFor
        { path := "/users", method := .get, description := "List users.\rdropAll();" }
        { name := "User" }).comments, IsComment line) ∧
      (¬ ∀ line ∈ (moduleFor { path := "/users\ndropAll();", method := .get }
        { name := "User" }).comments, IsComment line) ∧
      ¬ ∀ line ∈ (middleware { providers := [{ name := "google\ndropAll();" }] } []).notes,
        IsComment line := by
  refine ⟨fun heading => ?_, fun heading => ?_, fun notes => ?_⟩
  · refine ((Route.headingCommented _ _).mp heading).2
      ⟨"List users.\rdropAll();", by decide, '\r', by decide, "List users.".toList,
        "dropAll();".toList, by decide, ⟨'L', by decide, by decide⟩, 'd', by decide, by decide⟩
  · exact absurd ((Route.headingCommented _ _).mp heading).1 (by decide)
  · exact absurd ((Auth.notesCommented _ _).mp notes _ List.mem_cons_self).1 (by decide)

end Scaffold
