import Scaffold.Proofs.Route.Spelling

/-!
The route to one record. A handler reads the last parameter of the path as a word, and its route binds
every parameter as the path spells it; so what is read is bound where the last parameter is a word.
-/
namespace Scaffold.Route
open Text

def HasParameter (path name : String) : Prop :=
  ∃ segment ∈ segments path, parameter? segment = some name

inductive LastParameter (path name : String) : Prop where
  | intro {before segment after} (split : segments path = before ++ segment :: after)
      (named : parameter? segment = some name) (last : ∀ other ∈ after, parameter? other = none) :
      LastParameter path name

variable {path name : String}

theorem lastParameterIff :
    ((segments path).filterMap parameter?).getLast? = some name ↔ LastParameter path name := by
  rw [List.getLast?_filterMap, List.findSome?_eq_some_iff]
  constructor
  · rintro ⟨after, segment, before, reversed, named, last⟩
    have split : segments path = before.reverse ++ segment :: after.reverse := by
      simpa using congrArg List.reverse reversed
    exact .intro split named fun other member => last other (List.mem_reverse.mp member)
  · rintro ⟨split, named, last⟩
    have reversed := congrArg List.reverse split
    rw [List.reverse_append, List.reverse_cons, List.append_assoc] at reversed
    exact ⟨_, _, _, reversed, named, by simpa using last⟩

theorem lastUnique {other : String} (last : LastParameter path name)
    (same : LastParameter path other) : other = name :=
  Option.some.inj ((lastParameterIff.mpr same).symm.trans (lastParameterIff.mpr last))

theorem lastIsParameter (last : LastParameter path name) : HasParameter path name := by
  obtain ⟨split, named, -⟩ := last
  exact ⟨_, split ▸ List.mem_append_right _ List.mem_cons_self, named⟩

/- The two ways to a record: a parameter of the path names it, or one is added. -/
theorem recordRouteCases (path : String) :
    (∃ name, LastParameter path name ∧ recordRoute path = ⟨sanitize name, routerPath path⟩) ∨
      ((∀ name, ¬ HasParameter path name) ∧
        recordRoute path = ⟨"id", withoutFinalSlashes (routerPath path) ++ "/:id"⟩) := by
  cases last : ((segments path).filterMap parameter?).getLast? with
  | some name => exact .inl ⟨name, lastParameterIff.mp last, by rw [recordRoute, last]⟩
  | none =>
    have none := List.filterMap_eq_nil_iff.mp (List.getLast?_eq_none_iff.mp last)
    refine .inr ⟨?_, by rw [recordRoute, last]⟩
    rintro name ⟨segment, inside, named⟩
    rw [none segment inside] at named
    contradiction

theorem segmentsAdded (path : String) : segments (path ++ "/:id") = segments path ++ [":id"] := by
  have text : (path ++ "/:id").toList = path.toList ++ '/' :: ":id".toList := by simp
  have alone : splitAt '/' ":id" = [":id"] := splitAtAlone (by simp)
  rw [segments, segments, splitAtBetween text, String.ofList_toList, String.ofList_toList, alone]

/- The parameter that is added to a path is none of its own. -/
theorem recordPathSame {path : String} :
    (recordRoute path).path = path ↔
      Colonised path ∧ ∃ segment ∈ segments path, ∃ name, segment = ":" ++ name := by
  rcases recordRouteCases path with ⟨name, last, route⟩ | ⟨unnamed, route⟩
  · rw [route, routerPathSame]
    refine ⟨fun colonised => ⟨colonised, ?_⟩, And.left⟩
    obtain ⟨segment, inside, found⟩ := lastIsParameter last
    rcases parameterIff.mp found with colon | braced | bracketed
    · exact ⟨segment, inside, name, colon⟩
    · exact absurd braced (colonised segment inside name).1
    · exact absurd bracketed (colonised segment inside name).2
  · rw [route]
    constructor
    · intro (same : withoutFinalSlashes (routerPath path) ++ "/:id" = path)
      have added := segmentsAdded (withoutFinalSlashes (routerPath path))
      rw [same] at added
      have own : HasParameter path "id" := ⟨":id", by simp [added], parameterIff.mpr (.inl rfl)⟩
      exact absurd own (unnamed "id")
    · rintro ⟨-, segment, inside, name, colon⟩
      exact absurd ⟨segment, inside, parameterIff.mpr (.inl colon)⟩ (unnamed name)

theorem sanitizeSame {s : String} : sanitize s = s ↔ IsWord s := by
  constructor
  · intro same
    rw [← same]
    exact isWordIff.mpr fun _ => sanitizeWords
  · intro word
    have kept : (s.toList.map fun c => if isWordChar c then c else '_') = s.toList.map id :=
      List.map_congr_left fun c member => if_pos (isWordIff.mp word c member)
    rw [sanitize, kept, List.map_id, String.ofList_toList]

theorem sanitizeNone {s : String} : sanitize s = "" ↔ s = "" := by
  rw [sanitize, ← String.toList_inj, String.toList_ofList, String.toList_empty, List.map_eq_nil_iff,
    ← String.toList_empty, String.toList_inj]

theorem spelledAs {segment : String} : spelled segment = ":" ++ name ↔ parameter? segment = some name := by
  refine ⟨fun same => ?_, spelledParameter⟩
  cases named : parameter? segment with
  | none =>
    rw [spelled, named] at same
    rw [parameterIff.mpr (.inl same)] at named
    contradiction
  | some other =>
    rw [spelledParameter named, String.append_right_inj] at same
    rw [same]

theorem routerBinds : ":" ++ name ∈ segments (routerPath path) ↔ HasParameter path name := by
  simp only [routerPathSegments, List.mem_map, spelledAs]
  rfl

inductive RecordNamed (path : String) : Prop where
  | added (unnamed : ∀ name, ¬ HasParameter path name)
  | word {name : String} (last : LastParameter path name) (named : name ≠ "") (word : IsWord name)
  | shared {name : String} (last : LastParameter path name) (named : name ≠ "")
      (other : HasParameter path (sanitize name))

structure RecordRoute.Binds (route : RecordRoute) : Prop where
  named : route.parameter ≠ ""
  bound : ":" ++ route.parameter ∈ segments route.path

theorem recordBinds : (recordRoute path).Binds ↔ RecordNamed path := by
  rcases recordRouteCases path with ⟨name, last, route⟩ | ⟨unnamed, route⟩
  · rw [route]
    constructor
    · rintro ⟨named, bound⟩
      exact .shared last (mt sanitizeNone.mpr named) (routerBinds.mp bound)
    · intro record
      cases record with
      | added unnamed => exact absurd (lastIsParameter last) (unnamed name)
      | word same named word =>
        cases lastUnique last same
        rw [sanitizeSame.mpr word]
        exact ⟨named, routerBinds.mpr (lastIsParameter last)⟩
      | shared same named other =>
        cases lastUnique last same
        exact ⟨mt sanitizeNone.mp named, routerBinds.mpr other⟩
  · refine ⟨fun _ => .added unnamed, fun _ => ?_⟩
    rw [route]
    refine ⟨(by decide : "id" ≠ ""), ?_⟩
    rw [segmentsAdded]
    exact List.mem_append_right _ List.mem_cons_self

namespace Module

def readLine (m : Module) : String :=
  "    const id = req.params." ++ m.parameter ++ ";"

def routeLine (m : Module) : String :=
  "  path: " ++ Json.quoted m.route ++ ","

structure Written (m : Module) : Prop where
  reads : contains m.text (m.readLine ++ "\n") = true
  registers : contains m.text (m.routeLine ++ "\n") = true

def addressed (m : Module) : RecordRoute :=
  ⟨m.parameter, m.route⟩

theorem readInAction {m : Module} (record : m.method = .put ∨ m.method = .delete) :
    m.readLine ∈ m.action := by
  unfold action
  rcases record with put | delete
  · rw [put]
    exact List.mem_cons_self
  · rw [delete]
    exact List.mem_cons_self

theorem routeRegistered (m : Module) : contains m.text (m.routeLine ++ "\n") = true :=
  unlinesHolds (by simp [routeLine])

theorem addressedWritten {m : Module} (record : m.method = .put ∨ m.method = .delete) : m.Written :=
  ⟨unlinesHolds (by simp [readInAction record]), routeRegistered m⟩

end Module

theorem addressesIff {method : Method} :
    method.addressesRecord = true ↔ method = .put ∨ method = .delete := by
  cases method <;> simp [Method.addressesRecord]

theorem recordParameterBound {endpoint : Endpoint}
    (record : endpoint.method = .put ∨ endpoint.method = .delete) (table : Table) :
    (moduleFor endpoint table).Written ∧
      ((moduleFor endpoint table).addressed.Binds ↔ RecordNamed endpoint.path) := by
  have route : (moduleFor endpoint table).addressed = recordRoute endpoint.path := by
    simp [moduleFor, Module.addressed, addressesIff.mpr record]
  rw [route]
  exact ⟨Module.addressedWritten record, recordBinds⟩

def updateClient : Endpoint :=
  { path := "/shops/\x7bshop-no\x7d/clients/[clientId]/", method := .put }

theorem updateClientBound : (updateClient.method = .put ∨ updateClient.method = .delete) ∧
    (moduleFor updateClient ⟨"Client", [], []⟩).Written ∧
    (moduleFor updateClient ⟨"Client", [], []⟩).addressed.Binds := by
  have split : segments updateClient.path =
      ["", "shops", "\x7bshop-no\x7d", "clients"] ++ "[clientId]" :: [""] := by decide +kernel
  have last : LastParameter updateClient.path "clientId" := .intro split (by rfl) (by decide)
  have word : IsWord "clientId" := wordOfAll (by decide)
  have whole := @recordParameterBound updateClient (.inl rfl) ⟨"Client", [], []⟩
  exact ⟨.inl rfl, whole.1, whole.2.mpr (.word last (by decide) word)⟩

/- The first parameter is read with an underscore for its hyphen, and the second has no name. -/
theorem recordParameterUnbound :
    ¬ (moduleFor { path := "/users/\x7buser-id\x7d", method := .delete } ⟨"User", [], []⟩).addressed.Binds ∧
    ¬ (moduleFor { path := "/users/:", method := .delete } ⟨"User", [], []⟩).addressed.Binds := by
  refine ⟨fun binds => ?_, fun binds => ?_⟩
  · exact absurd binds.bound (by decide +kernel)
  · exact absurd binds.named (by decide +kernel)

end Scaffold.Route
