import Mathlib.Data.List.Forall2
import Scaffold.Proofs.Route.Record

/-!
Paths that are spelled differently and give one module: its name is made of the segments that are not
empty, and of a parameter the marks do not count. The router's spelling of a path and the name of its
module are normal forms: formed again, each stays as it is.
-/
namespace Scaffold.Route
open Text

inductive Spelling (name : String) : String → Prop where
  | colon : Spelling name (":" ++ name)
  | braces : Spelling name ("\x7b" ++ name ++ "\x7d")
  | brackets : Spelling name ("[" ++ name ++ "]")

inductive Alike : String → String → Prop where
  | same (segment : String) : Alike segment segment
  | parameter {name left right : String} (first : Spelling name left) (second : Spelling name right) :
      Alike left right

def filled (path : String) : List String :=
  (segments path).filter (!·.isEmpty)

def segmentName (segment : String) : String :=
  sanitize ((parameter? segment).getD segment)

variable {path other segment left right name : String}

theorem spellingIff : Spelling name segment ↔ parameter? segment = some name := by
  rw [parameterIff]
  constructor
  · intro spelling
    cases spelling <;> simp
  · intro text
    rcases text with text | text | text
    · exact text ▸ .colon
    · exact text ▸ .braces
    · exact text ▸ .brackets

theorem spellingSome (spelling : Spelling name segment) : segment.isEmpty = false := by
  cases spelling <;> simp [← String.toList_inj]

theorem spelledAlike (segment : String) : Alike segment (spelled segment) := by
  cases named : parameter? segment with
  | none =>
    rw [spelled, named]
    exact .same segment
  | some name =>
    rw [spelledParameter named]
    exact .parameter (spellingIff.mpr named) .colon

theorem alikeEmpty (alike : Alike left right) : left.isEmpty = right.isEmpty := by
  cases alike with
  | same => rfl
  | parameter first second => rw [spellingSome first, spellingSome second]

theorem alikeName (alike : Alike left right) : segmentName left = segmentName right := by
  cases alike with
  | same => rfl
  | parameter first second => simp [segmentName, spellingIff.mp first, spellingIff.mp second]

theorem alikeSpelled (alike : Alike left right) : spelled left = spelled right := by
  cases alike with
  | same => rfl
  | parameter first second =>
    rw [spelledParameter (spellingIff.mp first), spelledParameter (spellingIff.mp second)]

theorem filledNames {lefts rights : List String} (alike : List.Forall₂ Alike lefts rights) :
    (lefts.filter (!·.isEmpty)).map segmentName = (rights.filter (!·.isEmpty)).map segmentName := by
  induction alike with
  | nil => rfl
  | cons head tail ih => simp [List.filter_cons, alikeEmpty head, apply_ite, alikeName head, ih]

theorem slugNames (names : (filled path).map segmentName = (filled other).map segmentName) :
    slug path = slug other := by
  have joined : ∀ path, slug path =
      if (String.intercalate "_" ((filled path).map segmentName)).isEmpty then "root"
      else String.intercalate "_" ((filled path).map segmentName) := fun _ => rfl
  rw [joined, joined, names]

theorem slugAlike (alike : List.Forall₂ Alike (segments path) (segments other)) :
    slug path = slug other :=
  slugNames (filledNames alike)

theorem spelledAll {lefts rights : List String} (alike : List.Forall₂ Alike lefts rights) :
    lefts.map spelled = rights.map spelled := by
  induction alike with
  | nil => rfl
  | cons head tail ih => rw [List.map_cons, List.map_cons, alikeSpelled head, ih]

theorem routerPathAlike (alike : List.Forall₂ Alike (segments path) (segments other)) :
    routerPath path = routerPath other :=
  congrArg (String.intercalate "/") (spelledAll alike)

theorem routerPathLike (path : String) :
    List.Forall₂ Alike (segments path) (segments (routerPath path)) := by
  rw [routerPathSegments, List.forall₂_map_right_iff, List.forall₂_same]
  exact fun segment _ => spelledAlike segment

theorem routerPathAgain (path : String) : routerPath (routerPath path) = routerPath path :=
  (routerPathAlike (routerPathLike path)).symm

/- Every law about slashes follows from this one. -/
theorem filledSlash (front back : String) :
    filled (front ++ "/" ++ back) = filled front ++ filled back := by
  have text : (front ++ "/" ++ back).toList = front.toList ++ '/' :: back.toList := by simp
  rw [filled, segments, splitAtBetween text, List.filter_append, String.ofList_toList,
    String.ofList_toList]
  rfl

theorem filledNone : filled "" = [] := by
  decide +kernel

theorem slugFilled (same : filled path = filled other) : slug path = slug other :=
  slugNames (congrArg _ same)

theorem parameterWord (word : IsWord segment) : parameter? segment = none := by
  have marks : ':' ∉ segment.toList ∧ '\x7b' ∉ segment.toList ∧ '[' ∉ segment.toList :=
    ⟨wordFree word (by decide), wordFree word (by decide), wordFree word (by decide)⟩
  cases named : parameter? segment with
  | none => rfl
  | some name => cases spellingIff.mpr named <;> simp at marks

theorem slugSame : slug path = path ↔ IsWord path ∧ path ≠ "" := by
  constructor
  · intro same
    rw [← same]
    exact ⟨slugWord path, slugSome path⟩
  · intro both
    obtain ⟨word, some⟩ := both
    have alone : segments path = [path] := splitAtAlone (wordFree word (by decide))
    simp [slug, alone, some, parameterWord word, sanitizeSame.mpr word]

/-- The laws of the two normal forms of a path. -/
structure Normalises (path : String) : Prop where
  routed : Colonised (routerPath path)
  routedAgain : routerPath (routerPath path) = routerPath path
  named : IsWord (slug path) ∧ slug path ≠ ""
  namedAgain : slug (slug path) = slug path
  namedRouted : slug (routerPath path) = slug path
  spellings : ∀ other, List.Forall₂ Alike (segments path) (segments other) →
    slug other = slug path ∧ routerPath other = routerPath path
  filledSame : ∀ other, filled other = filled path → slug other = slug path
  leading : slug ("/" ++ path) = slug path
  trailing : slug (path ++ "/") = slug path
  doubled : ∀ front back, path = front ++ "/" ++ back → slug (front ++ "//" ++ back) = slug path

theorem pathNormalises (path : String) : Normalises path where
  routed := routerPathSame.mp (routerPathAgain path)
  routedAgain := routerPathAgain path
  named := ⟨slugWord path, slugSome path⟩
  namedAgain := slugSame.mpr ⟨slugWord path, slugSome path⟩
  namedRouted := (slugAlike (routerPathLike path)).symm
  spellings _ alike := ⟨(slugAlike alike).symm, (routerPathAlike alike).symm⟩
  filledSame _ same := slugFilled same
  leading := by
    have added := filledSlash "" path
    rw [String.empty_append, filledNone, List.nil_append] at added
    exact slugFilled added
  trailing := by
    have added := filledSlash path ""
    rw [String.append_empty, filledNone, List.append_nil] at added
    exact slugFilled added
  doubled front back parts := by
    have text : front ++ "//" ++ back = front ++ "/" ++ "" ++ "/" ++ back := by
      simp [← String.toList_inj]
    refine slugFilled ?_
    rw [text, parts, filledSlash, filledSlash, filledSlash, filledNone, List.append_nil]

example : slug "//shops/\x7bshop\x7d//[id]/" = slug "shops/:shop/:id" := by decide +kernel

end Scaffold.Route
