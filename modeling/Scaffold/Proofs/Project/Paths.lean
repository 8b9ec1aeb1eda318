import Scaffold.Proofs.Files.Path
import Scaffold.Proofs.Project.Emission
import Scaffold.Proofs.Route.Slug

/-!
The paths of a project are safe below any directory: each names its way downward, and none is on the
way to another.
-/
namespace Scaffold.Project
open Route (slug filePath filePieces slugSome slugFree)
open Text

variable {backend : Backend} {config : Config} {file other : File}

theorem emittedPath (member : file ∈ emitted backend config) :
    (∃ path, file.path = filePath path) ∨ file.path ∈ fixedPaths := by
  have listed := (emittedPaths backend config).mem_iff.mp (List.mem_map.mpr ⟨file, member, rfl⟩)
  rcases List.mem_append.mp listed with route | fixed
  · obtain ⟨endpoint, -, same⟩ := List.mem_map.mp route
    exact .inl ⟨_, same.symm⟩
  · exact .inr fixed

def fixedPieces : List (List String) :=
  [["prisma", "schema.prisma"], ["prisma", "migrations", "initial", "migration.sql"],
    ["src", "routes", "index.ts"], ["src", "middleware", "auth.ts"],
    ["src", "app", "api", "webhook", "clerk", "route.ts"], ["src", "lib", "stripe.ts"],
    ["src", "app", "api", "webhook", "stripe", "route.ts"], ["src", "config", "stripe.ts"],
    ["package.json"], ["README.md"], [".env.example"], ["src", "lib", "prisma.ts"]]

/- Told of the letters, so that no text has to be decoded again. -/
theorem fixedCut : ∀ path ∈ fixedPaths, Path.isAbsolute ⟨path⟩ = false ∧ '\x00' ∉ path.toList ∧
    Path.pieces ⟨path⟩ ∈ fixedPieces := by
  have letters : fixedPaths = List.map String.ofList [_, _, _, _, _, _, _, _, _, _, _, _] := rfl
  rw [letters, List.forall_mem_map]
  simp only [Path.isAbsolute, Path.pieces, splitAt, String.toList_ofList]
  decide

theorem fixedPlain {path : String} (fixed : path ∈ fixedPaths) : Path.Plain ⟨path⟩ := by
  have plain : ∀ pieces ∈ fixedPieces, ∀ piece ∈ pieces, piece ≠ "" ∧ piece ≠ "." ∧ piece ≠ ".." := by
    decide
  exact ⟨(fixedCut path fixed).1, plain _ (fixedCut path fixed).2.2⟩

theorem moduleName (path : String) :
    slug path ++ ".ts" ≠ "" ∧ slug path ++ ".ts" ≠ "." ∧ slug path ++ ".ts" ≠ ".." := by
  have long : 3 < (slug path ++ ".ts").length := by
    have some := slugSome path
    rw [String.length_append]
    have : (slug path).length ≠ 0 := by simpa [String.length_eq_zero_iff] using some
    have : ".ts".length = 3 := by decide
    omega
  refine ⟨?_, ?_, ?_⟩ <;> intro same <;> rw [same] at long <;> revert long <;> decide

theorem emittedPlain (member : file ∈ emitted backend config) : Path.Plain ⟨file.path⟩ := by
  rcases emittedPath member with ⟨path, route⟩ | fixed
  · rw [route]
    refine ⟨?_, ?_⟩
    · simp [Path.isAbsolute, filePath]
    · simp only [filePieces, List.mem_cons, List.not_mem_nil, or_false]
      rintro piece (rfl | rfl | rfl)
      · decide
      · decide
      · exact moduleName path
  · exact fixedPlain fixed

theorem emittedWhole (member : file ∈ emitted backend config) : '\x00' ∉ file.path.toList := by
  rcases emittedPath member with ⟨path, route⟩ | fixed
  · rw [route]
    simp [filePath, slugFree path (by decide : Route.isWordChar '\x00' = false)]
  · exact (fixedCut _ fixed).2.1

def homes : List (List String) :=
  [[], ["prisma"], ["prisma", "migrations", "initial"], ["src", "routes"], ["src", "middleware"],
    ["src", "lib"], ["src", "config"], ["src", "app", "api", "webhook", "clerk"],
    ["src", "app", "api", "webhook", "stripe"]]

theorem fixedHomes : ∀ path ∈ fixedPaths, (Path.pieces ⟨path⟩).dropLast ∈ homes ∧
    ∀ home ∈ homes, ¬ Path.pieces ⟨path⟩ <+: home := by
  have placed : ∀ pieces ∈ fixedPieces, pieces.dropLast ∈ homes ∧
      ∀ home ∈ homes, ¬ pieces <+: home := by decide
  exact fun path fixed => placed _ (fixedCut path fixed).2.2

theorem emittedHome (member : file ∈ emitted backend config) :
    (Path.pieces ⟨file.path⟩).dropLast ∈ homes := by
  rcases emittedPath member with ⟨path, route⟩ | fixed
  · have inRoutes : ["src", "routes"] ∈ homes := by decide
    rw [route, filePieces]
    exact inRoutes
  · exact (fixedHomes _ fixed).1

theorem emittedNoHome (member : file ∈ emitted backend config) {home : List String}
    (known : home ∈ homes) : ¬ Path.pieces ⟨file.path⟩ <+: home := by
  rcases emittedPath member with ⟨path, route⟩ | fixed
  · rw [route, filePieces]
    revert home
    simp [homes, List.prefix_cons_iff]
  · exact (fixedHomes _ fixed).2 home known

/- A path that begins another one is the whole of it, or ends in the directory that the other is in. -/
theorem emittedApart (left : file ∈ emitted backend config) (right : other ∈ emitted backend config)
    (begins : Path.pieces ⟨file.path⟩ <+: Path.pieces ⟨other.path⟩) : file.path = other.path := by
  have cut : Path.pieces ⟨other.path⟩ = (Path.pieces ⟨other.path⟩).dropLast ++
      [(Path.pieces ⟨other.path⟩).getLast (splitAtSome _ _)] :=
    (List.dropLast_append_getLast _).symm
  rw [cut] at begins
  rcases List.prefix_concat_iff.mp begins with whole | within
  · exact congrArg Path.text (Path.piecesInjective (whole.trans cut.symm))
  · exact absurd within (emittedNoHome left (emittedHome right))

end Scaffold.Project
