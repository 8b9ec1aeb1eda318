import Scaffold.Proofs.Run.Writing

/-!
Where a file goes below a root. The pieces of its path are taken one by one, the first step back ends it,
and a place that is still the root is refused; what is left is the root with the named pieces behind it.
-/
namespace Scaffold
open Text

namespace Path

def startsHere (path : Path) : Bool :=
  path.pieces.head? == some "."

/- Paths with the same components. -/
structure Same (left right : Path) : Prop where
  absolute : left.isAbsolute = right.isAbsolute
  here : left.startsHere = right.startsHere
  segments : left.segments = right.segments

theorem sameIff {left right : Path} : left.Same right ↔ left.isAbsolute = right.isAbsolute ∧
    left.startsHere = right.startsHere ∧ left.segments = right.segments :=
  ⟨fun same => ⟨same.absolute, same.here, same.segments⟩, fun ⟨absolute, here, segments⟩ =>
    ⟨absolute, here, segments⟩⟩

instance (left right : Path) : Decidable (left.Same right) :=
  decidable_of_iff _ sameIff.symm

/- The components of the root, and these names behind them. -/
structure Extends (path root : Path) (names : List String) : Prop where
  absolute : path.isAbsolute = root.isAbsolute
  here : path.startsHere = root.startsHere
  segments : path.segments = root.segments ++ names
  text : path.text = root.lead ++ String.intercalate "/" names

variable {path root : Path} {name : String} {names : List String}

theorem headOfStem (other : name ≠ ".") :
    (path.stem ++ [name]).head? = some "." ↔ path.pieces.head? = some "." := by
  unfold stem
  by_cases empty : path.text.isEmpty = true
  · have pieces : path.pieces = [""] := by
      rw [Path.pieces, String.isEmpty_iff.mp empty]
      rfl
    rw [if_pos empty, pieces]
    simp [other]
  · rw [if_neg empty]
    split
    · rename_i slash
      obtain ⟨front, text⟩ := endsInSlashIff.mp slash
      have pieces : path.pieces = splitAt '/' (String.ofList front) ++ [""] := splitAtBetween text
      rw [pieces, List.dropLast_concat, List.head?_append_of_ne_nil _ (splitAtSome _ _),
        List.head?_append_of_ne_nil _ (splitAtSome _ _)]
    · have filled : path.pieces ≠ [] := splitAtSome _ _
      rw [List.head?_append_of_ne_nil _ filled]

theorem pushStartsHere (segment : IsSegment name) : (path.push name).startsHere = path.startsHere := by
  rw [Bool.eq_iff_iff, startsHere, startsHere, beq_iff_eq, beq_iff_eq, pushPieces segment.whole]
  exact headOfStem segment.other

theorem pushAllStartsHere (segments : ∀ name ∈ names, IsSegment name) :
    (path.pushAll names).startsHere = path.startsHere := by
  induction names generalizing path with
  | nil => rfl
  | cons name names ih =>
    obtain ⟨first, rest⟩ := List.forall_mem_cons.mp segments
    rw [pushAll, List.foldl_cons, ← pushAll, ih rest, pushStartsHere first]

theorem pushAllExtends (some : names ≠ []) (segments : ∀ name ∈ names, IsSegment name) :
    (root.pushAll names).Extends root names :=
  ⟨pushAllAbsolute segments, pushAllStartsHere segments, pushAllSegments segments,
    pushAllText some segments⟩

theorem extendsSame {other : Path} {others : List String} (left : path.Extends root names)
    (right : other.Extends root others) : other.Same path ↔ others = names := by
  constructor
  · intro same
    have segments := same.segments
    rw [left.segments, right.segments] at segments
    exact List.append_cancel_left segments
  · rintro rfl
    exact ⟨right.absolute.trans left.absolute.symm, right.here.trans left.here.symm,
      right.segments.trans left.segments.symm⟩

theorem pushAllRoot (segments : ∀ name ∈ names, IsSegment name) :
    (root.pushAll names).Same root ↔ names = [] := by
  constructor
  · intro same
    have kept := same.segments
    rw [pushAllSegments segments] at kept
    simpa using kept
  · rintro rfl
    exact ⟨rfl, rfl, rfl⟩

end Path

/- Piece by piece: idle ones are passed over, a step back ends it. -/
def alongPieces (relative : String) (path : Path) : List String → Except Refusal Path
  | [] => .ok path
  | piece :: rest =>
    if Path.isIdle piece then alongPieces relative path rest
    else if piece == ".." then .error (.leavesRoot relative)
    else alongPieces relative (path.push piece) rest

def targetInTurn (root : Path) (relative : String) : Except Refusal Path := do
  let path ← alongPieces relative root (splitAt '/' relative)
  if path.Same root then .error .empty else .ok path

def namedPieces (relative : String) : List String :=
  (splitAt '/' relative).filter fun piece => piece ≠ "" ∧ piece ≠ "."

structure Targeted (root : Path) (relative : String) : Prop where
  inTurn : target root relative = targetInTurn root relative
  accepted : (∃ path, target root relative = .ok path) ↔
    ".." ∉ splitAt '/' relative ∧ ∃ piece ∈ splitAt '/' relative, piece ≠ "" ∧ piece ≠ "."
  refused : ∀ refusal, target root relative = .error refusal ↔
    ".." ∈ splitAt '/' relative ∧ refusal = .leavesRoot relative ∨
      (∀ piece ∈ splitAt '/' relative, piece = "" ∨ piece = ".") ∧ refusal = .empty
  extended : ∀ path, target root relative = .ok path →
    path.Extends root (namedPieces relative)
  below : ∀ path, target root relative = .ok path → ∀ current,
    root.destination current <:+ path.destination current ∧
      path.destination current ≠ root.destination current
  apart : ∀ other left right, target root relative = .ok left → target root other = .ok right →
    (right.Same left ↔ namedPieces other = namedPieces relative) ∧
      (right = left ↔ namedPieces other = namedPieces relative)

variable {root path : Path} {relative : String}

theorem alongPiecesEnds (relative : String) (path : Path) (pieces : List String) :
    alongPieces relative path pieces =
      if ".." ∈ pieces then .error (.leavesRoot relative)
      else .ok (path.pushAll (pieces.filter (!Path.isIdle ·))) := by
  induction pieces generalizing path with
  | nil => rfl
  | cons piece rest ih =>
    rw [alongPieces]
    by_cases idle : Path.isIdle piece = true
    · have other : piece ≠ ".." := by
        rintro rfl
        contradiction
      simp [idle, ih, Ne.symm other]
    · by_cases back : piece = ".."
      · subst back
        simp [idle]
      · simp [idle, back, ih, Ne.symm back, Path.pushAll]

theorem backInSegments : ".." ∈ Path.segments ⟨relative⟩ ↔ ".." ∈ splitAt '/' relative := by
  rw [Path.segments, List.mem_filter]
  exact and_iff_left rfl

theorem targetCases (root : Path) (relative : String) : target root relative =
    if ".." ∈ splitAt '/' relative then .error (.leavesRoot relative)
    else if Path.segments ⟨relative⟩ = [] then .error .empty
    else .ok (root.pushAll (Path.segments ⟨relative⟩)) := by
  unfold target
  simp only [List.contains_iff_mem, backInSegments, List.isEmpty_iff]
  rfl

theorem targetTaken (root : Path) (relative : String) :
    target root relative = targetInTurn root relative := by
  rw [targetCases, targetInTurn, alongPiecesEnds]
  split
  · rfl
  · have unmoved : (root.pushAll (Path.segments ⟨relative⟩)).Same root ↔ Path.segments ⟨relative⟩ = [] :=
      Path.pushAllRoot namesSegments
    simp only [← unmoved]
    rfl

theorem segmentsNamed (relative : String) : Path.segments ⟨relative⟩ = namedPieces relative := by
  refine List.filter_congr fun piece _ => ?_
  rw [Bool.eq_iff_iff, Bool.not_eq_true', Bool.eq_false_iff, Ne, Path.idleIff]
  simp

theorem namedNone : namedPieces relative = [] ↔ ∀ piece ∈ splitAt '/' relative, piece = "" ∨ piece = "." := by
  rw [namedPieces, List.filter_eq_nil_iff]
  refine forall₂_congr fun piece _ => ?_
  simp only [decide_eq_true_eq]
  tauto

theorem aimsExtends (aims : Aims root relative path) : path.Extends root (Path.segments ⟨relative⟩) := by
  rw [aims.joined]
  exact Path.pushAllExtends aims.some namesSegments

theorem aimsBelow (aims : Aims root relative path) (current : Location) :
    root.destination current <:+ path.destination current ∧
      path.destination current ≠ root.destination current := by
  rw [aimsDestination aims]
  refine ⟨List.suffix_append _ _, fun same => aims.some ?_⟩
  simpa using same

theorem backNamed : ".." ∈ namedPieces relative ↔ ".." ∈ splitAt '/' relative := by
  rw [← segmentsNamed, backInSegments]

theorem targetAccepts : (∃ path, target root relative = .ok path) ↔
    ".." ∉ splitAt '/' relative ∧ namedPieces relative ≠ [] := by
  simp only [targetIff, ← segmentsNamed, ← backInSegments]
  exact ⟨fun ⟨_, aims⟩ => ⟨aims.below, aims.some⟩, fun ⟨below, filled⟩ => ⟨_, below, filled, rfl⟩⟩

theorem targetRefuses {refusal : Refusal} : target root relative = .error refusal ↔
    ".." ∈ splitAt '/' relative ∧ refusal = .leavesRoot relative ∨
      namedPieces relative = [] ∧ refusal = .empty := by
  rw [targetCases, segmentsNamed]
  by_cases back : ".." ∈ splitAt '/' relative
  · have some : namedPieces relative ≠ [] := List.ne_nil_of_mem (backNamed.mpr back)
    simp [back, some, eq_comm]
  · by_cases none : namedPieces relative = []
    · simp [back, none, eq_comm]
    · simp [back, none]

theorem targetExact (root : Path) (relative : String) : Targeted root relative where
  inTurn := targetTaken root relative
  accepted := by
    rw [targetAccepts, Ne, namedNone]
    push Not
    rfl
  refused refusal := by rw [targetRefuses, namedNone]
  extended path goal := by
    rw [← segmentsNamed]
    exact aimsExtends (targetIff.mp goal)
  below path goal current := aimsBelow (targetIff.mp goal) current
  apart other left right leftGoal rightGoal := by
    have leftAims := targetIff.mp leftGoal
    have rightAims := targetIff.mp rightGoal
    have same : right.Same left ↔ namedPieces other = namedPieces relative := by
      rw [← segmentsNamed, ← segmentsNamed]
      exact Path.extendsSame (aimsExtends leftAims) (aimsExtends rightAims)
    refine ⟨same, fun equal => same.mp (equal ▸ ⟨rfl, rfl, rfl⟩), fun equal => ?_⟩
    rw [leftAims.joined, rightAims.joined, segmentsNamed, segmentsNamed, equal]

end Scaffold
