import Scaffold.Files.Path
import Scaffold.Proofs.Text.Split

/-!
Paths by their segments: what a pushed name and the step to the parent do to them, whatever idle
pieces the text holds.
-/
namespace Scaffold.Path
open Text

structure IsSegment (piece : String) : Prop where
  some : piece ≠ ""
  other : piece ≠ "."
  whole : '/' ∉ piece.toList

theorem idleIff {piece : String} : isIdle piece = true ↔ piece = "" ∨ piece = "." := by
  simp [isIdle]

theorem segmentActive {piece : String} (segment : IsSegment piece) : isIdle piece = false := by
  rw [Bool.eq_false_iff, Ne, idleIff]
  exact fun idle => idle.elim segment.some segment.other

theorem memSegments {path : Path} {piece : String} :
    piece ∈ path.segments ↔ piece ∈ path.pieces ∧ IsSegment piece := by
  rw [segments, List.mem_filter, Bool.not_eq_true']
  refine and_congr_right fun member => ⟨fun active => ⟨?_, ?_, splitAtFree member⟩, segmentActive⟩
  · rintro rfl
    contradiction
  · rintro rfl
    contradiction

theorem joinPieces (path : Path) : String.intercalate "/" path.pieces = path.text :=
  joinSplitAt '/' path.text

theorem piecesOfJoin {pieces : List String} (some : pieces ≠ [])
    (free : ∀ piece ∈ pieces, '/' ∉ piece.toList) :
    Path.pieces ⟨String.intercalate "/" pieces⟩ = pieces :=
  splitAtJoin some free

def lead (path : Path) : String :=
  if path.text.isEmpty || path.endsInSlash then path.text else path.text ++ "/"

def stem (path : Path) : List String :=
  if path.text.isEmpty then [] else if path.endsInSlash then path.pieces.dropLast else path.pieces

theorem pushText (path : Path) (name : String) : path.push name = ⟨path.lead ++ name⟩ := by
  unfold push lead
  split <;> rfl

theorem endsInSlashIff {path : Path} :
    path.endsInSlash = true ↔ ∃ front, path.text.toList = front ++ ['/'] := by
  rw [endsInSlash, beq_iff_eq, List.getLast?_eq_some_iff]

theorem leadPieces (path : Path) (rest : String) :
    splitAt '/' (path.lead ++ rest) = path.stem ++ splitAt '/' rest := by
  unfold lead stem
  by_cases empty : path.text.isEmpty = true
  · rw [if_pos (by simp [empty]), if_pos empty, String.isEmpty_iff.mp empty, String.empty_append,
      List.nil_append]
  · by_cases slash : path.endsInSlash = true
    · obtain ⟨front, text⟩ := endsInSlashIff.mp slash
      have whole : (path.text ++ rest).toList = front ++ '/' :: rest.toList := by simp [text]
      have pieces : path.pieces = splitAt '/' (String.ofList front) ++ [""] :=
        splitAtBetween text
      rw [if_pos (by simp [slash]), if_neg empty, if_pos slash, splitAtBetween whole, pieces,
        List.dropLast_concat, String.ofList_toList]
    · have whole : (path.text ++ "/" ++ rest).toList = path.text.toList ++ '/' :: rest.toList := by
        simp
      rw [if_neg (by simp [empty, slash]), if_neg empty, if_neg slash, splitAtBetween whole,
        String.ofList_toList, String.ofList_toList]
      rfl

theorem stemSegments (path : Path) : path.stem.filter (!isIdle ·) = path.segments := by
  unfold stem segments
  by_cases empty : path.text.isEmpty = true
  · rw [if_pos empty, pieces, String.isEmpty_iff.mp empty]
    rfl
  · rw [if_neg empty]
    split
    · rename_i slash
      obtain ⟨front, text⟩ := endsInSlashIff.mp slash
      have pieces : path.pieces = splitAt '/' (String.ofList front) ++ [""] :=
        splitAtBetween text
      rw [pieces, List.dropLast_concat, List.filter_append]
      simp [isIdle]
    · rfl

variable {path : Path} {name : String}

theorem pushPieces (whole : '/' ∉ name.toList) : (path.push name).pieces = path.stem ++ [name] := by
  rw [pushText, pieces, leadPieces, splitAtAlone whole]

theorem pushSegments (segment : IsSegment name) :
    (path.push name).segments = path.segments ++ [name] := by
  rw [segments, pushPieces segment.whole, List.filter_append, stemSegments]
  simp [segmentActive segment]

theorem pushEndsActive (segment : IsSegment name) : (path.push name).endsIdle = false := by
  rw [endsIdle, pushPieces segment.whole, List.getLast?_concat, Option.any_some,
    segmentActive segment]

theorem endsInSlashIdle (slash : path.endsInSlash = true) : path.endsIdle = true := by
  obtain ⟨front, text⟩ := endsInSlashIff.mp slash
  have pieces : path.pieces = splitAt '/' (String.ofList front) ++ [""] := splitAtBetween text
  rw [endsIdle, pieces, List.getLast?_concat]
  rfl

theorem pushEndsOpen (segment : IsSegment name) : (path.push name).endsInSlash = false := by
  rw [Bool.eq_false_iff]
  intro slash
  have idle := endsInSlashIdle slash
  rw [pushEndsActive segment] at idle
  contradiction

theorem absoluteIff : path.isAbsolute = true ↔ ∃ rest, rest ≠ [] ∧ path.pieces = "" :: rest := by
  rw [isAbsolute, beq_iff_eq, pieces]
  cases text : path.text.toList with
  | nil =>
    have alone : splitAt '/' path.text = [""] := by simp [splitAt, text]
    simp [alone]
  | cons c cs =>
    by_cases slash : c = '/'
    · subst slash
      have opening : path.text.toList = [] ++ '/' :: cs := text
      have split : splitAt '/' path.text = "" :: splitAt '/' (String.ofList cs) :=
        splitAtBetween opening
      exact iff_of_true rfl ⟨_, splitAtSome _ _, split⟩
    · simp only [List.head?_cons, Option.some.injEq, slash, false_iff]
      rintro ⟨rest, -, split⟩
      rw [splitAt, text, List.splitOn_cons_eq_if_modifyHead, if_neg (by simpa using slash)] at split
      cases later : cs.splitOn '/' with
      | nil => exact List.splitOn_ne_nil _ _ later
      | cons first others =>
        rw [later] at split
        have opening : String.ofList (c :: first) = "" := (List.cons.inj split).1
        simp at opening

theorem pushAbsolute (segment : IsSegment name) : (path.push name).isAbsolute = path.isAbsolute := by
  rw [pushText, isAbsolute, isAbsolute, String.toList_append]
  unfold lead
  cases text : path.text.toList with
  | nil =>
    rw [String.toList_eq_nil_iff.mp text]
    have opening : name.toList.head? ≠ some '/' := fun slash =>
      segment.whole (List.mem_of_head? slash)
    simpa using opening
  | cons c cs => split <;> simp [text]

theorem filterDropIdleEnd (pieces : List String) :
    (dropIdleEnd pieces).filter (!isIdle ·) = pieces.filter (!isIdle ·) := by
  have dropped : ∀ l : List String, (l.dropWhile isIdle).filter (!isIdle ·) = l.filter (!isIdle ·) := by
    intro l
    induction l with
    | nil => rfl
    | cons piece l ih => cases idle : isIdle piece <;> simp [idle, ih]
  rw [dropIdleEnd, List.filter_reverse, dropped, List.filter_reverse, List.reverse_reverse]

theorem dropIdleEndActive {front : List String} (active : isIdle name = false) :
    dropIdleEnd (front ++ [name]) = front ++ [name] := by
  simp [dropIdleEnd, active]

theorem dropIdleEndPrefix (pieces : List String) : dropIdleEnd pieces <+: pieces := by
  rw [← List.reverse_suffix, dropIdleEnd, List.reverse_reverse]
  exact List.dropWhile_suffix _

/- A path with pieces left after the idle ones is written from these pieces, one with none is written
as a place. -/
theorem ofPiecesSegments {absolute : Bool} {front : List String}
    (free : ∀ piece ∈ front, '/' ∉ piece.toList) :
    (ofPieces absolute front).segments = front.filter (!isIdle ·) := by
  rw [← filterDropIdleEnd]
  unfold ofPieces
  split
  · rename_i none
    rw [none]
    split
    · rfl
    · split <;> rfl
  · rename_i none
    have kept : ∀ piece ∈ dropIdleEnd front, '/' ∉ piece.toList := fun piece member =>
      free piece ((dropIdleEndPrefix front).subset member)
    rw [segments, piecesOfJoin none kept]

theorem dropIdleEndLast {pieces : List String} : dropIdleEnd pieces ≠ [""] := by
  intro alone
  have first : (pieces.reverse.dropWhile isIdle).head? = some "" := by
    rw [← List.getLast?_reverse, ← dropIdleEnd, alone]
    rfl
  have active := List.head?_dropWhile_not isIdle pieces.reverse
  rw [first] at active
  contradiction

theorem ofPiecesAbsolute {absolute : Bool} {front : List String}
    (free : ∀ piece ∈ front, '/' ∉ piece.toList) (opening : absolute = true ↔ front.head? = some "") :
    (ofPieces absolute front).isAbsolute = absolute := by
  unfold ofPieces
  split
  · cases absolute with
    | true =>
      rw [if_pos rfl]
      decide
    | false =>
      rw [if_neg Bool.false_ne_true]
      split <;> decide
  · rename_i none
    have kept : ∀ piece ∈ dropIdleEnd front, '/' ∉ piece.toList := fun piece member =>
      free piece ((dropIdleEndPrefix front).subset member)
    rw [Bool.eq_iff_iff, absoluteIff, piecesOfJoin none kept, opening]
    obtain ⟨after, whole⟩ := dropIdleEndPrefix front
    cases pieces : dropIdleEnd front with
    | nil => exact absurd pieces none
    | cons first rest =>
      rw [← whole, pieces]
      simp only [List.cons.injEq, List.cons_append, List.head?_cons, Option.some.injEq]
      constructor
      · rintro ⟨others, -, rfl, -⟩
        rfl
      · rintro rfl
        exact ⟨rest, fun last => dropIdleEndLast (last ▸ pieces), rfl, rfl⟩

theorem ofPiecesChars {absolute : Bool} {front : List String}
    (free : ∀ piece ∈ front, '/' ∉ piece.toList) {c : Char}
    (member : c ∈ (ofPieces absolute front).text.toList) :
    c = '/' ∨ c = '.' ∨ ∃ piece ∈ front, c ∈ piece.toList := by
  unfold ofPieces at member
  split at member
  · split at member
    · exact .inl (List.mem_singleton.mp member)
    · split at member
      · exact .inr (.inl (List.mem_singleton.mp member))
      · exact absurd member List.not_mem_nil
  · rename_i none
    have kept : ∀ piece ∈ dropIdleEnd front, '/' ∉ piece.toList := fun piece member =>
      free piece ((dropIdleEndPrefix front).subset member)
    by_cases slash : c = '/'
    · exact .inl slash
    · obtain ⟨piece, inside, found⟩ := memSplitAt.mpr ⟨member, slash⟩
      have inside : piece ∈ Path.pieces ⟨String.intercalate "/" (dropIdleEnd front)⟩ := inside
      rw [piecesOfJoin none kept] at inside
      exact .inr (.inr ⟨piece, (dropIdleEndPrefix front).subset inside, found⟩)

/- The parent of a path that ends in a name: the pieces before the name. -/
theorem parentOfPieces {front : List String} (pieces : path.pieces = front ++ [name])
    (active : isIdle name = false) : path.parent? = some (ofPieces path.isAbsolute front) := by
  have kept : dropIdleEnd path.pieces = front ++ [name] := by
    rw [pieces, dropIdleEndActive active]
  unfold parent?
  split
  · rename_i none
    rw [kept] at none
    simp at none
  · rw [kept, List.dropLast_concat]

structure IsParent (parent path : Path) : Prop where
  segments : parent.segments = path.segments.dropLast
  absolute : parent.isAbsolute = path.isAbsolute
  chars : '\x00' ∈ parent.text.toList → '\x00' ∈ path.text.toList

theorem parentOfPush (segment : IsSegment name) :
    ∃ parent, (path.push name).parent? = some parent ∧ parent.IsParent (path.push name) := by
  have pieces : (path.push name).pieces = path.stem ++ [name] := pushPieces segment.whole
  have whole : ∀ piece ∈ path.stem, '/' ∉ piece.toList := fun piece member =>
    splitAtFree (pieces ▸ List.mem_append_left _ member : piece ∈ (path.push name).pieces)
  refine ⟨_, parentOfPieces pieces (segmentActive segment), ?_, ?_, ?_⟩
  · rw [ofPiecesSegments whole, stemSegments, pushSegments segment, List.dropLast_concat]
  · refine ofPiecesAbsolute whole ?_
    rw [absoluteIff, pieces]
    cases path.stem with
    | nil => simp
    | cons first rest => simp
  · intro member
    rcases ofPiecesChars whole member with slash | dot | ⟨piece, inside, found⟩
    · exact absurd slash (by decide)
    · exact absurd dot (by decide)
    · have kept : piece ∈ (path.push name).pieces := pieces ▸ List.mem_append_left _ inside
      exact (memSplitAt.mp ⟨piece, kept, found⟩).1

def pushAll (path : Path) (names : List String) : Path :=
  names.foldl push path

theorem pushAllSegments {names : List String} (segments : ∀ name ∈ names, IsSegment name) :
    (path.pushAll names).segments = path.segments ++ names := by
  induction names generalizing path with
  | nil => simp [pushAll]
  | cons name names ih =>
    obtain ⟨first, rest⟩ := List.forall_mem_cons.mp segments
    rw [pushAll, List.foldl_cons, ← pushAll, ih rest, pushSegments first, List.append_assoc]
    rfl

theorem pushAllAbsolute {names : List String} (segments : ∀ name ∈ names, IsSegment name) :
    (path.pushAll names).isAbsolute = path.isAbsolute := by
  induction names generalizing path with
  | nil => rfl
  | cons name names ih =>
    obtain ⟨first, rest⟩ := List.forall_mem_cons.mp segments
    rw [pushAll, List.foldl_cons, ← pushAll, ih rest, pushAbsolute first]

theorem pushAllLast {names : List String} (some : names ≠ []) :
    path.pushAll names = (path.pushAll names.dropLast).push (names.getLast some) := by
  conv_lhs => rw [← List.dropLast_append_getLast some]
  rw [pushAll, List.foldl_append]
  rfl

theorem leadOfPush (segment : IsSegment name) : (path.push name).lead = (path.push name).text ++ "/" := by
  have filled : (path.push name).text.isEmpty = false := by
    rw [Bool.eq_false_iff, Ne, String.isEmpty_iff, pushText]
    exact fun empty => segment.some (String.append_eq_empty_iff.mp empty).2
  rw [lead, filled, pushEndsOpen segment]
  rfl

/- Pushed names stand behind what the root writes, with a slash between two of them. -/
theorem pushAllText {names : List String} (some : names ≠ [])
    (segments : ∀ name ∈ names, IsSegment name) :
    (path.pushAll names).text = path.lead ++ String.intercalate "/" names := by
  induction names generalizing path with
  | nil => contradiction
  | cons name names ih =>
    obtain ⟨first, rest⟩ := List.forall_mem_cons.mp segments
    rw [pushAll, List.foldl_cons, ← pushAll]
    cases names with
    | nil => simp [pushAll, pushText]
    | cons next others =>
      rw [ih (List.cons_ne_nil _ _) rest, leadOfPush first, pushText, String.intercalate_cons_cons]
      simp only [String.append_assoc]

structure Plain (path : Path) : Prop where
  relative : path.isAbsolute = false
  named : ∀ piece ∈ path.pieces, piece ≠ "" ∧ piece ≠ "." ∧ piece ≠ ".."

theorem plainSegments (plain : path.Plain) : path.segments = path.pieces := by
  rw [segments, List.filter_eq_self]
  intro piece member
  obtain ⟨some, other, -⟩ := plain.named piece member
  rw [segmentActive ⟨some, other, splitAtFree member⟩]
  rfl

theorem plainBelow (plain : path.Plain) : ".." ∉ path.segments := by
  rw [plainSegments plain]
  exact fun back => (plain.named _ back).2.2 rfl

theorem plainSome (plain : path.Plain) : path.segments ≠ [] := by
  rw [plainSegments plain]
  exact splitAtSome _ _

theorem piecesInjective {left right : Path} (same : left.pieces = right.pieces) : left = right := by
  cases left
  cases right
  rw [mk.injEq]
  exact (joinPieces _).symm.trans ((congrArg _ same).trans (joinPieces _))

end Scaffold.Path
