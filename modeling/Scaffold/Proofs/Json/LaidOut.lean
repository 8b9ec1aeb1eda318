import Mathlib.Data.List.DropRight
import Scaffold.Proofs.Json.Quoted

/-!
Values that are read again from the text they are laid out as. Only numbers are left out: of them not all come
back.
-/
namespace Scaffold.Json

mutual

def node : Json → Node
  | null => .null
  | bool value => .bool value
  | number value => .number (some value)
  | string value => .string (some value)
  | array items => .array (itemNodes items)
  | object members => .object (memberNodes members)

def itemNodes : List Json → Items
  | [] => .closed
  | item :: rest => .item item.node (itemNodes rest)

def memberNodes : List (String × Json) → Members
  | [] => .closed
  | (name, value) :: rest => .member (some name) value.node (memberNodes rest)

end

/-- A value without numbers, of at most `depth` levels, with no two members of one name in an object. -/
inductive Plain : (depth : Nat) → Json → Prop where
  | null {depth : Nat} : Plain depth .null
  | bool {depth : Nat} (value : Bool) : Plain depth (.bool value)
  | string {depth : Nat} (value : String) : Plain depth (.string value)
  | array {depth : Nat} {items : List Json} (each : ∀ item ∈ items, Plain depth item) :
      Plain (depth + 1) (.array items)
  | object {depth : Nat} {members : List (String × Json)} (each : ∀ member ∈ members, Plain depth member.2)
      (apart : (members.map (·.1)).Nodup) : Plain (depth + 1) (.object members)

/- Wherever the text stands, the node is read from it and reading goes on behind it. -/
def Reads (text : String) (node : Node) : Prop :=
  ∀ fuel rest, text.length ≤ fuel → readValue fuel (text.toList ++ rest) = ⟨node, some rest⟩

section Spaces
variable (fuel : Nat) (cs : List Char)

theorem skippedTwice : skipSpace (skipSpace cs) = skipSpace cs :=
  List.dropWhile_idempotent ..

theorem feedSkipped : skipSpace ('\n' :: cs) = skipSpace cs :=
  rfl

theorem commaKept : skipSpace ((",\n" : String).toList ++ cs) = ',' :: '\n' :: cs :=
  rfl

theorem readSkipped : readValue fuel (skipSpace cs) = readValue fuel cs := by
  cases fuel with
  | zero => rfl
  | succ fuel => rw [readValue, readValue, skippedTwice]

theorem itemsSkipped : readItems fuel (skipSpace cs) = readItems fuel cs := by
  cases fuel with
  | zero => rfl
  | succ fuel => rw [readItems, readItems, readSkipped]

theorem membersSkipped : readMembers fuel (skipSpace cs) = readMembers fuel cs := by
  cases fuel with
  | zero => rfl
  | succ fuel => rw [readMembers, readMembers, skippedTwice]

variable {space : List Char} (blank : ∀ c ∈ space, isSpace c = true)
include blank

theorem skipBlank : skipSpace (space ++ cs) = skipSpace cs :=
  List.dropWhile_append_of_pos blank

theorem readBehind : readValue fuel (space ++ cs) = readValue fuel cs := by
  rw [← readSkipped, skipBlank cs blank, readSkipped]

end Spaces

theorem indentationBlank (level : Nat) : ∀ c ∈ (indentation level).toList, isSpace c = true := by
  intro c member
  rw [indentation, String.toList_ofList] at member
  rw [List.eq_of_mem_replicate member]
  rfl

theorem feedBlank (level : Nat) : ∀ c ∈ '\n' :: (indentation level).toList, isSpace c = true :=
  List.forall_mem_cons.mpr ⟨rfl, indentationBlank level⟩

variable {text : String} {node : Node}

theorem Reads.behind {space : String} (reads : Reads text node) (blank : ∀ c ∈ space.toList, isSpace c = true) :
    Reads (space ++ text) node := by
  intro fuel rest enough
  rw [String.length_append] at enough
  rw [String.toList_append, List.append_assoc, readBehind _ _ blank]
  exact reads fuel rest (by omega)

/- A text is read by its first letter. -/
theorem readsFrom (letter : Char) (behind : String)
    (read : ∀ fuel rest, behind.length ≤ fuel →
      readValue (fuel + 1) (letter :: (behind.toList ++ rest)) = ⟨node, some rest⟩) :
    Reads (letter.toString ++ behind) node := by
  have opened : (letter.toString ++ behind).toList = letter :: behind.toList := by simp
  intro fuel rest enough
  have size := congrArg List.length opened
  simp only [String.length_toList, List.length_cons] at size
  cases fuel with
  | zero => omega
  | succ fuel =>
    rw [opened]
    exact read fuel rest (by omega)

theorem nullReads : Reads "null" .null :=
  readsFrom 'n' "ull" fun _ _ _ => rfl

theorem boolReads {level : Nat} : ∀ value, Reads (laidOut level (.bool value)) (.bool value)
  | true => readsFrom 't' "rue" fun _ _ _ => rfl
  | false => readsFrom 'f' "alse" fun _ _ _ => rfl

theorem stringReads (s : String) : Reads (quoted s) (.string (some s)) := by
  intro fuel rest enough
  obtain ⟨cs, opened, closed⟩ := readQuoted s rest
  cases fuel with
  | zero =>
    have size := congrArg List.length opened
    simp only [String.length_toList, List.length_cons] at size
    omega
  | succ fuel =>
    rw [opened, List.cons_append, readValue]
    simp [skipSpace, isSpace, closed]

section Steps
variable {space rest : List Char} {fuel : Nat}

theorem itemLast (reads : Reads text node) (enough : text.length ≤ fuel)
    (blank : ∀ c ∈ space, isSpace c = true) :
    readItems (fuel + 1) (text.toList ++ (space ++ ']' :: rest)) = ⟨.item node .closed, some rest⟩ := by
  rw [readItems, reads fuel _ enough]
  simp only [skipBlank _ blank]
  rfl

/- What is read to its end begins with no closing bracket. -/
theorem itemsOpen {items : Items} {cs : List Char} (read : readItems fuel cs = ⟨items, some rest⟩) :
    ∀ behind, skipSpace cs ≠ ']' :: behind := by
  intro behind closed
  cases fuel with
  | zero => simp [readItems] at read
  | succ fuel =>
    cases fuel with
    | zero => simp [readItems, readValue, stopped] at read
    | succ fuel => simp [readItems, readValue, closed, stopped] at read

theorem itemNext {others : Items} {cs : List Char} (reads : Reads text node) (enough : text.length ≤ fuel)
    (read : readItems fuel cs = ⟨others, some rest⟩) :
    readItems (fuel + 1) (text.toList ++ ((",\n" : String).toList ++ cs)) =
      ⟨.item node others, some rest⟩ := by
  have more := itemsOpen read
  rw [readItems, reads fuel _ enough]
  simp only [commaKept, feedSkipped]
  rw [itemsSkipped, read]

theorem arrayOpened {items : Items} {cs : List Char} (read : readItems fuel cs = ⟨items, some rest⟩) :
    readValue (fuel + 1) ('[' :: (("\n" : String).toList ++ cs)) = ⟨.array items, some rest⟩ := by
  have bracket : skipSpace ('[' :: (("\n" : String).toList ++ cs)) = '[' :: '\n' :: cs := rfl
  have more := itemsOpen read
  rw [readValue, bracket]
  simp only [feedSkipped]
  rw [itemsSkipped, read]

/- The name of a member is read up to the colon. -/
theorem nameRead (name : String) {front behind : List Char} (indented : ∀ c ∈ front, isSpace c = true) :
    ∃ cs, skipSpace (front ++ ((quoted name).toList ++ behind)) = '"' :: cs ∧
      openString cs = .closed (some name) behind := by
  obtain ⟨cs, opened, closed⟩ := readQuoted name behind
  refine ⟨cs ++ behind, ?_, closed⟩
  rw [opened, skipBlank _ indented]
  rfl

theorem memberLast {name : String} {front : List Char} (reads : Reads text node) (enough : text.length ≤ fuel)
    (indented : ∀ c ∈ front, isSpace c = true) (blank : ∀ c ∈ space, isSpace c = true) :
    readMembers (fuel + 1) (front ++ ((quoted name).toList ++ ':' ::
      (text.toList ++ (space ++ '\x7d' :: rest)))) = ⟨.member (some name) node .closed, some rest⟩ := by
  obtain ⟨cs, opened, closed⟩ := nameRead name indented
  have colon : ∀ behind, skipSpace (':' :: behind) = ':' :: behind := fun _ => rfl
  have brace : skipSpace ('\x7d' :: rest) = '\x7d' :: rest := rfl
  rw [readMembers, opened]
  simp only [closed, colon, reads fuel _ enough, skipBlank _ blank, brace]

theorem memberNext {name : String} {front cs : List Char} {others : Members} (reads : Reads text node)
    (enough : text.length ≤ fuel) (indented : ∀ c ∈ front, isSpace c = true)
    (read : readMembers fuel cs = ⟨others, some rest⟩) :
    readMembers (fuel + 1) (front ++ ((quoted name).toList ++ ':' ::
      (text.toList ++ ((",\n" : String).toList ++ cs)))) = ⟨.member (some name) node others, some rest⟩ := by
  obtain ⟨opening, opened, closed⟩ := nameRead name indented
  have colon : ∀ behind, skipSpace (':' :: behind) = ':' :: behind := fun _ => rfl
  rw [← membersSkipped, ← feedSkipped, membersSkipped] at read
  rw [readMembers, opened]
  simp only [closed, colon, reads fuel _ enough, commaKept, read]

theorem objectOpened {members : Members} {cs : List Char} (read : readMembers fuel cs = ⟨members, some rest⟩) :
    readValue (fuel + 1) ('\x7b' :: (("\n" : String).toList ++ cs)) = ⟨.object members, some rest⟩ := by
  have bracket : skipSpace ('\x7b' :: (("\n" : String).toList ++ cs)) = '\x7b' :: '\n' :: cs := rfl
  have more : ∀ behind, skipSpace cs ≠ '\x7d' :: behind := by
    intro behind closed
    cases fuel with
    | zero => simp [readMembers] at read
    | succ fuel => simp [readMembers, closed] at read
  rw [readValue, bracket]
  simp only [feedSkipped]
  rw [membersSkipped, read]

end Steps

section Entries
variable {entry : Json → String} {space rest : List Char} (blank : ∀ c ∈ space, isSpace c = true)
include blank

theorem itemsRead {items : List Json} (some : items ≠ [])
    (each : ∀ item ∈ items, Reads (entry item) item.node) {fuel : Nat}
    (enough : (String.intercalate ",\n" (items.map entry)).length < fuel) :
    readItems fuel ((String.intercalate ",\n" (items.map entry)).toList ++ (space ++ ']' :: rest)) =
      ⟨itemNodes items, .some rest⟩ := by
  induction items generalizing fuel with
  | nil => contradiction
  | cons item items ih =>
    obtain ⟨first, others⟩ := List.forall_mem_cons.mp each
    cases fuel with
    | zero => omega
    | succ fuel =>
      cases items with
      | nil =>
        rw [List.map_singleton, String.intercalate_singleton] at enough ⊢
        exact itemLast first (by omega) blank
      | cons next items =>
        rw [List.map_cons, List.map_cons, String.intercalate_cons_cons, ← List.map_cons] at enough ⊢
        have comma : (",\n" : String).length = 2 := rfl
        simp only [String.length_append, comma] at enough
        simp only [String.toList_append, List.append_assoc]
        exact itemNext first (by omega) (ih (List.cons_ne_nil _ _) others (by omega))

/- A member as it is laid out, with what stands before and behind its name. -/
def memberEntry (front : String) (entry : Json → String) (member : String × Json) : String :=
  front ++ (quoted member.1 ++ ":" ++ entry member.2)

theorem membersRead {front : String} {members : List (String × Json)} (some : members ≠ [])
    (indented : ∀ c ∈ front.toList, isSpace c = true)
    (each : ∀ member ∈ members, Reads (entry member.2) member.2.node) {fuel : Nat}
    (enough : (String.intercalate ",\n" (members.map (memberEntry front entry))).length < fuel) :
    readMembers fuel ((String.intercalate ",\n" (members.map (memberEntry front entry))).toList ++
      (space ++ '\x7d' :: rest)) = ⟨memberNodes members, .some rest⟩ := by
  induction members generalizing fuel with
  | nil => contradiction
  | cons member members ih =>
    obtain ⟨name, value⟩ := member
    have first : Reads (entry value) value.node := each _ List.mem_cons_self
    have others := (List.forall_mem_cons.mp each).2
    have shape : ∀ behind, (memberEntry front entry (name, value)).toList ++ behind =
        front.toList ++ ((quoted name).toList ++ ':' :: ((entry value).toList ++ behind)) := by
      intro behind
      simp [memberEntry]
    cases fuel with
    | zero => omega
    | succ fuel =>
      cases members with
      | nil =>
        rw [List.map_singleton, String.intercalate_singleton] at enough ⊢
        simp only [memberEntry, String.length_append] at enough
        rw [shape]
        exact memberLast first (by omega) indented blank
      | cons next members =>
        rw [List.map_cons, List.map_cons, String.intercalate_cons_cons, ← List.map_cons] at enough ⊢
        have comma : (",\n" : String).length = 2 := rfl
        simp only [String.length_append, comma] at enough
        have small : (entry value).length ≤ (memberEntry front entry (name, value)).length := by
          simp only [memberEntry, String.length_append]
          omega
        simp only [String.toList_append, List.append_assoc]
        rw [shape]
        exact memberNext first (by omega) indented (ih (List.cons_ne_nil _ _) others (by omega))

end Entries

theorem laidOutItemsMap (level : Nat) (items : List Json) :
    laidOutItems level items = items.map (laidOut level) := by
  induction items with
  | nil => rfl
  | cons item items ih => rw [laidOutItems, List.map_cons, ih]

theorem laidOutMembersMap (level : Nat) (members : List (String × Json)) :
    laidOutMembers level members = members.map fun member => quoted member.1 ++ ": " ++ laidOut level member.2 := by
  induction members with
  | nil => rfl
  | cons member members ih => rw [laidOutMembers, List.map_cons, ih]

/- A block of some entries, in front of what comes behind it. -/
theorem blockFilled {entries : List String} (some : entries ≠ []) (level : Nat) (opening closing : String) :
    block level opening closing entries = opening ++ ("\n" ++
      (String.intercalate ",\n" (entries.map (indentation (level + 1) ++ ·)) ++
        ("\n" ++ indentation level ++ closing))) := by
  have filled : entries.isEmpty = false := by simpa using some
  simp only [block, filled, String.append_assoc]
  rfl

theorem arrayReads {level : Nat} {items : List Json}
    (each : ∀ item ∈ items, Reads (laidOut (level + 1) item) item.node) :
    Reads (laidOut level (.array items)) (.array (itemNodes items)) := by
  by_cases none : items = []
  · rw [none]
    exact readsFrom '[' "]" fun _ _ _ => rfl
  have entries : ∀ item ∈ items, Reads (((indentation (level + 1) ++ ·) ∘ laidOut (level + 1)) item) item.node :=
    fun item member => (each item member).behind (indentationBlank (level + 1))
  rw [laidOut, laidOutItemsMap, blockFilled (by simpa using none), List.map_map]
  apply readsFrom '['
  intro fuel rest enough
  have feed : ("\n" : String).length = 1 := rfl
  simp only [String.length_append, feed] at enough
  simp only [String.toList_append, List.append_assoc]
  exact arrayOpened (itemsRead (feedBlank level) none entries (by omega))

theorem objectReads {level : Nat} {members : List (String × Json)}
    (each : ∀ member ∈ members, Reads (laidOut (level + 1) member.2) member.2.node) :
    Reads (laidOut level (.object members)) (.object (memberNodes members)) := by
  by_cases none : members = []
  · rw [none]
    exact readsFrom '\x7b' "\x7d" fun _ _ _ => rfl
  have values : ∀ member ∈ members, Reads (" " ++ laidOut (level + 1) member.2) member.2.node :=
    fun member inside => (each member inside).behind (List.forall_mem_singleton.mpr rfl)
  have entries : (laidOutMembers (level + 1) members).map (indentation (level + 1) ++ ·) =
      members.map (memberEntry (indentation (level + 1)) (" " ++ laidOut (level + 1) ·)) := by
    rw [laidOutMembersMap, List.map_map]
    apply List.map_congr_left
    intro member _
    simp only [Function.comp, memberEntry, String.append_assoc]
    rfl
  have some : laidOutMembers (level + 1) members ≠ [] := by simpa [laidOutMembersMap] using none
  rw [laidOut, blockFilled some, entries]
  apply readsFrom '\x7b'
  intro fuel rest enough
  have feed : ("\n" : String).length = 1 := rfl
  simp only [String.length_append, feed] at enough
  simp only [String.toList_append, List.append_assoc]
  exact objectOpened (membersRead (feedBlank level) none (indentationBlank (level + 1)) values (by omega))

theorem Plain.reads {depth : Nat} {json : Json} (plain : Plain depth json) (level : Nat) :
    Reads (laidOut level json) json.node := by
  induction plain generalizing level with
  | null => exact nullReads
  | bool value => exact boolReads value
  | string value => exact stringReads value
  | array _ ih => exact arrayReads fun item member => ih item member (level + 1)
  | object _ _ ih => exact objectReads fun member inside => ih member inside (level + 1)

mutual

theorem nodeSound : (json : Json) → json.node.faultWhenSkipped = none
  | .null | .bool _ | .number _ | .string _ => rfl
  | .array items => itemsSound items
  | .object members => membersSound members

theorem itemsSound : (items : List Json) → (itemNodes items).faultWhenSkipped = none
  | [] => rfl
  | item :: items => by
    rw [itemNodes, Items.faultWhenSkipped, nodeSound item, itemsSound items]
    rfl

theorem membersSound : (members : List (String × Json)) → (memberNodes members).faultWhenSkipped = none
  | [] => rfl
  | (name, value) :: members => by
    rw [memberNodes, Members.faultWhenSkipped, nodeSound value, membersSound members]
    rfl

end

theorem putMemberLast {name : String} (value : Json) {members : List (String × Json)}
    (fresh : name ∉ members.map (·.1)) : putMember name value members = members ++ [(name, value)] := by
  induction members with
  | nil => rfl
  | cons member members ih =>
    rw [List.map_cons, List.mem_cons, not_or] at fresh
    have other : (member.1 == name) = false := by simpa using Ne.symm fresh.1
    rw [putMember, other, ih fresh.2]
    rfl

theorem itemsKept {depth : Nat} {items : List Json} (each : ∀ item ∈ items, item.node.toJson depth = .ok item) :
    (itemNodes items).toJson depth = .ok items := by
  induction items with
  | nil => rfl
  | cons item items ih =>
    obtain ⟨first, others⟩ := List.forall_mem_cons.mp each
    rw [itemNodes, Items.toJson, first, ih others]
    rfl

theorem membersKept {depth : Nat} (before : List (String × Json)) {members : List (String × Json)}
    (each : ∀ member ∈ members, member.2.node.toJson depth = .ok member.2)
    (apart : ((before ++ members).map (·.1)).Nodup) :
    (memberNodes members).toJson depth before = .ok (before ++ members) := by
  induction members generalizing before with
  | nil =>
    rw [List.append_nil]
    rfl
  | cons member members ih =>
    obtain ⟨first, others⟩ := List.forall_mem_cons.mp each
    have fresh : member.1 ∉ before.map (·.1) := by
      rw [List.map_append, List.nodup_append] at apart
      exact fun seen => apart.2.2 _ seen _ List.mem_cons_self rfl
    rw [List.append_cons] at apart ⊢
    rw [memberNodes, Members.toJson, first]
    simp only [bind, Except.bind]
    rw [putMemberLast member.2 fresh]
    exact ih _ others apart

theorem Plain.kept {depth : Nat} {json : Json} (plain : Plain depth json) : json.node.toJson depth = .ok json := by
  induction plain with
  | null => rfl
  | bool value => rfl
  | string value => rfl
  | array _ ih => exact congrArg (Except.map Json.array) (itemsKept ih)
  | object _ apart ih => exact congrArg (Except.map Json.object) (membersKept [] ih apart)

theorem Plain.readPretty {depth : Nat} {json : Json} (plain : Plain depth json) (behind : String) :
    read (pretty json ++ behind) = ⟨json.node, some behind.toList⟩ := by
  rw [read, String.toList_append, String.length_append, pretty]
  exact plain.reads 0 _ _ (by omega)

theorem parsePretty {json : Json} (plain : Plain depthLimit json) {behind : String}
    (blank : ∀ c ∈ behind.toList, isSpace c = true) : parse? (pretty json ++ behind) = some json := by
  have ended : skipSpace behind.toList = [] := List.dropWhile_eq_nil_iff.mpr blank
  rw [parse?, plain.readPretty]
  simp [ended, plain.kept, Except.toOption]

end Scaffold.Json
