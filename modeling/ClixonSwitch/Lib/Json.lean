import ClixonSwitch.Lib.Text

/-!
JSON trees as `serde_json::Value` holds them, and the positions of their nodes. An
object is the list of its members; in a map the keys are distinct, which `Distinct`
says of all objects of a tree.
-/
namespace ClixonSwitch.Lib

/-- The characters that numbers are shown with. -/
def isNumberChar (c : Char) : Bool := c.isDigit || c == '-' || c == '.' || c == 'e'

def isNumberText (text : List Char) : Bool := !text.isEmpty && text.all isNumberChar

/-- `serde_json::Number`; a float is only ever shown, so it is kept as its text. -/
inductive JsonNumber where
  | unsigned (n : UInt64)
  | negative (magnitude : Nat)
  | float (text : String) (shown : isNumberText text.toList = true)
  deriving DecidableEq, Repr

def JsonNumber.display : JsonNumber → String
  | .unsigned n => toString n
  | .negative magnitude => "-" ++ toString magnitude
  | .float text _ => text

theorem isNumberText_toString (n : Nat) : isNumberText (toString n).toList = true := by
  have hall : (Nat.toDigits 10 n).all isNumberChar = true := by
    refine List.all_eq_true.mpr fun c hc => ?_
    simp [isNumberChar, Nat.isDigit_of_mem_toDigits (by decide) (by decide) hc]
  have hne : Nat.toDigits 10 n ≠ [] := Nat.toDigits_ne_nil
  simp [isNumberText, hall, hne]

theorem JsonNumber.isNumberText_display (n : JsonNumber) :
    isNumberText n.display.toList = true := by
  cases n with
  | unsigned n => exact isNumberText_toString n.toNat
  | negative magnitude =>
    have h := isNumberText_toString magnitude
    rw [isNumberText, Bool.and_eq_true] at h
    rw [display, String.toList_append, isNumberText, List.all_append, h.2]
    rfl
  | float text shown => exact shown

inductive Json where
  | null
  | bool (b : Bool)
  | number (n : JsonNumber)
  | string (s : String)
  | array (items : List Json)
  | object (members : List (String × Json))
  deriving Repr

namespace Json

/-- `Value::get` with a key. -/
def get (key : String) : Json → Option Json
  | .object members => members.lookup key
  | _ => none

def asArray : Json → Option (List Json)
  | .array items => some items
  | _ => none

def asStr : Json → Option String
  | .string s => some s
  | _ => none

section Text

/-- A character inside a quoted string. -/
def escapeChar (c : Char) : List Char :=
  let hexDigit (n : Nat) : Char := "0123456789abcdef".toList.getD n '0'
  if c = '"' then ['\\', '"']
  else if c = '\\' then ['\\', '\\']
  else if c = '\x08' then ['\\', 'b']
  else if c = '\x0c' then ['\\', 'f']
  else if c = '\n' then ['\\', 'n']
  else if c = '\r' then ['\\', 'r']
  else if c = '\t' then ['\\', 't']
  else if c.toNat < 0x20 then
    ['\\', 'u', '0', '0', hexDigit (c.toNat / 16), hexDigit (c.toNat % 16)]
  else [c]

def quote (s : String) : String := "\"" ++ String.ofList (s.toList.flatMap escapeChar) ++ "\""

mutual
/-- `Value`'s `Display`: compact JSON. -/
def display (v : Json) : String :=
  match v with
  | .null => "null"
  | .bool b => toString b
  | .number n => n.display
  | .string s => quote s
  | .array items => "[" ++ String.intercalate "," (displayItems items) ++ "]"
  | .object members => "\x7b" ++ String.intercalate "," (displayMembers members) ++ "\x7d"
termination_by structural v

def displayItems (items : List Json) : List String :=
  match items with
  | [] => []
  | v :: rest => v.display :: displayItems rest
termination_by structural items

def displayMembers (members : List (String × Json)) : List String :=
  match members with
  | [] => []
  | m :: rest => displayMember m :: displayMembers rest
termination_by structural members

def displayMember (m : String × Json) : String :=
  match m with
  | (k, v) => quote k ++ ":" ++ v.display
termination_by structural m
end

end Text

/-- Induction over trees: the items and members of a node come before it. -/
theorem induction {P : Json → Prop} (null : P .null) (bool : ∀ b, P (.bool b))
    (number : ∀ n, P (.number n)) (string : ∀ s, P (.string s))
    (array : ∀ items, (∀ v ∈ items, P v) → P (.array items))
    (object : ∀ members, (∀ m ∈ members, P m.2) → P (.object members)) (v : Json) : P v :=
  @Json.rec P (fun items => ∀ v ∈ items, P v) (fun members => ∀ m ∈ members, P m.2)
    (fun m => P m.2) null bool number string array object
    (fun _ h => nomatch h) (fun _ _ hv hrest => List.forall_mem_cons.mpr ⟨hv, hrest⟩)
    (fun _ h => nomatch h) (fun _ _ hm hrest => List.forall_mem_cons.mpr ⟨hm, hrest⟩)
    (fun _ _ hv => hv) v

/-- One step from a node to one of its children. -/
inductive Step where
  | key (k : String)
  | index (n : Nat)
  deriving DecidableEq, Repr

/-- The node at a position, if there is one. -/
def at? : Json → List Step → Option Json
  | v, [] => some v
  | .object members, .key k :: rest => (members.lookup k).bind fun v => v.at? rest
  | .array items, .index n :: rest => items[n]?.bind fun v => v.at? rest
  | _, _ :: _ => none

theorem at?_append (v : Json) (p q : List Step) : v.at? (p ++ q) = (v.at? p).bind (·.at? q) := by
  induction p generalizing v with
  | nil => rfl
  | cons step rest ih =>
    rw [List.cons_append]
    cases v <;> cases step <;> simp [at?, ih, Option.bind_assoc]

/-- The keys of each object in the tree are distinct. -/
def Distinct (v : Json) : Prop :=
  ∀ pos members, v.at? pos = some (.object members) → (members.map Prod.fst).Nodup

section Distinct
variable {members : List (String × Json)} {items : List Json}

theorem Distinct.keys (h : (object members).Distinct) : (members.map Prod.fst).Nodup :=
  h [] members rfl

/-- With distinct keys, being an entry is being what a lookup gives. -/
theorem mem_iff_lookup {α : Type} {entries : List (String × α)}
    (h : (entries.map Prod.fst).Nodup) (k : String) (v : α) :
    (k, v) ∈ entries ↔ entries.lookup k = some v := by
  induction entries with
  | nil => simp
  | cons m rest ih =>
    obtain ⟨k', v'⟩ := m
    rw [List.map_cons, List.nodup_cons] at h
    rw [List.mem_cons, List.lookup_cons, ih h.2]
    by_cases hk : k = k'
    · subst hk
      have hnone : rest.lookup k ≠ some v := fun hl =>
        h.1 (List.mem_map.mpr ⟨(k, v), (ih h.2).mpr hl, rfl⟩)
      simp [hnone, eq_comm]
    · have hne : (k == k') = false := by simpa using hk
      simp [hk, hne]

theorem Distinct.member (h : (object members).Distinct) {k : String} {v : Json}
    (hv : members.lookup k = some v) : v.Distinct := by
  intro pos ms hpos
  refine h (.key k :: pos) ms ?_
  simp [at?, hv, hpos]

theorem Distinct.get {v w : Json} (h : v.Distinct) {k : String} (hw : v.get k = some w) :
    w.Distinct := by
  cases v with
  | object members => exact h.member hw
  | _ => cases hw

theorem Distinct.item (h : (array items).Distinct) {n : Nat} {v : Json}
    (hv : items[n]? = some v) : v.Distinct := by
  intro pos ms hpos
  refine h (.index n :: pos) ms ?_
  simp [at?, hv, hpos]

mutual
/-- `Distinct`, computed. -/
def keysDistinct (v : Json) : Bool :=
  match v with
  | .object members => decide (members.map Prod.fst).Nodup && membersDistinct members
  | .array items => itemsDistinct items
  | _ => true
termination_by structural v

def membersDistinct (members : List (String × Json)) : Bool :=
  match members with
  | [] => true
  | m :: rest => memberDistinct m && membersDistinct rest
termination_by structural members

def memberDistinct (m : String × Json) : Bool :=
  match m with
  | (_, v) => v.keysDistinct
termination_by structural m

def itemsDistinct (items : List Json) : Bool :=
  match items with
  | [] => true
  | v :: rest => v.keysDistinct && itemsDistinct rest
termination_by structural items
end

theorem membersDistinct_eq (members : List (String × Json)) :
    membersDistinct members = members.all fun m => m.2.keysDistinct := by
  induction members with
  | nil => rfl
  | cons m rest ih => rw [membersDistinct, ih, memberDistinct, List.all_cons]

theorem itemsDistinct_eq (items : List Json) : itemsDistinct items = items.all keysDistinct := by
  induction items with
  | nil => rfl
  | cons v rest ih => rw [itemsDistinct, ih, List.all_cons]

theorem distinct_of_keysDistinct (v : Json) (h : v.keysDistinct = true) : v.Distinct := by
  induction v using Json.induction with
  | object members ih =>
    rw [keysDistinct, Bool.and_eq_true, decide_eq_true_iff, membersDistinct_eq,
      List.all_eq_true] at h
    intro pos ms hpos
    match pos, hpos with
    | [], rfl => exact h.1
    | .key k :: rest, hpos =>
      rw [at?, Option.bind_eq_some_iff] at hpos
      obtain ⟨w, hw, hrest⟩ := hpos
      have hmem := (mem_iff_lookup h.1 k w).mpr hw
      exact ih (k, w) hmem (h.2 (k, w) hmem) rest ms hrest
  | array items ih =>
    rw [keysDistinct, itemsDistinct_eq, List.all_eq_true] at h
    intro pos ms hpos
    match pos, hpos with
    | .index n :: rest, hpos =>
      rw [at?, Option.bind_eq_some_iff] at hpos
      obtain ⟨w, hw, hrest⟩ := hpos
      have hmem := List.mem_of_getElem? hw
      exact ih w hmem (h w hmem) rest ms hrest
  | _ =>
    intro pos ms hpos
    cases pos <;> simp [at?] at hpos

end Distinct

section Positions

mutual
/-- The positions of all nodes of a tree, each node before its children. -/
def positions (v : Json) : List (List Step) :=
  match v with
  | .object members => [] :: memberPositions members
  | .array items => [] :: itemPositions items 0
  | _ => [[]]
termination_by structural v

def memberPositions (members : List (String × Json)) : List (List Step) :=
  match members with
  | [] => []
  | m :: rest => memberPosition m ++ memberPositions rest
termination_by structural members

def memberPosition (m : String × Json) : List (List Step) :=
  match m with
  | (k, v) => v.positions.map (.key k :: ·)
termination_by structural m

def itemPositions (items : List Json) (n : Nat) : List (List Step) :=
  match items with
  | [] => []
  | v :: rest => v.positions.map (.index n :: ·) ++ itemPositions rest (n + 1)
termination_by structural items
end

theorem memberPositions_eq (members : List (String × Json)) :
    memberPositions members = members.flatMap fun m => m.2.positions.map (.key m.1 :: ·) := by
  induction members with
  | nil => rfl
  | cons m rest ih => rw [memberPositions, ih, memberPosition, List.flatMap_cons]

theorem itemPositions_eq (items : List Json) (n : Nat) :
    itemPositions items n = (items.zipIdx n).flatMap fun e => e.1.positions.map (.index e.2 :: ·) := by
  induction items generalizing n with
  | nil => rfl
  | cons v rest ih => rw [itemPositions, ih, List.zipIdx_cons, List.flatMap_cons]

@[simp] theorem positions_object (members : List (String × Json)) :
    (object members).positions =
      [] :: members.flatMap fun m => m.2.positions.map (.key m.1 :: ·) := by
  rw [positions, memberPositions_eq]

@[simp] theorem positions_array (items : List Json) :
    (array items).positions =
      [] :: items.zipIdx.flatMap fun e => e.1.positions.map (.index e.2 :: ·) := by
  rw [positions, itemPositions_eq]

/-- The first position is the root's, and no other is. -/
theorem positions_eq_cons (v : Json) : ∃ below, v.positions = [] :: below ∧ [] ∉ below := by
  cases v with
  | object members => exact ⟨_, positions_object members, by simp⟩
  | array items => exact ⟨_, positions_array items, by simp⟩
  | _ => exact ⟨[], rfl, by simp⟩

/-- The positions are those where there is a node. -/
theorem mem_positions (v : Json) (h : v.Distinct) (pos : List Step) :
    pos ∈ v.positions ↔ (v.at? pos).isSome = true := by
  induction v using Json.induction generalizing pos with
  | object members ih =>
    cases pos with
    | nil => simp [at?]
    | cons step rest =>
      cases step with
      | index n => simp [at?]
      | key k =>
        have hchild : ∀ w, members.lookup k = some w →
            (rest ∈ w.positions ↔ (w.at? rest).isSome = true) := fun w hw =>
          ih (k, w) ((mem_iff_lookup h.keys k w).mpr hw) (h.member hw) rest
        simp only [positions_object, List.mem_cons, reduceCtorEq, false_or, List.mem_flatMap,
          List.mem_map, List.cons.injEq, Step.key.injEq, Prod.exists, at?]
        constructor
        · rintro ⟨k', w, hmem, rest', hpos, rfl, rfl⟩
          have hw := (mem_iff_lookup h.keys k' w).mp hmem
          simpa [hw] using (hchild w hw).mp hpos
        · intro hsome
          cases hw : members.lookup k with
          | none => simp [hw] at hsome
          | some w =>
            rw [hw, Option.bind_some] at hsome
            exact ⟨k, w, (mem_iff_lookup h.keys k w).mpr hw, rest, (hchild w hw).mpr hsome, rfl, rfl⟩
  | array items ih =>
    cases pos with
    | nil => simp [at?]
    | cons step rest =>
      cases step with
      | key k => simp [at?]
      | index n =>
        have hchild : ∀ w, items[n]? = some w →
            (rest ∈ w.positions ↔ (w.at? rest).isSome = true) := fun w hw =>
          ih w (List.mem_of_getElem? hw) (h.item hw) rest
        simp only [positions_array, List.mem_cons, reduceCtorEq, false_or, List.mem_flatMap,
          List.mem_map, List.cons.injEq, Step.index.injEq, Prod.exists, List.mem_zipIdx_iff_getElem?,
          at?]
        constructor
        · rintro ⟨w, n', hw, rest', hpos, rfl, rfl⟩
          simpa [hw] using (hchild w hw).mp hpos
        · intro hsome
          cases hw : items[n]? with
          | none => simp [hw] at hsome
          | some w =>
            rw [hw, Option.bind_some] at hsome
            exact ⟨w, n, hw, rest, (hchild w hw).mpr hsome, rfl, rfl⟩
  | _ => cases pos <;> simp [positions, at?]

theorem nodup_positions (v : Json) (h : v.Distinct) : v.positions.Nodup := by
  induction v using Json.induction with
  | object members ih =>
    have hkeys : members.Pairwise fun m n => m.1 ≠ n.1 := List.pairwise_map.mp h.keys
    rw [positions_object, List.nodup_cons, List.nodup_flatMap]
    refine ⟨by simp, fun m hm => ?_, hkeys.imp fun hne => ?_⟩
    · exact (ih m hm (h.member ((mem_iff_lookup h.keys m.1 m.2).mp hm))).map
        fun a b hab => (List.cons.inj hab).2
    · intro pos hpos hpos'
      obtain ⟨a, -, rfl⟩ := List.mem_map.mp hpos
      obtain ⟨b, -, hb⟩ := List.mem_map.mp hpos'
      exact hne (Step.key.inj (List.cons.inj hb).1).symm
  | array items ih =>
    have hindex : items.zipIdx.Pairwise fun e f => e.2 ≠ f.2 := by
      refine List.pairwise_map.mp ?_
      rw [List.zipIdx_map_snd]
      exact List.nodup_range'
    rw [positions_array, List.nodup_cons, List.nodup_flatMap]
    refine ⟨by simp, fun e he => ?_, hindex.imp fun hne => ?_⟩
    · have he' := List.mem_zipIdx_iff_getElem?.mp he
      exact (ih e.1 (List.mem_of_getElem? he') (h.item he')).map
        fun a b hab => (List.cons.inj hab).2
    · intro pos hpos hpos'
      obtain ⟨a, -, rfl⟩ := List.mem_map.mp hpos
      obtain ⟨b, -, hb⟩ := List.mem_map.mp hpos'
      exact hne (Step.index.inj (List.cons.inj hb).1).symm
  | _ => simp [positions]

end Positions

end Json

end ClixonSwitch.Lib
