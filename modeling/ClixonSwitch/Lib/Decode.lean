import ClixonSwitch.Lib.Json

/-!
Decoding JSON trees into records, as serde's derived `Deserialize` does it from a
`serde_json::Value`: the fields of a record are found by name in an object, where
unknown members are skipped, or by position in an array. The texts of the errors are
not serde's.
-/
namespace ClixonSwitch.Lib

/-- What is left of the value that a record is decoded from. -/
inductive Fields where
  | named (members : List (String × Json))
  | positional (items : List Json)

abbrev Decoder (α : Type) := Json → Except String α

/-- Reads the fields of a record in the order of their declaration. -/
abbrev Record (α : Type) := StateT Fields (Except String) α

namespace Decode

section Values

def string : Decoder String
  | .string s => .ok s
  | _ => .error "invalid type, expected a string"

def bool : Decoder Bool
  | .bool b => .ok b
  | _ => .error "invalid type, expected a boolean"

/-- `Option`: null is none. -/
def option {α : Type} (decode : Decoder α) : Decoder (Option α)
  | .null => .ok none
  | v => (decode v).map some

/-- `Vec`. -/
def list {α : Type} (decode : Decoder α) : Decoder (List α)
  | .array items => items.mapM decode
  | _ => .error "invalid type, expected a sequence"

/-- The keys of a map. -/
def keys : Decoder (List String)
  | .object members => .ok (members.map Prod.fst)
  | _ => .error "invalid type, expected a map"

end Values

section Records
variable {α : Type}

/-- A field under one of its names. A member that is missing has the value `absent`, an
item that is missing the value `short`. -/
def field (names : List String) (absent short : Option α) (decode : Decoder α) : Record α :=
  fun fields =>
    match fields with
    | .named members =>
      match members.filter fun m => names.contains m.1 with
      | [] =>
        match absent with
        | some a => .ok (a, fields)
        | none => .error "missing field"
      | [m] => (decode m.2).map fun a => (a, fields)
      | _ => .error "duplicate field"
    | .positional [] =>
      match short with
      | some a => .ok (a, fields)
      | none => .error "invalid length"
    | .positional (v :: rest) => (decode v).map fun a => (a, .positional rest)

def required (name : String) (decode : Decoder α) : Record α := field [name] none none decode

/-- An `Option` field: none if the member is missing. -/
def optional (name : String) (decode : Decoder α) : Record (Option α) :=
  field [name] (some none) none (option decode)

/-- A field with `#[serde(default)]`. -/
def defaulted (name : String) (default : α) (decode : Decoder α) : Record α :=
  field [name] (some default) (some default) decode

/-- Decodes a record; an array must not have items left. -/
def record (fields : Record α) : Decoder α := fun v => do
  let start ← match v with
    | .object members => .ok (Fields.named members)
    | .array items => .ok (Fields.positional items)
    | _ => .error "invalid type, expected a record"
  let (a, rest) ← fields start
  match rest with
  | .positional (_ :: _) => .error "invalid length"
  | _ => .ok a

theorem record_bind_ok {β : Type} {x : Record α} {f : α → Record β} {start rest : Fields} {b : β} :
    (x >>= f) start = .ok (b, rest) ↔ ∃ a mid, x start = .ok (a, mid) ∧ f a mid = .ok (b, rest) := by
  change (x start >>= fun r => f r.1 r.2) = .ok (b, rest) ↔ _
  cases hx : x start with
  | error e => simp [bind, Except.bind]
  | ok r =>
    obtain ⟨a, mid⟩ := r
    simp only [bind, Except.bind, Except.ok.injEq, Prod.mk.injEq]
    constructor
    · intro h
      exact ⟨a, mid, ⟨rfl, rfl⟩, h⟩
    · rintro ⟨_, _, ⟨rfl, rfl⟩, h⟩
      exact h

theorem record_object_ok {fields : Record α} {members : List (String × Json)} {a : α}
    (h : record fields (.object members) = .ok a) :
    ∃ rest, fields (.named members) = .ok (a, rest) := by
  simp only [record, bind, Except.bind] at h
  split at h
  · cases h
  · next r hr =>
    refine ⟨r.2, ?_⟩
    split at h
    · cases h
    · obtain rfl := Except.ok.inj h
      exact hr

/-- A field that is found by its name leaves the others to be found. -/
theorem field_named_ok {names : List String} {absent short : Option α} {decode : Decoder α}
    {members : List (String × Json)} {a : α} {rest : Fields}
    (h : field names absent short decode (.named members) = .ok (a, rest)) :
    rest = .named members := by
  simp only [field] at h
  split at h
  · cases absent with
    | none => cases h
    | some b => exact (Prod.mk.inj (Except.ok.inj h)).2.symm
  · next m _ =>
    cases hd : decode m.2 with
    | error e => simp [hd, Except.map] at h
    | ok b =>
      rw [hd] at h
      exact (Prod.mk.inj (Except.ok.inj h)).2.symm
  · cases h

theorem head?_filter_of_lookup {name : String} {members : List (String × Json)} {v : Json}
    (h : members.lookup name = some v) :
    (members.filter fun m => [name].contains m.1).head? = some (name, v) := by
  induction members with
  | nil => cases h
  | cons m rest ih =>
    obtain ⟨k, w⟩ := m
    rw [List.lookup_cons] at h
    by_cases hname : name = k
    · subst hname
      simp_all
    · have hne : (name == k) = false := by simpa using hname
      rw [hne] at h
      rw [List.filter_cons_of_neg (by simp [eq_comm, hname])]
      exact ih h

/-- A member that is there is the only one of its name, and decoded. -/
theorem optional_named_ok {name : String} {decode : Decoder α} {members : List (String × Json)}
    {a : Option α} {rest : Fields} (h : optional name decode (.named members) = .ok (a, rest))
    {v : Json} (hv : members.lookup name = some v) : option decode v = .ok a := by
  have hfind : (members.filter fun m => [name].contains m.1).head? = some (name, v) :=
    head?_filter_of_lookup hv
  simp only [optional, field] at h
  split at h
  · next hnil =>
    rw [hnil] at hfind
    cases hfind
  · next m hm =>
    rw [hm] at hfind
    obtain rfl := Option.some.inj hfind
    cases hd : option decode v with
    | error e => simp [hd, Except.map] at h
    | ok b =>
      rw [hd] at h
      rw [(Prod.mk.inj (Except.ok.inj h)).1]
  · cases h

end Records

end Decode

end ClixonSwitch.Lib
