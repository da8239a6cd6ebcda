import ClixonSwitch.Lib.Overwrite
import ClixonSwitch.Lib.Text

/-!
Numbers and ranges of numbers as text, "1,4-6", and assignments "7:1,4-6" of a value
to them. Assignments are read one after the other into a table, where a later one
overwrites an earlier one.
-/
namespace ClixonSwitch.Lib.NumberList
open Lib.Text

section Numbers

theorem isAsciiDigit_eq (c : Char) : isAsciiDigit c = c.isDigit := by
  simp only [isAsciiDigit, Char.isDigit, Char.le_def]

theorem digitValue_of_isDigit {c : Char} (h : c.isDigit = true) :
    digitValue 10 c = some (c.toNat - '0'.toNat) := by
  have hlow : '0'.toNat ≤ c.toNat := (Char.isDigit_iff_toNat.mp h).1
  have hhigh : c.toNat ≤ '9'.toNat := (Char.isDigit_iff_toNat.mp h).2
  have hzero : '0'.toNat = 48 := rfl
  have hnine : '9'.toNat = 57 := rfl
  simp only [digitValue, isAsciiDigit_eq, h, if_true]
  exact if_pos (by omega)

theorem digits_of_isDigit {text : List Char} (h : ∀ c ∈ text, c.isDigit = true) :
    digits 10 text = some (Nat.ofDigitChars 10 text 0) := by
  have general : ∀ (text : List Char) (n : Nat), (∀ c ∈ text, c.isDigit = true) →
      text.foldlM (fun n c => (digitValue 10 c).map fun d => n * 10 + d) n =
        some (Nat.ofDigitChars 10 text n) := by
    intro text
    induction text with
    | nil => intro n _; rfl
    | cons c rest ih =>
      intro n hdigits
      rw [List.foldlM_cons, digitValue_of_isDigit (hdigits c (by simp)), Nat.ofDigitChars_cons,
        Nat.mul_comm 10 n]
      exact ih _ fun d hd => hdigits d (by simp [hd])
  exact general text 0 h

/-- A number is read back from its decimal digits. -/
theorem digits_toDigits (n : Nat) : digits 10 (Nat.toDigits 10 n) = some n := by
  rw [digits_of_isDigit fun c hc => Nat.isDigit_of_mem_toDigits (by decide) (by decide) hc,
    Nat.ofDigitChars_ten_toDigits]

theorem not_mem_toDigits {c : Char} (h : c.isDigit = false) (n : Nat) :
    c ∉ Nat.toDigits 10 n := by
  intro hc
  rw [Nat.isDigit_of_mem_toDigits (by decide) (by decide) hc] at h
  cases h

theorem stripPlus_of_head {text : List Char} (h : text.head? ≠ some '+') :
    stripPlus text = text := by
  unfold stripPlus
  split
  · exact absurd rfl h
  · rfl

theorem parseUnsigned_of_isDigit {text : List Char} (h : ∀ c ∈ text, c.isDigit = true)
    (bound : Nat) :
    parseUnsigned 10 bound text =
      if text = [] then none
      else (some (Nat.ofDigitChars 10 text 0)).filter (· < bound) := by
  have hplus : text.head? ≠ some '+' := by
    intro hhead
    have hdigit := h '+' (List.mem_of_head? hhead)
    cases hdigit
  rw [parseUnsigned, stripPlus_of_head hplus, digits_of_isDigit h]
  simp only [List.isEmpty_iff]

theorem parseUnsigned_toDigits {n bound : Nat} (h : n < bound) :
    parseUnsigned 10 bound (Nat.toDigits 10 n) = some n := by
  rw [parseUnsigned_of_isDigit
      (fun c hc => Nat.isDigit_of_mem_toDigits (by decide) (by decide) hc),
    if_neg Nat.toDigits_ne_nil, Nat.ofDigitChars_ten_toDigits]
  simp [h]

theorem digitValue_of_digits {radix : Nat} {text : List Char} {n : Nat}
    (h : digits radix text = some n) : ∀ c ∈ text, (digitValue radix c).isSome = true := by
  have general : ∀ (text : List Char) (start n : Nat),
      text.foldlM (fun n c => (digitValue radix c).map fun d => n * radix + d) start = some n →
      ∀ c ∈ text, (digitValue radix c).isSome = true := by
    intro text
    induction text with
    | nil => intro start n _ c hc; cases hc
    | cons d rest ih =>
      intro start n h c hc
      rw [List.foldlM_cons, Option.bind_eq_bind, Option.bind_eq_some_iff] at h
      obtain ⟨m, hm, hrest⟩ := h
      obtain ⟨v, hv, -⟩ := Option.map_eq_some_iff.mp hm
      rcases List.mem_cons.mp hc with rfl | hc
      · rw [hv]
        rfl
      · exact ih m n hrest c hc
  exact general text 0 n h

/-- A number is written with digits and the optional sign only. -/
theorem not_mem_of_parseUnsigned {bound : Nat} {text : List Char} {c : Char}
    (h : (parseUnsigned 10 bound text).isSome = true) (hdigit : digitValue 10 c = none)
    (hplus : c ≠ '+') : c ∉ text := by
  obtain ⟨n, hn⟩ := Option.isSome_iff_exists.mp h
  have hstripped : c ∉ stripPlus text := by
    intro hin
    rw [parseUnsigned] at hn
    split at hn
    · cases hn
    · obtain ⟨hdigits, -⟩ := Option.filter_eq_some_iff.mp hn
      have hsome := digitValue_of_digits hdigits c hin
      rw [hdigit] at hsome
      cases hsome
  cases text with
  | nil => simp
  | cons d rest =>
    by_cases hd : d = '+'
    · subst hd
      have hrest : c ∉ rest := hstripped
      simp [hplus, hrest]
    · rwa [stripPlus_of_head (by simpa using hd)] at hstripped

theorem isDigit_of_digitValue {c : Char} (h : (digitValue 10 c).isSome = true) :
    c.isDigit = true := by
  rw [← isAsciiDigit_eq]
  by_contra hc
  have hnone : digitValue 10 c = none := by
    simp only [digitValue, hc, if_false]
    refine if_neg ?_
    split
    · omega
    · split <;> omega
  rw [hnone] at h
  cases h

/-- The numbers that are read: digits, and at most one sign before them. -/
theorem parseUnsigned_isSome_iff (bound : Nat) (text : List Char) :
    (parseUnsigned 10 bound text).isSome = true ↔
      stripPlus text ≠ [] ∧ (∀ c ∈ stripPlus text, c.isDigit = true) ∧
        Nat.ofDigitChars 10 (stripPlus text) 0 < bound := by
  unfold parseUnsigned
  constructor
  · intro h
    obtain ⟨n, hn⟩ := Option.isSome_iff_exists.mp h
    obtain ⟨hne, hfilter⟩ := Option.ite_none_left_eq_some.mp hn
    obtain ⟨hdigits, hlt⟩ := Option.filter_eq_some_iff.mp hfilter
    have hall : ∀ c ∈ stripPlus text, c.isDigit = true := fun c hc =>
      isDigit_of_digitValue (digitValue_of_digits hdigits c hc)
    rw [digits_of_isDigit hall] at hdigits
    obtain rfl := Option.some.inj hdigits
    exact ⟨by simpa using hne, hall, by simpa using hlt⟩
  · rintro ⟨hne, hall, hlt⟩
    rw [digits_of_isDigit hall]
    simp [hne, hlt]

end Numbers

section Ranges

/-- Both bounds of a range of numbers; of a single number they are equal. -/
abbrev Range := Nat × Nat

def Range.covers (r : Range) (n : Nat) : Prop := r.1 ≤ n ∧ n ≤ r.2

instance (r : Range) (n : Nat) : Decidable (r.covers n) := by
  unfold Range.covers
  infer_instance

/-- A number, or both bounds with `sep` in between. -/
def rangeText (sep : List Char) (r : Range) : List Char :=
  if r.1 = r.2 then Nat.toDigits 10 r.1 else Nat.toDigits 10 r.1 ++ sep ++ Nat.toDigits 10 r.2

def readRange (text : List Char) : Option Range :=
  match splitOnce ['-'] text with
  | none => (digits 10 text).map fun n => (n, n)
  | some (low, high) => do
    let low ← digits 10 low
    let high ← digits 10 high
    pure (low, high)

theorem readRange_rangeText (r : Range) : readRange (rangeText ['-'] r) = some r := by
  have hdash : ∀ n, '-' ∉ Nat.toDigits 10 n := not_mem_toDigits rfl
  obtain ⟨low, high⟩ := r
  unfold rangeText
  split
  · next heq =>
    cases heq
    rw [readRange, splitOnce_of_not_mem (hdash low), digits_toDigits]
    rfl
  · rw [readRange, List.append_assoc, List.singleton_append, splitOnce_append (hdash low)]
    simp [digits_toDigits]

theorem not_mem_rangeText {c : Char} (digit : c.isDigit = false) {sep : List Char} (h : c ∉ sep)
    (r : Range) : c ∉ rangeText sep r := by
  unfold rangeText
  split
  · exact not_mem_toDigits digit r.1
  · simp [not_mem_toDigits digit, h]

/-- Replacing the separator of a range. -/
theorem replaceAll_rangeText (r : Range) :
    replaceAll ['.', '.'] ['-'] (rangeText ['.', '.'] r) = rangeText ['-'] r := by
  have hdot : ∀ n, '.' ∉ Nat.toDigits 10 n := not_mem_toDigits rfl
  unfold rangeText
  split
  · exact replaceAll_of_not_mem (hdot r.1) _ _
  · rw [List.append_assoc, List.append_assoc, replaceAll_append_of_not_mem (hdot r.1),
      replaceAll_append (by simp), replaceAll_of_not_mem (hdot r.2)]

end Ranges

section Assignments

/-- A value, and the ranges it is assigned to. -/
abbrev Assignment := Nat × List Range

def Assignment.covers (a : Assignment) (n : Nat) : Prop := ∃ r ∈ a.2, r.covers n

instance (a : Assignment) (n : Nat) : Decidable (a.covers n) := by
  unfold Assignment.covers
  infer_instance

def assignmentText (a : Assignment) : List Char :=
  Nat.toDigits 10 a.1 ++ [':'] ++ [','].intercalate (a.2.map (rangeText ['-']))

def readAssignment (text : List Char) : Option Assignment := do
  let (value, ranges) ← splitOnce [':'] text
  let value ← digits 10 value
  let ranges ← (ranges.splitOn ',').mapM readRange
  pure (value, ranges)

theorem mapM_readRange (ranges : List Range) :
    (ranges.map (rangeText ['-'])).mapM readRange = some ranges := by
  induction ranges with
  | nil => rfl
  | cons r rest ih =>
    rw [List.map_cons, List.mapM_cons, readRange_rangeText, ih]
    rfl

/-- An assignment to at least one range is read back from its text. -/
theorem readAssignment_assignmentText {a : Assignment} (h : a.2 ≠ []) :
    readAssignment (assignmentText a) = some a := by
  have hsplit : ([','].intercalate (a.2.map (rangeText ['-']))).splitOn ',' =
      a.2.map (rangeText ['-']) := by
    refine List.splitOn_intercalate ',' (fun text htext => ?_) (by simpa using h)
    obtain ⟨r, -, rfl⟩ := List.mem_map.mp htext
    exact not_mem_rangeText rfl (by simp) r
  have hcolon : ':' ∉ Nat.toDigits 10 a.1 := not_mem_toDigits rfl a.1
  rw [assignmentText, List.append_assoc, List.singleton_append, readAssignment,
    splitOnce_append hcolon]
  simp only [bind, Option.bind, digits_toDigits, hsplit, mapM_readRange]
  rfl

/-- A table after an assignment. -/
def assign (a : Assignment) (table : Nat → Nat) (n : Nat) : Nat :=
  if a.covers n then a.1 else table n

theorem assign_overwrites :
    Overwrites assign (fun a n => decide (a.covers n)) (fun a _ => a.1) where
  frame _ _ _ h := if_neg (of_decide_eq_false h)
  wrote _ _ _ h := if_pos (of_decide_eq_true h)

/-- A table after the assignments of a list, left to right. -/
def assignAll (table : Nat → Nat) (as : List Assignment) : Nat → Nat :=
  as.foldl (fun table a => assign a table) table

/-- A number has the value of an assignment that covers it, or keeps its own. -/
theorem assignAll_cases (table : Nat → Nat) (as : List Assignment) (n : Nat) :
    (∃ a ∈ as, a.covers n ∧ assignAll table as n = a.1) ∨
      (∀ a ∈ as, ¬ a.covers n) ∧ assignAll table as n = table n := by
  rw [assignAll, assign_overwrites.foldl_eq]
  cases h : lastTouch (fun (a : Assignment) n => decide (a.covers n)) as n with
  | none => exact Or.inr ⟨fun a ha => of_decide_eq_false (lastTouch_eq_none.mp h a ha), rfl⟩
  | some a =>
    obtain ⟨hin, htouch⟩ := lastTouch_mem h
    exact Or.inl ⟨a, hin, of_decide_eq_true htouch, rfl⟩

end Assignments

end ClixonSwitch.Lib.NumberList
