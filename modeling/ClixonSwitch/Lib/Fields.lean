import ClixonSwitch.Lib.Text

/-!
Texts of fields: words between blanks, lines of a key and a value, and texts that occur in
others.
-/
namespace ClixonSwitch.Lib.Fields
open Lib.Text

section Words

/-- The words between characters that separate, as `str::split_whitespace` and the shell's
word splitting cut them. -/
def fields (sep : Char → Bool) (text : List Char) : List (List Char) :=
  (text.splitOnP sep).filter (!·.isEmpty)

variable {sep : Char → Bool}

theorem fields_nil (sep : Char → Bool) : fields sep [] = [] := by
  rw [fields, List.splitOnP_nil]
  rfl

theorem fields_word {word : List Char} (plain : ∀ c ∈ word, sep c = false) (nonempty : word ≠ []) :
    fields sep word = [word] := by
  rw [fields, List.splitOnP_eq_singleton plain]
  simp [nonempty]

theorem fields_cons {word rest : List Char} {c : Char} (plain : ∀ c ∈ word, sep c = false)
    (nonempty : word ≠ []) (blank : sep c = true) :
    fields sep (word ++ c :: rest) = word :: fields sep rest := by
  rw [fields, List.splitOnP_append_cons_of_forall_mem plain c blank]
  simp [fields, nonempty]

/-- Words joined by a blank are cut into the words. -/
theorem fields_intercalate {c : Char} {ws : List (List Char)} (blank : sep c = true)
    (plain : ∀ w ∈ ws, w ≠ [] ∧ ∀ d ∈ w, sep d = false) :
    fields sep ([c].intercalate ws) = ws := by
  induction ws with
  | nil => exact fields_nil sep
  | cons w rest ih =>
    obtain ⟨hne, hw⟩ := plain w List.mem_cons_self
    have hrest := ih fun w' hw' => plain w' (List.mem_cons_of_mem w hw')
    cases rest with
    | nil =>
      rw [List.intercalate_singleton]
      exact fields_word hw hne
    | cons next rest =>
      rw [List.intercalate_cons_cons, List.append_assoc, List.singleton_append,
        fields_cons hw hne blank, hrest]

end Words

section Entries

/-- A line of a key and a value around the first `sep`, both without the blanks around. -/
def entry (sep : Char) (line : List Char) : Option (List Char × List Char) :=
  (splitOnce [sep] line).map fun parts => (trim parts.1, trim parts.2)

/-- A key that stands once gives one value. -/
theorem filterMap_of_nodup {α β κ : Type} [DecidableEq κ] {key : α → κ} {f : α → β} {l : List α}
    (nodup : (l.map key).Nodup) {a : α} (ha : a ∈ l) :
    l.filterMap (fun x => if key x = key a then some (f x) else none) = [f a] := by
  induction l with
  | nil => cases ha
  | cons x rest ih =>
    obtain ⟨hnot, hrest⟩ := List.nodup_cons.mp nodup
    rcases List.mem_cons.mp ha with rfl | hin
    · have hnone : rest.filterMap (fun x => if key x = key a then some (f x) else none) = [] := by
        refine List.filterMap_eq_nil_iff.mpr fun x hx => if_neg fun heq => hnot ?_
        exact heq ▸ List.mem_map_of_mem hx
      rw [List.filterMap_cons, if_pos rfl, hnone]
    · have hne : key x ≠ key a := fun heq => hnot (heq ▸ List.mem_map_of_mem hin)
      rw [List.filterMap_cons, if_neg hne]
      exact ih hrest hin

end Entries

theorem afterLast_append_cons {sep : Char} {front text : List Char} (h : sep ∉ text) :
    afterLast sep (front ++ sep :: text) = text := by
  have hall : ∀ c ∈ text.reverse, (c != sep) = true := by
    intro c hc
    rw [bne_iff_ne]
    rintro rfl
    exact h (List.mem_reverse.mp hc)
  rw [afterLast, List.reverse_append, List.reverse_cons, List.append_assoc, List.singleton_append,
    List.takeWhile_append_of_pos hall, List.takeWhile_cons_of_neg (by simp), List.append_nil,
    List.reverse_reverse]

section Infixes
variable {w x y : List Char} {c : Char}

/-- Whether a text occurs in another. -/
def occurs (w text : List Char) : Bool := (splitOnce w text).isSome

theorem splitOnce_eq_some {sep text before after : List Char}
    (h : splitOnce sep text = some (before, after)) : text = before ++ sep ++ after := by
  induction text generalizing before with
  | nil =>
    rw [splitOnce] at h
    split at h
    · next hempty =>
      rw [List.isEmpty_iff.mp hempty]
      cases h
      rfl
    · cases h
  | cons c rest ih =>
    rw [splitOnce] at h
    split at h
    · next hstart =>
      obtain ⟨after', heq⟩ := List.isPrefixOf_iff_prefix.mp hstart
      cases h
      rw [List.nil_append, ← heq, List.drop_left]
    · obtain ⟨parts, hparts, heq⟩ := Option.map_eq_some_iff.mp h
      cases heq
      rw [ih hparts]
      rfl

theorem splitOnce_eq_none {sep text : List Char} (h : splitOnce sep text = none) :
    ¬ sep <:+: text := by
  induction text with
  | nil =>
    rw [splitOnce] at h
    split at h
    · cases h
    · next hempty =>
      rw [List.infix_nil]
      simpa using hempty
  | cons c rest ih =>
    rw [splitOnce] at h
    split at h
    · cases h
    · next hstart =>
      rw [List.infix_cons_iff, not_or]
      exact ⟨fun hp => hstart (List.isPrefixOf_iff_prefix.mpr hp),
        ih (Option.map_eq_none_iff.mp h)⟩

/-- A text that has `c` once occurs in another that has it once only where the two meet. -/
theorem splitOnce_around {u v before after : List Char} (hx : c ∉ x) (hy : c ∉ y) :
    splitOnce (u ++ c :: v) (x ++ c :: y) = some (before, after) ↔
      x = before ++ u ∧ y = v ++ after := by
  have hmeets : ∀ {before after : List Char}, x ++ c :: y = before ++ (u ++ c :: v) ++ after →
      x = before ++ u ∧ y = v ++ after := by
    intro before after heq
    rw [← List.append_assoc, List.append_assoc _ _ after, List.cons_append] at heq
    obtain ⟨hleft, -, hright⟩ := (List.append_cons_inj_of_notMem hx hy).mp heq
    exact ⟨hleft, hright⟩
  constructor
  · intro h
    exact hmeets (splitOnce_eq_some h)
  · rintro ⟨rfl, rfl⟩
    cases h : splitOnce (u ++ c :: v) (before ++ u ++ c :: (v ++ after)) with
    | none => exact absurd ⟨before, after, by simp⟩ (splitOnce_eq_none h)
    | some parts =>
      obtain ⟨before', after'⟩ := parts
      obtain ⟨hbefore, hafter⟩ := hmeets (splitOnce_eq_some h)
      rw [List.append_cancel_right hbefore, List.append_cancel_left hafter]

end Infixes

end ClixonSwitch.Lib.Fields
