import ClixonSwitch.Lib.Text

/-!
Files of lines, and lines of words. A text written line by line has the lines that were
written, each cut where it holds a line break of its own; a line written word by word
has the words that were written if none holds a blank.
-/
namespace ClixonSwitch.Lib.Lines

/-- The lines that a text makes once it is written as a line. -/
def pieces (line : String) : List String := (line.toList.splitOn '\n').map String.ofList

/-- The lines of a text; nothing follows the line break that ends the last one. -/
def lines (text : String) : List String :=
  if (pieces text).getLast? = some "" then (pieces text).dropLast else pieces text

def words (line : String) : List String := (line.toList.splitOn ' ').map String.ofList

/-- The text of a file with these lines. -/
def unlines (ls : List String) : String := String.join (ls.map (· ++ "\n"))

/-- The text is one word of one line. -/
def IsWord (text : String) : Prop := ' ' ∉ text.toList ∧ '\n' ∉ text.toList

instance (text : String) : Decidable (IsWord text) :=
  inferInstanceAs (Decidable (' ' ∉ text.toList ∧ '\n' ∉ text.toList))

def unwords (ws : List String) : String := String.intercalate " " ws

section Lines

theorem splitOn_unlines (ls : List String) :
    (unlines ls).toList.splitOn '\n' = ls.flatMap (fun l => l.toList.splitOn '\n') ++ [[]] := by
  induction ls with
  | nil => rfl
  | cons l rest ih =>
    have htext : (unlines (l :: rest)).toList = l.toList ++ '\n' :: (unlines rest).toList := by
      simp [unlines]
    rw [htext, List.splitOn_append_cons_self, ih, List.flatMap_cons, List.append_assoc]

theorem lines_unlines (ls : List String) : lines (unlines ls) = ls.flatMap pieces := by
  have hpieces : pieces (unlines ls) = ls.flatMap pieces ++ [""] := by
    rw [pieces, splitOn_unlines, List.map_append, List.map_flatMap]
    rfl
  rw [lines, hpieces, if_pos (by simp), List.dropLast_concat]

theorem pieces_of_not_mem {line : String} (h : '\n' ∉ line.toList) : pieces line = [line] := by
  rw [pieces, List.splitOn_eq_singleton h, List.map_singleton, String.ofList_toList]

theorem flatMap_pieces {ls : List String} (h : ∀ l ∈ ls, '\n' ∉ l.toList) :
    ls.flatMap pieces = ls := by
  induction ls with
  | nil => rfl
  | cons l rest ih =>
    rw [List.flatMap_cons, pieces_of_not_mem (h l List.mem_cons_self),
      ih fun l' hl' => h l' (List.mem_cons_of_mem l hl')]
    rfl

end Lines

section Words

theorem words_unwords {ws : List String} (plain : ∀ w ∈ ws, IsWord w) (nonempty : ws ≠ []) :
    words (unwords ws) = ws := by
  have hblank : ∀ l ∈ ws.map String.toList, ' ' ∉ l := by
    intro l hl
    obtain ⟨w, hw, rfl⟩ := List.mem_map.mp hl
    exact (plain w hw).1
  have htext : (unwords ws).toList = [' '].intercalate (ws.map String.toList) :=
    String.toList_intercalate
  rw [words, htext, List.splitOn_intercalate ' ' hblank (by simpa using nonempty), List.map_map]
  simp

/-- A character between parts is in one of them or separates them. -/
theorem mem_intercalate {c sep : Char} (hsep : c ≠ sep) (parts : List (List Char)) :
    c ∈ [sep].intercalate parts ↔ ∃ part ∈ parts, c ∈ part := by
  induction parts with
  | nil => simp
  | cons part rest ih =>
    cases rest with
    | nil => simp
    | cons next rest =>
      rw [List.intercalate_cons_cons]
      simp only [List.mem_append, List.mem_cons, hsep, List.not_mem_nil, or_false, ih,
        exists_eq_or_imp]

theorem not_mem_intercalate {c sep : Char} {parts : List (List Char)} (hsep : c ≠ sep)
    (h : ∀ part ∈ parts, c ∉ part) : c ∉ [sep].intercalate parts := by
  rw [mem_intercalate hsep]
  rintro ⟨part, hpart, hc⟩
  exact h part hpart hc

/-- A line of words is one line. -/
theorem newline_not_mem_unwords {ws : List String} (plain : ∀ w ∈ ws, IsWord w) :
    '\n' ∉ (unwords ws).toList := by
  rw [unwords, String.toList_intercalate]
  refine not_mem_intercalate (by decide) fun part hpart => ?_
  obtain ⟨w, hw, rfl⟩ := List.mem_map.mp hpart
  exact (plain w hw).2

theorem IsWord.append {a b : String} (ha : IsWord a) (hb : IsWord b) : IsWord (a ++ b) := by
  simp only [IsWord, String.toList_append, List.mem_append, not_or] at ha hb ⊢
  exact ⟨⟨ha.1, hb.1⟩, ha.2, hb.2⟩

theorem isWord_of_all {text : String} {p : Char → Bool} (h : text.toList.all p = true)
    (blank : p ' ' = false) (newline : p '\n' = false) : IsWord text := by
  have hall := List.all_eq_true.mp h
  constructor <;> intro hin <;> have hp := hall _ hin <;> simp_all

end Words

end ClixonSwitch.Lib.Lines
