import Mathlib

/-!
Text as lists of characters: the classes, splits and number parsers of Rust's
`char`, `str` and `FromStr`. Numbers are read as `from_str_radix` of an unsigned
type reads them: an optional `+`, at least one digit, no overflow.
-/
namespace ClixonSwitch.Lib.Text

/-- `char::is_whitespace`: Unicode White_Space. -/
def isWhitespace (c : Char) : Bool :=
  let n := c.toNat
  (9 ≤ n && n ≤ 13) || n == 0x20 || n == 0x85 || n == 0xA0 || n == 0x1680 ||
    (0x2000 ≤ n && n ≤ 0x200A) || n == 0x2028 || n == 0x2029 || n == 0x202F || n == 0x205F ||
    n == 0x3000

/-- `char::is_control`: Unicode Cc. -/
def isControl (c : Char) : Bool :=
  let n := c.toNat
  n < 0x20 || (0x7F ≤ n && n ≤ 0x9F)

def isAsciiDigit (c : Char) : Bool := '0' ≤ c && c ≤ '9'

def isAsciiAlphanumeric (c : Char) : Bool :=
  isAsciiDigit c || ('a' ≤ c && c ≤ 'z') || ('A' ≤ c && c ≤ 'Z')

/-- `str::trim`. -/
def trim (text : List Char) : List Char :=
  ((text.dropWhile isWhitespace).reverse.dropWhile isWhitespace).reverse

theorem trim_of_not_whitespace {text : List Char} (h : ∀ c ∈ text, isWhitespace c = false) :
    trim text = text := by
  have hdrop : ∀ {cs : List Char}, (∀ c ∈ cs, isWhitespace c = false) →
      cs.dropWhile isWhitespace = cs := by
    intro cs hcs
    cases cs with
    | nil => rfl
    | cons c rest => rw [List.dropWhile_cons, hcs c (by simp), if_neg Bool.false_ne_true]
  rw [trim, hdrop h, hdrop (fun c hc => h c (List.mem_reverse.mp hc)), List.reverse_reverse]

/-- `str::split_once`: the parts around the first occurrence of `sep`. -/
def splitOnce (sep : List Char) : List Char → Option (List Char × List Char)
  | [] => if sep.isEmpty then some ([], []) else none
  | c :: rest =>
    if sep.isPrefixOf (c :: rest) then some ([], (c :: rest).drop sep.length)
    else (splitOnce sep rest).map fun parts => (c :: parts.1, parts.2)

section SplitOnce
variable {c : Char} {text rest : List Char}

theorem splitOnce_of_not_mem (h : c ∉ text) : splitOnce [c] text = none := by
  induction text with
  | nil => rfl
  | cons d text ih =>
    rw [List.mem_cons, not_or] at h
    simp [splitOnce, h.1, ih h.2]

/-- The first occurrence of a separator is where its first character is. -/
theorem splitOnce_append_of_not_mem (sep : List Char) (h : c ∉ text) :
    splitOnce (c :: sep) (text ++ (c :: sep) ++ rest) = some (text, rest) := by
  induction text with
  | nil => simp [splitOnce]
  | cons d text ih =>
    rw [List.mem_cons, not_or] at h
    rw [List.cons_append, List.cons_append, splitOnce, ih h.2]
    simp [h.1]

theorem splitOnce_append (h : c ∉ text) :
    splitOnce [c] (text ++ c :: rest) = some (text, rest) := by
  rw [← splitOnce_append_of_not_mem [] h, List.append_assoc, List.singleton_append]

end SplitOnce

section ReplaceAll

/-- `str::replace`, with `skip` characters of a match still to be passed over. -/
def replaceFrom (pattern replacement : List Char) : Nat → List Char → List Char
  | _, [] => []
  | skip + 1, _ :: rest => replaceFrom pattern replacement skip rest
  | 0, c :: rest =>
    if pattern.isPrefixOf (c :: rest) then
      replacement ++ replaceFrom pattern replacement (pattern.length - 1) rest
    else c :: replaceFrom pattern replacement 0 rest

/-- `str::replace` of a pattern that is not empty. -/
def replaceAll (pattern replacement : List Char) (text : List Char) : List Char :=
  replaceFrom pattern replacement 0 text

variable {c : Char} {pattern replacement text rest : List Char}

theorem replaceAll_append_of_not_mem (h : c ∉ text) (pattern replacement rest : List Char) :
    replaceAll (c :: pattern) replacement (text ++ rest) =
      text ++ replaceAll (c :: pattern) replacement rest := by
  induction text with
  | nil => rfl
  | cons d text ih =>
    rw [List.mem_cons, not_or] at h
    have hd : ¬ (c :: pattern).isPrefixOf (d :: (text ++ rest)) = true := by
      rw [List.isPrefixOf_iff_prefix, List.cons_prefix_cons]
      exact fun hp => h.1 hp.1
    rw [List.cons_append, replaceAll, replaceFrom, if_neg hd]
    exact congrArg (d :: ·) (ih h.2)

theorem replaceAll_of_not_mem (h : c ∉ text) (pattern replacement : List Char) :
    replaceAll (c :: pattern) replacement text = text := by
  simpa [replaceAll, replaceFrom] using replaceAll_append_of_not_mem h pattern replacement []

theorem replaceFrom_append (skipped : List Char) :
    replaceFrom pattern replacement skipped.length (skipped ++ rest) =
      replaceFrom pattern replacement 0 rest := by
  induction skipped with
  | nil => rfl
  | cons d skipped ih => exact ih

theorem replaceAll_append (h : pattern ≠ []) :
    replaceAll pattern replacement (pattern ++ rest) =
      replacement ++ replaceAll pattern replacement rest := by
  cases pattern with
  | nil => exact absurd rfl h
  | cons c tail =>
    have hmatch : (c :: tail).isPrefixOf (c :: (tail ++ rest)) = true := by
      rw [List.isPrefixOf_iff_prefix]
      exact ⟨rest, rfl⟩
    rw [List.cons_append, replaceAll, replaceFrom, if_pos hmatch, List.length_cons,
      Nat.add_sub_cancel, replaceFrom_append]
    rfl

/-- A single character is replaced wherever it stands. -/
theorem replaceAll_singleton (c : Char) (replacement text : List Char) :
    replaceAll [c] replacement text = text.flatMap fun d => if d = c then replacement else [d] := by
  induction text with
  | nil => rfl
  | cons d text ih =>
    rw [List.flatMap_cons, ← ih]
    split
    · next heq =>
      rw [heq]
      exact replaceAll_append (List.cons_ne_nil c [])
    · next hne =>
      have hmem : c ∉ [d] := by simpa using Ne.symm hne
      exact replaceAll_append_of_not_mem hmem [] replacement text

end ReplaceAll

/-- The first part of `str::rsplit`: what follows the last `sep`, or all of it. -/
def afterLast (sep : Char) (text : List Char) : List Char :=
  (text.reverse.takeWhile (· != sep)).reverse

theorem afterLast_of_not_mem {sep : Char} {text : List Char} (h : sep ∉ text) :
    afterLast sep text = text := by
  have hall : ∀ c ∈ text.reverse, (c != sep) = true := by
    intro c hc
    rw [bne_iff_ne]
    rintro rfl
    exact h (List.mem_reverse.mp hc)
  rw [afterLast, List.takeWhile_eq_self_iff.mpr hall, List.reverse_reverse]

/-- A text with a separator is cut at the last one. -/
theorem afterLast_of_mem {sep : Char} {text : List Char} (h : sep ∈ text) :
    ∃ front, text = front ++ sep :: afterLast sep text := by
  obtain ⟨rest, hrest⟩ : ∃ rest, text.reverse.dropWhile (· != sep) = sep :: rest := by
    cases hd : text.reverse.dropWhile (· != sep) with
    | nil =>
      have hall := List.dropWhile_eq_nil_iff.mp hd sep (List.mem_reverse.mpr h)
      simp at hall
    | cons c rest =>
      have hc := List.head_dropWhile_not (l := text.reverse) (· != sep) (by simp [hd])
      have hsep : c = sep := by simpa [hd] using hc
      exact ⟨rest, by rw [hsep]⟩
  refine ⟨rest.reverse, ?_⟩
  have hsplit := List.takeWhile_append_dropWhile (p := (· != sep)) (l := text.reverse)
  rw [hrest] at hsplit
  calc text = text.reverse.reverse := (List.reverse_reverse text).symm
    _ = (text.reverse.takeWhile (· != sep) ++ sep :: rest).reverse := by rw [hsplit]
    _ = rest.reverse ++ sep :: afterLast sep text := by simp [afterLast]

/-- `char::to_digit`. -/
def digitValue (radix : Nat) (c : Char) : Option Nat :=
  let value :=
    if isAsciiDigit c then c.toNat - '0'.toNat
    else if 'a' ≤ c && c ≤ 'z' then c.toNat - 'a'.toNat + 10
    else if 'A' ≤ c && c ≤ 'Z' then c.toNat - 'A'.toNat + 10
    else radix
  if value < radix then some value else none

/-- The number that digits denote, if all are digits. -/
def digits (radix : Nat) (text : List Char) : Option Nat :=
  text.foldlM (fun n c => (digitValue radix c).map fun d => n * radix + d) 0

def stripPlus : List Char → List Char
  | '+' :: rest => rest
  | text => text

/-- `from_str_radix` of an unsigned type with values below `bound`. -/
def parseUnsigned (radix bound : Nat) (text : List Char) : Option Nat :=
  if (stripPlus text).isEmpty then none else (digits radix (stripPlus text)).filter (· < bound)

/-- One octet of an IPv4 address: one to three digits without leading zeros. -/
def parseOctet (text : List Char) : Option Nat :=
  if text.isEmpty || text.length > 3 || (text.length > 1 && text.head? == some '0') then none
  else (digits 10 text).filter (· < 256)

/-- `Ipv4Addr`'s `FromStr`: the octets, most significant first. -/
def parseIpv4 (text : List Char) : Option (List Nat) :=
  let parts := text.splitOn '.'
  if parts.length = 4 then parts.mapM parseOctet else none

end ClixonSwitch.Lib.Text
