import Mathlib

/-!
Decoding of base64 as RFC 4648 §4 has it: groups of four characters, padded at the end,
with the bits that padding leaves over equal to zero.
-/
namespace ClixonSwitch.Lib.Base64

def alphabet : List Char :=
  "ABCDEFGHIJKLMNOPQRSTUVWXYZabcdefghijklmnopqrstuvwxyz0123456789+/".toList

def sextet (c : Char) : Option Nat := alphabet.idxOf? c

/-- The first `count` octets of a number of 24 bits. -/
def octetsOf (count n : Nat) : List UInt8 :=
  [UInt8.ofNat (n / 2 ^ 16), UInt8.ofNat (n / 2 ^ 8), UInt8.ofNat n].take count

/-- Sextets, most significant first; missing ones are zero. -/
def groupValue (w x y z : Nat) : Nat := w * 2 ^ 18 + x * 2 ^ 12 + y * 2 ^ 6 + z

/-- One group of characters without its padding. -/
def decodeGroup : List Char → Option (List UInt8)
  | [a, b] => do
    let n := groupValue (← sextet a) (← sextet b) 0 0
    if n % 2 ^ 16 = 0 then some (octetsOf 1 n) else none
  | [a, b, c] => do
    let n := groupValue (← sextet a) (← sextet b) (← sextet c) 0
    if n % 2 ^ 8 = 0 then some (octetsOf 2 n) else none
  | [a, b, c, d] => do
    some (octetsOf 3 (groupValue (← sextet a) (← sextet b) (← sextet c) (← sextet d)))
  | _ => none

def decode : List Char → Option (List UInt8)
  | [] => some []
  | a :: b :: c :: d :: rest =>
    if rest = [] ∧ c = '=' ∧ d = '=' then decodeGroup [a, b]
    else if rest = [] ∧ d = '=' then decodeGroup [a, b, c]
    else do
      let octets ← decodeGroup [a, b, c, d]
      let others ← decode rest
      some (octets ++ others)
  | _ => none

/-- The character of a sextet. -/
def symbol (n : Nat) : Char := alphabet.getD n '='

theorem sextet_symbol {n : Nat} (h : n < 64) : sextet (symbol n) = some n := by
  have hall : ∀ n < 64, sextet (symbol n) = some n := by decide +kernel
  exact hall n h

theorem symbol_ne_pad {n : Nat} (h : n < 64) : symbol n ≠ '=' := by
  have hall : ∀ n < 64, symbol n ≠ '=' := by decide +kernel
  exact hall n h

/-- The sextets of a number of 24 bits, as characters. -/
def symbols (n : Nat) : List Char :=
  [symbol (n / 2 ^ 18 % 64), symbol (n / 2 ^ 12 % 64), symbol (n / 2 ^ 6 % 64), symbol (n % 64)]

theorem groupValue_sextets {n : Nat} (h : n < 2 ^ 24) :
    groupValue (n / 2 ^ 18 % 64) (n / 2 ^ 12 % 64) (n / 2 ^ 6 % 64) (n % 64) = n := by
  unfold groupValue
  omega

section Groups
variable {n : Nat}

theorem decode_full (h : n < 2 ^ 24) (rest : List Char) :
    decode (symbols n ++ rest) = (decode rest).map (octetsOf 3 n ++ ·) := by
  have hpad : symbol (n % 64) ≠ '=' := symbol_ne_pad (Nat.mod_lt _ (by decide))
  have hgroup : decodeGroup (symbols n) = some (octetsOf 3 n) := by
    simp only [decodeGroup, symbols, sextet_symbol (Nat.mod_lt _ (by decide : 0 < 64)),
      Option.bind_eq_bind, Option.bind_some, groupValue_sextets h]
  simp only [symbols, List.cons_append, List.nil_append] at hgroup ⊢
  simp only [decode, hpad, and_false, if_false, hgroup, Option.bind_eq_bind, Option.bind_some]
  cases decode rest <;> rfl

theorem decodeGroup_two {a b : Char} {w x : Nat} (ha : sextet a = some w) (hb : sextet b = some x)
    (hvalue : groupValue w x 0 0 = n) (spare : n % 2 ^ 16 = 0) :
    decodeGroup [a, b] = some (octetsOf 1 n) := by
  have hgroup : decodeGroup [a, b] = (sextet a).bind fun w => (sextet b).bind fun x =>
      if groupValue w x 0 0 % 2 ^ 16 = 0 then some (octetsOf 1 (groupValue w x 0 0)) else none := rfl
  rw [hgroup, ha, hb, Option.bind_some, Option.bind_some, hvalue, if_pos spare]

theorem decodeGroup_three {a b c : Char} {w x y : Nat} (ha : sextet a = some w)
    (hb : sextet b = some x) (hc : sextet c = some y) (hvalue : groupValue w x y 0 = n)
    (spare : n % 2 ^ 8 = 0) : decodeGroup [a, b, c] = some (octetsOf 2 n) := by
  have hgroup : decodeGroup [a, b, c] =
      (sextet a).bind fun w => (sextet b).bind fun x => (sextet c).bind fun y =>
        if groupValue w x y 0 % 2 ^ 8 = 0 then some (octetsOf 2 (groupValue w x y 0)) else none := rfl
  rw [hgroup, ha, hb, hc, Option.bind_some, Option.bind_some, Option.bind_some, hvalue, if_pos spare]

/-- Two octets: the last sextet is padding. -/
theorem decode_two (h : n < 2 ^ 24) (spare : n % 2 ^ 8 = 0) :
    decode ((symbols n).take 3 ++ ['=']) = some (octetsOf 2 n) := by
  have hpad : symbol (n / 2 ^ 6 % 64) ≠ '=' := symbol_ne_pad (Nat.mod_lt _ (by decide))
  have hvalue : groupValue (n / 2 ^ 18 % 64) (n / 2 ^ 12 % 64) (n / 2 ^ 6 % 64) 0 = n := by
    unfold groupValue
    omega
  have hsextet (m : Nat) : sextet (symbol (m % 64)) = some (m % 64) :=
    sextet_symbol (Nat.mod_lt _ (by decide))
  simp only [symbols, List.take_succ_cons, List.take_zero, List.cons_append, List.nil_append,
    decode, hpad, and_true, and_false, if_true, if_false]
  exact decodeGroup_three (hsextet _) (hsextet _) (hsextet _) hvalue spare

/-- One octet: the last two sextets are padding. -/
theorem decode_one (h : n < 2 ^ 24) (spare : n % 2 ^ 16 = 0) :
    decode ((symbols n).take 2 ++ ['=', '=']) = some (octetsOf 1 n) := by
  have hvalue : groupValue (n / 2 ^ 18 % 64) (n / 2 ^ 12 % 64) 0 0 = n := by
    unfold groupValue
    omega
  have hsextet (m : Nat) : sextet (symbol (m % 64)) = some (m % 64) :=
    sextet_symbol (Nat.mod_lt _ (by decide))
  simp only [symbols, List.take_succ_cons, List.take_zero, List.cons_append, List.nil_append,
    decode, and_true, if_true]
  exact decodeGroup_two (hsextet _) (hsextet _) hvalue spare

end Groups

section Octets

/-- The number of up to three octets. -/
def octetsValue (a b c : UInt8) : Nat := a.toNat * 2 ^ 16 + b.toNat * 2 ^ 8 + c.toNat

theorem octetsValue_lt (a b c : UInt8) : octetsValue a b c < 2 ^ 24 := by
  have ha := a.toNat_lt
  have hb := b.toNat_lt
  have hc := c.toNat_lt
  unfold octetsValue
  omega

theorem octetsOf_octetsValue (a b c : UInt8) (count : Nat) :
    octetsOf count (octetsValue a b c) = [a, b, c].take count := by
  have ha := a.toNat_lt
  have hb := b.toNat_lt
  have hc := c.toNat_lt
  have hlow : ∀ (o : UInt8) (n : Nat), n % 256 = o.toNat → UInt8.ofNat n = o := by
    intro o n h
    rw [← UInt8.toNat_inj, UInt8.toNat_ofNat', h]
  unfold octetsOf octetsValue
  rw [hlow a, hlow b, hlow c]
  · omega
  · omega
  · omega

end Octets

end ClixonSwitch.Lib.Base64
