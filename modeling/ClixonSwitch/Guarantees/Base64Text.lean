import ClixonSwitch.Lib.Base64
import ClixonSwitch.Source.SwitchModel.Mib

/-!
# The base64 of binary MIB values

Port lists, bridge ids and port ids are octets in base64. The text of any octets has the
form that RFC 4648 gives it and is decoded to them.
-/
namespace ClixonSwitch.Guarantees
open Lib Source.SwitchModel.Mib

section Encoding

theorem packed_toNat (a b c : UInt8) :
    (a.toUInt32 <<< 16 ||| b.toUInt32 <<< 8 ||| c.toUInt32).toNat = Base64.octetsValue a b c := by
  have ha := a.toNat_lt
  have hb := b.toNat_lt
  have hc := c.toNat_lt
  have hhigh : (a.toUInt32 <<< 16).toNat = a.toNat <<< 16 := by
    rw [UInt32.toNat_shiftLeft, Nat.mod_eq_of_lt]
    · rfl
    · rw [Nat.shiftLeft_eq]
      show a.toNat * 2 ^ 16 < _
      omega
  have hmid : (b.toUInt32 <<< 8).toNat = b.toNat <<< 8 := by
    rw [UInt32.toNat_shiftLeft, Nat.mod_eq_of_lt]
    · rfl
    · rw [Nat.shiftLeft_eq]
      show b.toNat * 2 ^ 8 < _
      omega
  rw [UInt32.toNat_or, UInt32.toNat_or, hhigh, hmid, UInt8.toNat_toUInt32, Nat.or_assoc,
    ← Nat.shiftLeft_add_eq_or_of_lt hc, ← Nat.shiftLeft_add_eq_or_of_lt, Nat.shiftLeft_eq,
    Nat.shiftLeft_eq, Base64.octetsValue, Nat.add_assoc]
  rw [Nat.shiftLeft_eq]
  omega

theorem sextet_toNat (n : UInt32) {k : Nat} (h : k < 32) :
    ((n >>> UInt32.ofNat k) &&& 0x3f).toNat = n.toNat / 2 ^ k % 64 := by
  have hk : k % 2 ^ 32 = k := Nat.mod_eq_of_lt (by omega)
  rw [UInt32.toNat_and, UInt32.toNat_shiftRight, UInt32.toNat_ofNat', hk, Nat.mod_eq_of_lt h,
    Nat.shiftRight_eq_div_pow]
  exact Nat.and_two_pow_sub_one_eq_mod _ 6

/-- The characters of a group: sextets, and padding for the octets that are missing. -/
theorem base64Group_eq (chunk : List UInt8) : base64Group chunk =
    (Base64.symbols (Base64.octetsValue (chunk.getD 0 0) (chunk.getD 1 0) (chunk.getD 2 0))).take
      (chunk.length + 1) ++ List.replicate (3 - chunk.length) '=' := by
  have hchar : ∀ k < 32, base64Chars.getD
      ((((chunk.getD 0 0).toUInt32 <<< 16 ||| (chunk.getD 1 0).toUInt32 <<< 8 |||
        (chunk.getD 2 0).toUInt32) >>> UInt32.ofNat k) &&& 0x3f).toNat '=' =
      Base64.symbol (Base64.octetsValue (chunk.getD 0 0) (chunk.getD 1 0) (chunk.getD 2 0) /
        2 ^ k % 64) := by
    intro k hk
    rw [sextet_toNat _ hk, packed_toNat]
    rfl
  have hrange : List.range 4 = [0, 1, 2, 3] := rfl
  simp only [base64Group, hrange, List.map_cons, List.map_nil, hchar 18 (by decide),
    hchar 12 (by decide), hchar 6 (by decide), hchar 0 (by decide), Nat.mul_zero, Nat.sub_zero,
    Nat.mul_one, Nat.reduceMul, Nat.reduceSub, Nat.pow_zero, Nat.div_one]
  rcases chunk with - | ⟨a, - | ⟨b, - | ⟨c, rest⟩⟩⟩
  · rfl
  · rfl
  · rfl
  · simp [Base64.symbols]

theorem base64Group_full (a b c : UInt8) :
    base64Group [a, b, c] = Base64.symbols (Base64.octetsValue a b c) := by
  rw [base64Group_eq]
  rfl

/-- What is written is decoded to the octets. -/
theorem decode_base64Text (octets : List UInt8) :
    Base64.decode (base64Text octets) = some octets := by
  induction octets using base64Text.induct with
  | case1 => rfl
  | case2 a b c rest ih =>
    rw [base64Text, base64Group_full, Base64.decode_full (Base64.octetsValue_lt a b c), ih,
      Base64.octetsOf_octetsValue]
    rfl
  | case3 chunk hne hshort =>
    rcases chunk with - | ⟨a, - | ⟨b, - | ⟨c, rest⟩⟩⟩
    · exact absurd rfl hne
    · have hspare : Base64.octetsValue a 0 0 % 2 ^ 16 = 0 := by simp [Base64.octetsValue]
      rw [base64Text, base64Group_eq]
      · exact (Base64.decode_one (Base64.octetsValue_lt a 0 0) hspare).trans
          (congrArg some (Base64.octetsOf_octetsValue a 0 0 1))
      all_goals nofun
    · have hspare : Base64.octetsValue a b 0 % 2 ^ 8 = 0 := by
        unfold Base64.octetsValue
        have hzero : (0 : UInt8).toNat = 0 := rfl
        omega
      rw [base64Text, base64Group_eq]
      · exact (Base64.decode_two (Base64.octetsValue_lt a b 0) hspare).trans
          (congrArg some (Base64.octetsOf_octetsValue a b 0 2))
      all_goals nofun
    · exact absurd rfl (hshort a b c rest)

end Encoding

section Form

/-- Characters of the alphabet, then the padding of `count` octets. -/
structure PaddedText (count : Nat) (text : List Char) : Prop where
  length : text.length = 4 * ((count + 2) / 3)
  padded : ∃ body, text = body ++ List.replicate ((3 - count % 3) % 3) '=' ∧
    ∀ c ∈ body, c ∈ Base64.alphabet

theorem symbols_alphabet (n : Nat) : ∀ c ∈ Base64.symbols n, c ∈ Base64.alphabet := by
  have hsymbol : ∀ k, Base64.symbol (k % 64) ∈ Base64.alphabet := by
    intro k
    have hall : ∀ k < 64, Base64.symbol k ∈ Base64.alphabet := by decide +kernel
    exact hall (k % 64) (Nat.mod_lt k (by decide))
  intro c hc
  simp only [Base64.symbols, List.mem_cons, List.not_mem_nil, or_false] at hc
  rcases hc with rfl | rfl | rfl | rfl
  · exact hsymbol _
  · exact hsymbol _
  · exact hsymbol _
  · exact hsymbol _

/-- The last group, of one or two octets. -/
theorem base64Group_padded {chunk : List UInt8} (nonempty : chunk ≠ []) (short : chunk.length < 3) :
    PaddedText chunk.length (base64Group chunk) := by
  have hpos := List.length_pos_iff.mpr nonempty
  have hpad : (3 - chunk.length % 3) % 3 = 3 - chunk.length := by omega
  rw [base64Group_eq]
  refine ⟨?_, _, by rw [hpad], fun c hc => symbols_alphabet _ c (List.mem_of_mem_take hc)⟩
  simp only [List.length_append, List.length_take, List.length_replicate, Base64.symbols,
    List.length_cons, List.length_nil]
  omega

theorem PaddedText.full {count n : Nat} {text : List Char} (h : PaddedText count text) :
    PaddedText (count + 3) (Base64.symbols n ++ text) := by
  obtain ⟨body, htext, halphabet⟩ := h.padded
  refine ⟨?_, Base64.symbols n ++ body, ?_, fun c hc => ?_⟩
  · rw [List.length_append, h.length]
    simp only [Base64.symbols, List.length_cons, List.length_nil]
    omega
  · rw [Nat.add_mod_right, htext, List.append_assoc]
  · rcases List.mem_append.mp hc with hc | hc
    · exact symbols_alphabet n c hc
    · exact halphabet c hc

theorem base64Text_padded (octets : List UInt8) :
    PaddedText octets.length (base64Text octets) := by
  induction octets using base64Text.induct with
  | case1 => exact ⟨rfl, [], rfl, nofun⟩
  | case2 a b c rest ih =>
    rw [base64Text, base64Group_full]
    exact ih.full
  | case3 chunk hne hshort =>
    have hlength : chunk.length < 3 := by
      rcases chunk with - | ⟨a, - | ⟨b, - | ⟨c, rest⟩⟩⟩
      · exact absurd rfl hne
      · simp
      · simp
      · exact absurd rfl (hshort a b c rest)
    rw [base64Text]
    · exact base64Group_padded (fun h => hne h) hlength
    all_goals assumption

/-- `base64` is the encoding of RFC 4648, for octets of any number. -/
theorem base64_rfc4648 (octets : List UInt8) :
    PaddedText octets.length (base64 octets).toList ∧ '=' ∉ Base64.alphabet ∧
      Base64.decode (base64 octets).toList = some octets := by
  rw [base64, String.toList_ofList]
  exact ⟨base64Text_padded octets, by decide, decode_base64Text octets⟩

end Form
end ClixonSwitch.Guarantees
