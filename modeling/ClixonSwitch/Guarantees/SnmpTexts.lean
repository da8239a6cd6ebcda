import ClixonSwitch.Guarantees.SnmpdConf

/-!
# The texts that the SNMP parsers accept

The OIDs of a view and the octets of keys and engine ids are read with the integer
parsers of the standard library, which take a `+` before a number. The grammars of both
parsers are given here, with the sign and without it.
-/
namespace ClixonSwitch.Guarantees
open Lib Lib.NumberList Source.SwitchModel

section Oids

/-- A decimal number of ASCII digits that fits a `u32`. -/
def IsNumber (part : List Char) : Prop :=
  part ≠ [] ∧ (∀ c ∈ part, c.isDigit = true) ∧ Nat.ofDigitChars 10 part 0 < 2 ^ 32

/-- A number that may have a sign. -/
def IsSigned (part : List Char) : Prop := IsNumber (Text.stripPlus part)

/-- `oid` is one or more numbers with single dots in between, and `text` is `oid` or has
one dot before it. -/
def OidText (number : List Char → Prop) (text oid : String) : Prop :=
  (∃ parts, parts ≠ [] ∧ (∀ p ∈ parts, number p) ∧ oid.toList = ['.'].intercalate parts) ∧
    (text.toList = oid.toList ∨ text.toList = '.' :: oid.toList)

/-- `numeric_oid` takes the unsigned grammar for this text, no more and no less. -/
def OidExact (text : String) : Prop := ∀ oid, numericOid text = some oid ↔ OidText IsNumber text oid

/-- An OID in which a number has a sign. -/
def SignedOid (text : String) : Prop := (∃ oid, OidText IsSigned text oid) ∧ '+' ∈ text.toList

theorem isSigned_iff (part : List Char) : IsSigned part ↔
    (Text.parseUnsigned 10 (2 ^ 32) part).isSome = true :=
  (parseUnsigned_isSome_iff (2 ^ 32) part).symm

theorem IsSigned.ne_nil {part : List Char} (h : IsSigned part) : part ≠ [] := by
  rintro rfl
  exact h.1 rfl

theorem IsSigned.no_dot {part : List Char} (h : IsSigned part) : '.' ∉ part :=
  not_mem_of_parseUnsigned ((isSigned_iff part).mp h) (by decide) (by decide)

theorem IsNumber.no_plus {part : List Char} (h : IsNumber part) : '+' ∉ part := fun hplus =>
  Bool.false_ne_true ((by decide : '+'.isDigit = false).symm.trans (h.2.1 '+' hplus))

theorem isSigned_of_isNumber {part : List Char} (h : IsNumber part) : IsSigned part := by
  have hhead : part.head? ≠ some '+' := fun hplus => h.no_plus (List.mem_of_head? hplus)
  rwa [IsSigned, stripPlus_of_head hhead]

theorem isNumber_of_isSigned {part : List Char} (h : IsSigned part) (noPlus : '+' ∉ part) :
    IsNumber part := by
  have hhead : part.head? ≠ some '+' := fun hplus => noPlus (List.mem_of_head? hplus)
  rwa [IsSigned, stripPlus_of_head hhead] at h

theorem OidText.head {text oid : String} (h : OidText IsSigned text oid) :
    oid.toList ≠ [] ∧ oid.toList.head? ≠ some '.' := by
  obtain ⟨⟨parts, hne, hparts, hoid⟩, -⟩ := h
  cases parts with
  | nil => exact absurd rfl hne
  | cons first rest =>
    have hfirst := hparts first (by simp)
    obtain ⟨c, cs, rfl⟩ := List.exists_cons_of_ne_nil hfirst.ne_nil
    have hdot : c ≠ '.' := fun hc => hfirst.no_dot (by simp [hc])
    have hhead : oid.toList.head? = some c := by
      rw [hoid]
      cases rest <;> rfl
    refine ⟨fun hnil => ?_, ?_⟩
    · rw [hnil] at hhead
      cases hhead
    · rw [hhead]
      simpa using hdot

theorem stripDot_of_head {text : List Char} (h : text.head? ≠ some '.') : stripDot text = text := by
  unfold stripDot
  split
  · exact absurd rfl h
  · rfl

theorem OidText.strip {text oid : String} (h : OidText IsSigned text oid) :
    stripDot text.toList = oid.toList := by
  rcases h.2 with htext | htext
  · rw [htext]
    exact stripDot_of_head h.head.2
  · rw [htext]
    rfl

/-- What `numeric_oid` accepts, and that it returns it without the leading dot. -/
theorem numericOid_eq_some (text oid : String) :
    numericOid text = some oid ↔ OidText IsSigned text oid := by
  rw [numericOid]
  simp only [Option.ite_none_right_eq_some, Bool.and_eq_true, Bool.not_eq_true',
    List.isEmpty_eq_false_iff, List.all_eq_true, Option.some.injEq]
  constructor
  · rintro ⟨⟨hne, hparts⟩, rfl⟩
    refine ⟨⟨(stripDot text.toList).splitOn '.', List.splitOn_ne_nil '.' _, fun p hp => ?_, ?_⟩, ?_⟩
    · exact (isSigned_iff p).mpr (hparts p hp).2
    · rw [String.toList_ofList, List.intercalate_splitOn]
    · rw [String.toList_ofList]
      unfold stripDot
      split
      · next rest heq => exact Or.inr heq
      · exact Or.inl rfl
  · intro h
    have hstrip := h.strip
    obtain ⟨⟨parts, hne, hparts, hoid⟩, -⟩ := id h
    have hsplit : oid.toList.splitOn '.' = parts := by
      rw [hoid]
      exact List.splitOn_intercalate '.' (fun p hp => (hparts p hp).no_dot) hne
    rw [hstrip, hsplit]
    refine ⟨⟨h.head.1, fun p hp => ?_⟩, String.ofList_toList⟩
    exact ⟨(hparts p hp).ne_nil, (isSigned_iff p).mp (hparts p hp)⟩

theorem mem_text {number : List Char → Prop} {text oid : String} {c : Char}
    (h : OidText number text oid) (hc : c ≠ '.') :
    c ∈ text.toList ↔ c ∈ oid.toList := by
  rcases h.2 with htext | htext <;> simp [htext, hc]

theorem not_plus_of_oidText {text oid : String} (h : OidText IsNumber text oid) :
    '+' ∉ text.toList := by
  rw [mem_text h (by decide)]
  obtain ⟨⟨parts, -, hparts, hoid⟩, -⟩ := h
  rw [hoid]
  exact Lines.not_mem_intercalate (by decide) fun p hp => (hparts p hp).no_plus

theorem oidExact_iff (text : String) : OidExact text ↔ ¬ SignedOid text := by
  constructor
  · rintro h ⟨⟨oid, hoid⟩, hplus⟩
    exact not_plus_of_oidText ((h oid).mp ((numericOid_eq_some text oid).mpr hoid)) hplus
  · intro h oid
    rw [numericOid_eq_some]
    constructor
    · intro hoid
      have hplus : '+' ∉ oid.toList := by
        rw [← mem_text hoid (by decide)]
        exact fun hin => h ⟨⟨oid, hoid⟩, hin⟩
      obtain ⟨⟨parts, hne, hparts, hjoin⟩, htext⟩ := hoid
      refine ⟨⟨parts, hne, fun p hp => isNumber_of_isSigned (hparts p hp) fun hin => hplus ?_, hjoin⟩,
        htext⟩
      rw [hjoin]
      exact (Lines.mem_intercalate (by decide) parts).mpr ⟨p, hp, hin⟩
    · rintro ⟨⟨parts, hne, hparts, hjoin⟩, htext⟩
      exact ⟨⟨parts, hne, fun p hp => isSigned_of_isNumber (hparts p hp), hjoin⟩, htext⟩

end Oids

section Octets

def isHexDigit (c : Char) : Bool :=
  Text.isAsciiDigit c || ('a' ≤ c && c ≤ 'f') || ('A' ≤ c && c ≤ 'F')

/-- `octets` are what the hexadecimal digits stand for, two by two. -/
structure HexDigitsOf (digits : List Char) (octets : List UInt8) : Prop where
  nonempty : digits ≠ []
  even : digits.length % 2 = 0
  hex : ∀ c ∈ digits, isHexDigit c = true
  octets : digits.map (Text.digitValue 16) =
    octets.flatMap fun o => [some (o.toNat / 16), some (o.toNat % 16)]

/-- `hex_octets` accepts this text only for its hexadecimal digits, if at all. -/
def HexExact (text : String) : Prop :=
  ∀ octets, hexOctets text = some octets → HexDigitsOf (text.toList.filter (· != ':')) octets

/-- Pairs of hexadecimal digits, or of a sign and a digit. -/
def SignedPairs : List Char → Prop
  | [] => True
  | [_] => False
  | a :: b :: rest => (isHexDigit a = true ∨ a = '+') ∧ isHexDigit b = true ∧ SignedPairs rest

/-- Octets of which one is written with a sign. -/
def SignedHex (text : String) : Prop :=
  SignedPairs (text.toList.filter (· != ':')) ∧ '+' ∈ text.toList

theorem digitValue_lt {radix n : Nat} {c : Char} (h : Text.digitValue radix c = some n) :
    n < radix := by
  simp only [Text.digitValue, Option.ite_none_right_eq_some, Option.some.injEq] at h
  omega

theorem digitValue_hex_isSome (c : Char) : (Text.digitValue 16 c).isSome = isHexDigit c := by
  have hbetween : ∀ low high : Char, (low ≤ c && c ≤ high) =
      (decide (low.toNat ≤ c.toNat) && decide (c.toNat ≤ high.toNat)) := fun _ _ => rfl
  simp only [isHexDigit, Text.digitValue, Text.isAsciiDigit, hbetween, Char.reduceToNat]
  rw [Bool.eq_iff_iff, Option.isSome_ite]
  simp only [Bool.or_eq_true, Bool.and_eq_true, decide_eq_true_eq]
  split_ifs <;> omega

/-- A pair as the parser of a `u8` reads it. -/
theorem parseUnsigned_pair (a b : Char) :
    Text.parseUnsigned 16 256 [a, b] =
      if a = '+' then Text.digitValue 16 b
      else (Text.digitValue 16 a).bind fun x => (Text.digitValue 16 b).map fun y => x * 16 + y := by
  by_cases hplus : a = '+'
  · subst hplus
    have hdigits : Text.digits 16 [b] = Text.digitValue 16 b := by
      cases hb : Text.digitValue 16 b <;> simp [Text.digits, hb]
    rw [Text.parseUnsigned, if_pos rfl]
    show (if [b].isEmpty then none else (Text.digits 16 [b]).filter (· < 256)) = _
    rw [hdigits]
    cases hb : Text.digitValue 16 b with
    | none => rfl
    | some n =>
      have hlt := digitValue_lt hb
      simp [show n < 256 by omega]
  · rw [Text.parseUnsigned, stripPlus_of_head (by simpa using hplus), if_neg hplus]
    cases ha : Text.digitValue 16 a with
    | none => simp [Text.digits, ha]
    | some x =>
      cases hb : Text.digitValue 16 b with
      | none => simp [Text.digits, ha, hb]
      | some y =>
        have hx := digitValue_lt ha
        have hy := digitValue_lt hb
        simp [Text.digits, ha, hb, show x * 16 + y < 256 by omega]

theorem hexPairs_isSome_iff (digits : List Char) :
    (hexPairs digits).isSome = true ↔ SignedPairs digits := by
  have hpair : ∀ a b, (Text.parseUnsigned 16 256 [a, b]).isSome = true ↔
      (isHexDigit a = true ∨ a = '+') ∧ isHexDigit b = true := by
    intro a b
    rw [parseUnsigned_pair, ← digitValue_hex_isSome, ← digitValue_hex_isSome]
    by_cases ha : a = '+'
    · simp [ha]
    · cases Text.digitValue 16 a <;> cases Text.digitValue 16 b <;> simp [ha]
  induction digits using hexPairs.induct with
  | case1 => simp [hexPairs, SignedPairs]
  | case2 c => simp [hexPairs, SignedPairs]
  | case3 a b rest ih =>
    have ih : (hexPairs rest).isSome = true ↔ SignedPairs rest := ih
    rw [hexPairs, SignedPairs, ← and_assoc, ← hpair, ← ih]
    cases Text.parseUnsigned 16 256 [a, b] <;> simp

/-- Without a sign, the digits of the octets. -/
theorem hexPairs_digits {digits : List Char} {octets : List UInt8} (noPlus : '+' ∉ digits)
    (h : hexPairs digits = some octets) :
    digits.length % 2 = 0 ∧ (∀ c ∈ digits, isHexDigit c = true) ∧
      digits.map (Text.digitValue 16) =
        octets.flatMap fun o => [some (o.toNat / 16), some (o.toNat % 16)] := by
  induction digits using hexPairs.induct generalizing octets with
  | case1 =>
    obtain rfl := Option.some.inj h
    exact ⟨rfl, nofun, rfl⟩
  | case2 c => cases h
  | case3 a b rest ih =>
    simp only [List.mem_cons, not_or] at noPlus
    obtain ⟨n, hn, hrest⟩ := Option.bind_eq_some_iff.mp h
    obtain ⟨others, hothers, rfl⟩ := Option.map_eq_some_iff.mp hrest
    obtain ⟨heven, hall, hmap⟩ := ih noPlus.2.2 hothers
    rw [parseUnsigned_pair, if_neg (Ne.symm noPlus.1)] at hn
    obtain ⟨x, hx, hn⟩ := Option.bind_eq_some_iff.mp hn
    obtain ⟨y, hy, rfl⟩ := Option.map_eq_some_iff.mp hn
    have hxlt := digitValue_lt hx
    have hylt := digitValue_lt hy
    have hvalue : (UInt8.ofNat (x * 16 + y)).toNat = x * 16 + y := by
      rw [UInt8.toNat_ofNat']
      omega
    refine ⟨by simp only [List.length_cons]; omega, fun c hc => ?_, ?_⟩
    · rcases List.mem_cons.mp hc with rfl | hc
      · rw [← digitValue_hex_isSome, hx]
        rfl
      · rcases List.mem_cons.mp hc with rfl | hc
        · rw [← digitValue_hex_isSome, hy]
          rfl
        · exact hall c hc
    · rw [List.map_cons, List.map_cons, hmap, hx, hy, List.flatMap_cons, hvalue]
      have hdiv : (x * 16 + y) / 16 = x := by omega
      have hmod : (x * 16 + y) % 16 = y := by omega
      rw [hdiv, hmod]
      rfl

theorem hexExact_iff (text : String) : HexExact text ↔ ¬ SignedHex text := by
  have hplus : '+' ∈ text.toList.filter (· != ':') ↔ '+' ∈ text.toList := by
    simp [List.mem_filter]
  constructor
  · rintro h ⟨hpairs, hin⟩
    have hin := hplus.mpr hin
    obtain ⟨octets, hoctets⟩ := Option.isSome_iff_exists.mp ((hexPairs_isSome_iff _).mpr hpairs)
    have hne : text.toList.filter (· != ':') ≠ [] := List.ne_nil_of_mem hin
    have hread : hexOctets text = some octets := by
      rw [hexOctets, hoctets]
      simp only [List.isEmpty_iff, hne, if_false]
    have hhex := (h octets hread).hex '+' hin
    exact absurd hhex (by decide)
  · intro h octets hoctets
    rw [hexOctets, Option.ite_none_left_eq_some] at hoctets
    obtain ⟨hne, hpairs⟩ := hoctets
    have hsigned := (hexPairs_isSome_iff _).mp (Option.isSome_iff_exists.mpr ⟨octets, hpairs⟩)
    have hnoPlus : '+' ∉ text.toList.filter (· != ':') := fun hin => h ⟨hsigned, hplus.mp hin⟩
    obtain ⟨heven, hall, hmap⟩ := hexPairs_digits hnoPlus hpairs
    exact ⟨by simpa [List.isEmpty_iff] using hne, heven, hall, hmap⟩

end Octets

/-- For every string, each parser keeps to its grammar unless the string is one that the
grammar would take if numbers could have a sign, and has one. -/
theorem snmpTexts_exact_iff (text : String) :
    (OidExact text ↔ ¬ SignedOid text) ∧ (HexExact text ↔ ¬ SignedHex text) :=
  ⟨oidExact_iff text, hexExact_iff text⟩

/-- A sign is accepted, and an OID is returned with it. -/
theorem signs_accepted :
    numericOid ".1.+3" = some "1.+3" ∧ ¬ OidExact ".1.+3" ∧
      hexOctets "0f:+a" = some [15, 10] ∧ ¬ HexExact "0f:+a" := by
  have hoid : numericOid ".1.+3" = some "1.+3" := by decide +kernel
  have hhex : hexOctets "0f:+a" = some [15, 10] := by decide +kernel
  refine ⟨hoid, fun h => ?_, hhex, fun h => ?_⟩
  · exact not_plus_of_oidText ((h "1.+3").mp hoid) (by decide)
  · have hplus := (h [15, 10] hhex).hex '+' (by decide)
    exact absurd hplus (by decide)

end ClixonSwitch.Guarantees
