import ClixonSwitch.Guarantees.Base64Text
import ClixonSwitch.Lib.NumberList

/-!
# Port numbers and port lists

Port numbers are the positions in a sorted list of names, and a port list is the set of
these numbers as bits, most significant first, in base64.
-/
namespace ClixonSwitch.Guarantees
open Lib Source.SwitchModel Source.SwitchModel.Mib

section Bits
variable {numbers : BTreeMap String UInt16} {list list' : List UInt8}

/-- Bit `k`, counted from the most significant bit of the first octet. -/
def bitSet (octets : List UInt8) (k : Nat) : Bool :=
  (octets.getD (k / 8) 0).toNat.testBit (7 - k % 8)

theorem bitSet_modify {bit : Nat} (room : bit / 8 < list.length) (k : Nat) :
    bitSet (list.modify (bit / 8) fun o => o ||| (0x80 >>> UInt8.ofNat (bit % 8))) k =
      (bitSet list k || k == bit) := by
  have hmask : ∀ j < 8, (0x80 >>> UInt8.ofNat j : UInt8).toNat = 2 ^ (7 - j) := by decide
  have hj : bit % 8 < 8 := Nat.mod_lt _ (by decide)
  unfold bitSet
  rw [List.getD_eq_getElem?_getD, List.getElem?_modify, List.getD_eq_getElem?_getD]
  by_cases hk : bit / 8 = k / 8
  · have hget : list[k / 8]? = some (list.get ⟨k / 8, hk ▸ room⟩) :=
      List.getElem?_eq_getElem (hk ▸ room)
    rw [hget]
    simp only [hk, if_true, Option.map_eq_map, Option.map_some, Option.getD_some, UInt8.toNat_or,
      Nat.testBit_or, hmask _ hj, Nat.testBit_two_pow]
    congr 1
    rw [Bool.eq_iff_iff, decide_eq_true_iff, beq_iff_eq]
    omega
  · have hne : (k == bit) = false := by
      rw [beq_eq_false_iff_ne]
      rintro rfl
      exact hk rfl
    simp only [hk, if_false, hne, Bool.or_false]
    cases list[k / 8]? <;> rfl

theorem setPort_bits {port : String} (h : setPort numbers list port = some list') (k : Nat) :
    bitSet list' k = true ↔ bitSet list k = true ∨
      ∃ n, numbers[port]? = some n ∧ (n - 1).toNat = k := by
  unfold setPort at h
  cases hn : numbers[port]? with
  | none =>
    rw [hn] at h
    cases h
    simp
  | some n =>
    rw [hn] at h
    simp only [Option.ite_none_right_eq_some, Option.some.injEq] at h
    obtain ⟨room, rfl⟩ := h
    rw [bitSet_modify room, Bool.or_eq_true, beq_iff_eq]
    refine or_congr_right ⟨fun hk => ⟨n, rfl, hk.symm⟩, ?_⟩
    rintro ⟨_, ⟨⟩, hk⟩
    exact hk.symm

theorem foldlM_setPort_bits {ports : List String}
    (h : ports.foldlM (setPort numbers) list = some list') (k : Nat) :
    bitSet list' k = true ↔ bitSet list k = true ∨
      ∃ port ∈ ports, ∃ n, numbers[port]? = some n ∧ (n - 1).toNat = k := by
  induction ports generalizing list with
  | nil =>
    cases h
    simp
  | cons port rest ih =>
    rw [List.foldlM_cons, Option.bind_eq_bind, Option.bind_eq_some_iff] at h
    obtain ⟨next, hnext, hrest⟩ := h
    rw [ih hrest, setPort_bits hnext]
    simp only [List.mem_cons, exists_eq_or_imp, or_assoc]

theorem portOctets_bits {ports : List String} {octets : List UInt8}
    (h : portOctets ports numbers = some octets) (k : Nat) :
    bitSet octets k = true ↔ ∃ port ∈ ports, ∃ n, numbers[port]? = some n ∧ (n - 1).toNat = k := by
  have hzero : bitSet (List.replicate (max ((numbers.size + 7) / 8) 1) 0) k = false := by
    have hget : ∀ i count : Nat, (List.replicate count (0 : UInt8)).getD i 0 = 0 := by
      intro i count
      rw [List.getD_eq_getElem?_getD, List.getElem?_replicate]
      split <;> rfl
    rw [bitSet, hget]
    exact Nat.zero_testBit _
  rw [foldlM_setPort_bits h, hzero]
  simp

end Bits

section Numbering
variable {ports : List String}

instance : Std.TransCmp portOrder :=
  inferInstanceAs (Std.TransCmp (compareLex (compareOn fun a => (trailing a).isNone)
    (compareLex (compareOn trailing) compare)))

theorem sortedPorts_pairwise (ports : List String) :
    (sortedPorts ports).Pairwise fun a b => (portOrder a b).isLE = true := by
  have total : Std.Total fun a b => (portOrder a b).isLE = true := by
    refine ⟨fun a b => ?_⟩
    by_cases h : (portOrder a b).isLE = true
    · exact Or.inl h
    · exact Or.inr (by rw [Std.OrientedCmp.lt_of_not_isLE h]; rfl)
  have trans : IsTrans String fun a b => (portOrder a b).isLE = true :=
    ⟨fun _ _ _ => Std.TransCmp.isLE_trans⟩
  exact List.pairwise_insertionSort _ ports

/-- A port's number is its position in the sorted list. -/
theorem portNumbers_eq_some (nodup : ports.Nodup) (few : ports.length ≤ 65535) (name : String)
    (n : UInt16) : (portNumbers ports)[name]? = some n ↔
      1 ≤ n.toNat ∧ (sortedPorts ports)[n.toNat - 1]? = some name := by
  have hnodup : (sortedPorts ports).Nodup := (sortedPorts_perm ports).nodup_iff.mpr nodup
  have hnumber : ∀ i, (sortedPorts ports)[i]? = some name → (portNumber i).toNat = i + 1 := by
    intro i hi
    obtain ⟨hlt, -⟩ := List.getElem?_eq_some_iff.mp hi
    rw [(sortedPorts_perm ports).length_eq] at hlt
    have hsmall : i + 1 < 2 ^ 16 := by omega
    rw [portNumber, if_pos hsmall, UInt16.toNat_ofNat_of_lt' hsmall]
  rw [portNumbers, BTreeMap.getElem?_collect _ (by rwa [portNumbers_names]), List.mem_map]
  constructor
  · rintro ⟨⟨name', i⟩, hmem, heq⟩
    obtain ⟨rfl, rfl⟩ := Prod.mk.inj heq
    have hi := List.mk_mem_zipIdx_iff_getElem?.mp hmem
    rw [hnumber i hi]
    exact ⟨Nat.le_add_left 1 i, hi⟩
  · rintro ⟨hone, hi⟩
    refine ⟨(name, n.toNat - 1), List.mk_mem_zipIdx_iff_getElem?.mpr hi, Prod.ext rfl ?_⟩
    rw [← UInt16.toNat_inj]
    exact (hnumber _ hi).trans (Nat.sub_add_cancel hone)

/-- Ports are numbered in their order. -/
theorem portNumbers_lt (nodup : ports.Nodup) (few : ports.length ≤ 65535) {a b : String}
    {n m : UInt16} (ha : (portNumbers ports)[a]? = some n) (hb : (portNumbers ports)[b]? = some m)
    (h : portOrder a b = .lt) : n < m := by
  obtain ⟨hn, hia⟩ := (portNumbers_eq_some nodup few a n).mp ha
  obtain ⟨hm, hib⟩ := (portNumbers_eq_some nodup few b m).mp hb
  obtain ⟨hla, hga⟩ := List.getElem?_eq_some_iff.mp hia
  obtain ⟨hlb, hgb⟩ := List.getElem?_eq_some_iff.mp hib
  rw [UInt16.lt_iff_toNat_lt]
  by_contra hnot
  have hsorted := List.pairwise_iff_getElem.mp (sortedPorts_pairwise ports)
  rcases Nat.lt_or_eq_of_le (Nat.le_of_not_lt hnot) with hlt | heq
  · have hle := hsorted _ _ hlb hla (by omega)
    rw [hga, hgb] at hle
    exact Std.OrientedCmp.not_isLE_of_lt h hle
  · have hsame : a = b := by
      rw [← hga, ← hgb]
      simp only [heq]
    have hself : portOrder b b = .eq := Std.ReflCmp.compare_self
    rw [hsame, hself] at h
    cases h

end Numbering

section Names

/-- The name ends in the number `x`: in digits, as many as there are. -/
def EndsIn (name : String) (x : Nat) : Prop :=
  ∃ stem digits : List Char, name.toList = stem ++ digits ∧ digits ≠ [] ∧
    (∀ c ∈ digits, c.isDigit = true) ∧ (∀ c ∈ stem.getLast?, c.isDigit = false) ∧
    x = Nat.ofDigitChars 10 digits 0 ∧ x < 2 ^ 32

/-- The digits at the end of a name. -/
def lastDigits (name : String) : List Char :=
  (name.toList.reverse.takeWhile Text.isAsciiDigit).reverse

theorem lastDigits_isDigit (name : String) : ∀ c ∈ lastDigits name, c.isDigit = true := by
  intro c hc
  rw [← NumberList.isAsciiDigit_eq]
  exact List.mem_takeWhile_imp (List.mem_reverse.mp hc)

theorem lastDigits_of_append {name : String} {stem digits : List Char}
    (h : name.toList = stem ++ digits) (hdigits : ∀ c ∈ digits, c.isDigit = true)
    (hstem : ∀ c ∈ stem.getLast?, c.isDigit = false) : lastDigits name = digits := by
  have hrest : stem.reverse.takeWhile Text.isAsciiDigit = [] := by
    cases hl : stem.reverse with
    | nil => rfl
    | cons c rest =>
      have hlast : stem.getLast? = some c := by
        rw [← List.head?_reverse, hl]
        rfl
      rw [List.takeWhile_cons, NumberList.isAsciiDigit_eq, hstem c hlast]
      rfl
  have hall : ∀ c ∈ digits.reverse, Text.isAsciiDigit c = true := by
    intro c hc
    rw [NumberList.isAsciiDigit_eq]
    exact hdigits c (List.mem_reverse.mp hc)
  rw [lastDigits, h, List.reverse_append, List.takeWhile_append_of_pos hall, hrest,
    List.append_nil, List.reverse_reverse]

/-- Every name is its stem and its last digits. -/
theorem exists_stem (name : String) : ∃ stem, name.toList = stem ++ lastDigits name ∧
    ∀ c ∈ stem.getLast?, c.isDigit = false := by
  refine ⟨(name.toList.reverse.dropWhile Text.isAsciiDigit).reverse, ?_, fun c hc => ?_⟩
  · rw [lastDigits, ← List.reverse_append, List.takeWhile_append_dropWhile, List.reverse_reverse]
  · rw [List.getLast?_reverse] at hc
    have hhead := List.head?_dropWhile_not Text.isAsciiDigit name.toList.reverse
    rw [Option.mem_def.mp hc] at hhead
    rw [← NumberList.isAsciiDigit_eq]
    exact hhead

theorem trailing_eq (name : String) : trailing name =
    if lastDigits name = [] then none
    else (some (Nat.ofDigitChars 10 (lastDigits name) 0)).filter (· < 2 ^ 32) :=
  NumberList.parseUnsigned_of_isDigit (lastDigits_isDigit name) (2 ^ 32)

theorem trailing_eq_some (name : String) (x : Nat) : trailing name = some x ↔ EndsIn name x := by
  rw [trailing_eq]
  constructor
  · intro h
    obtain ⟨hne, h⟩ := Option.ite_none_left_eq_some.mp h
    obtain ⟨hvalue, hsmall⟩ := Option.filter_eq_some_iff.mp h
    obtain ⟨stem, hstem, hlast⟩ := exists_stem name
    exact ⟨stem, lastDigits name, hstem, hne, lastDigits_isDigit name, hlast,
      (Option.some.inj hvalue).symm, by simpa using hsmall⟩
  · rintro ⟨stem, digits, hname, hne, hdigits, hstem, rfl, hsmall⟩
    rw [lastDigits_of_append hname hdigits hstem, if_neg hne, Option.filter_eq_some_iff]
    exact ⟨rfl, by simpa using hsmall⟩

theorem portOrder_of_smaller {a b : String} {x y : Nat} (ha : EndsIn a x) (hb : EndsIn b y)
    (h : x < y) : portOrder a b = .lt := by
  rw [← trailing_eq_some] at ha hb
  have hxy : compare (some x) (some y) = .lt := Nat.compare_eq_lt.mpr h
  rw [portOrder, ha, hb, hxy]
  rfl

theorem portOrder_of_unnumbered {a b : String} {x : Nat} (ha : EndsIn a x)
    (hb : ∀ y, ¬ EndsIn b y) : portOrder a b = .lt := by
  have hnone : trailing b = none := by
    cases hy : trailing b with
    | none => rfl
    | some y => exact absurd ((trailing_eq_some b y).mp hy) (hb y)
  rw [portOrder, (trailing_eq_some a x).mpr ha, hnone]
  rfl

end Names

/-- The ports have the numbers from 1 on, in the order of the numbers that their names end
in; names without one come last. -/
structure PortNumbering (ports : List String) (numbers : BTreeMap String UInt16) : Prop where
  names : ∀ name, name ∈ ports ↔ ∃ n, numbers[name]? = some n
  range : ∀ (name : String) (n : UInt16), numbers[name]? = some n →
    1 ≤ n.toNat ∧ n.toNat ≤ ports.length
  injective : ∀ (a b : String) (n : UInt16), numbers[a]? = some n → numbers[b]? = some n → a = b
  onto : ∀ k, 1 ≤ k → k ≤ ports.length → ∃ (name : String) (n : UInt16),
    numbers[name]? = some n ∧ n.toNat = k
  smaller : ∀ (a b : String) (n m : UInt16) (x y : Nat), numbers[a]? = some n →
    numbers[b]? = some m → EndsIn a x → EndsIn b y → x < y → n < m
  last : ∀ (a b : String) (n m : UInt16) (x : Nat), numbers[a]? = some n → numbers[b]? = some m →
    EndsIn a x → (∀ y, ¬ EndsIn b y) → n < m

theorem portNumbers_numbering {ports : List String} (nodup : ports.Nodup)
    (few : ports.length ≤ 65535) : PortNumbering ports (portNumbers ports) where
  names name := by rw [← mem_portNumbers, BTreeMap.mem_iff]
  range name n h := by
    obtain ⟨hone, hi⟩ := (portNumbers_eq_some nodup few name n).mp h
    obtain ⟨hlt, -⟩ := List.getElem?_eq_some_iff.mp hi
    rw [(sortedPorts_perm ports).length_eq] at hlt
    omega
  injective a b n ha hb := by
    have hia := ((portNumbers_eq_some nodup few a n).mp ha).2
    rw [((portNumbers_eq_some nodup few b n).mp hb).2] at hia
    exact (Option.some.inj hia).symm
  onto k hone hk := by
    have hlt : k - 1 < (sortedPorts ports).length := by
      rw [(sortedPorts_perm ports).length_eq]
      omega
    have hsmall : k < 2 ^ 16 := by omega
    have hsize : (UInt16.ofNat k).toNat = k := UInt16.toNat_ofNat_of_lt' hsmall
    refine ⟨(sortedPorts ports)[k - 1], UInt16.ofNat k, ?_, hsize⟩
    rw [portNumbers_eq_some nodup few, hsize]
    exact ⟨hone, List.getElem?_eq_getElem hlt⟩
  smaller a b n m x y ha hb hx hy hlt :=
    portNumbers_lt nodup few ha hb (portOrder_of_smaller hx hy hlt)
  last a b n m x ha hb hx hy := portNumbers_lt nodup few ha hb (portOrder_of_unnumbered hx hy)

/-- Port numbers, and the port list of every subset of the ports: as many octets as the
ports need, with the bits of the numbers of the subset. -/
theorem portList_bits (ports : List String) (nodup : ports.Nodup) (few : ports.length ≤ 65535) :
    PortNumbering ports (portNumbers ports) ∧
      ∀ subset, (∀ name ∈ subset, name ∈ ports) → ∃ text octets,
        portList subset (portNumbers ports) = some text ∧
        Base64.decode text.toList = some octets ∧
        octets.length = max ((ports.length + 7) / 8) 1 ∧
        ∀ k, bitSet octets k = true ↔ ∃ name ∈ subset, ∃ n,
          (portNumbers ports)[name]? = some n ∧ n.toNat = k + 1 := by
  have numbering := portNumbers_numbering nodup few
  refine ⟨numbering, fun subset _ => ?_⟩
  have hsize := portNumbers_size nodup
  have hroom : (portNumbers ports).size ≤
      8 * (List.replicate (max (((portNumbers ports).size + 7) / 8) 1) (0 : UInt8)).length := by
    rw [List.length_replicate]
    omega
  obtain ⟨octets, hoctets, hlength⟩ :=
    foldlM_setPort_some (portNumbers_numbered nodup) subset hroom
  have hlist : portOctets subset (portNumbers ports) = some octets := hoctets
  refine ⟨base64 octets, octets, ?_, ?_, ?_, fun k => ?_⟩
  · rw [portList, hlist, Option.map_some]
  · rw [base64, String.toList_ofList, decode_base64Text]
  · rw [hlength, List.length_replicate, hsize]
  · rw [portOctets_bits hlist]
    refine exists_congr fun name => and_congr_right fun _ => exists_congr fun n =>
      and_congr_right fun hn => ?_
    have hone := (numbering.range name n hn).1
    have hsub : (n - 1).toNat = n.toNat - 1 := UInt16.toNat_sub_of_le _ _ hone
    omega

/-- Nine ports, so that the last one begins a second octet. -/
theorem portList_bits_nine :
    ∃ text octets, portList ["lan1", "lan10"]
        (portNumbers ["lan10", "lan1", "lan2", "lan3", "lan4", "lan5", "lan6", "lan7", "wan"]) =
          some text ∧
      Base64.decode text.toList = some octets ∧ octets.length = 2 := by
  obtain ⟨-, hlists⟩ := portList_bits
    ["lan10", "lan1", "lan2", "lan3", "lan4", "lan5", "lan6", "lan7", "wan"] (by decide) (by decide)
  obtain ⟨text, octets, htext, hoctets, hlength, -⟩ := hlists ["lan1", "lan10"] (by decide)
  exact ⟨text, octets, htext, hoctets, hlength⟩

end ClixonSwitch.Guarantees
