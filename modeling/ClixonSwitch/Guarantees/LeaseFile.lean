import ClixonSwitch.Lib.NumberList
import ClixonSwitch.Source.SwitchNet.Lease

/-!
# The lease file

udhcpc passes a lease in texts. What the script writes of them into the lease file is what
`parseLease` reads, and the address that the script itself reads back is the address of the
lease.
-/
namespace ClixonSwitch.Guarantees
open Lib Lib.Lines Lib.NumberList
open Source.SwitchModel Source.SwitchNet

/-- A lease that udhcpc took. It passes host names only as the domain, and the kernel takes
no address for no time. A lease for ever is another matter: its address is permanent. -/
structure Offer where
  address : Ipv4Prefix
  routers : List Ipv4Addr
  dnsServers : List Ipv4Addr
  domain : String
  server : Option Ipv4Addr
  leaseTime : UInt32
  broadcast : Option Ipv4Addr := none
  mask_le : address.prefixLen.toNat ≤ 32
  domain_plain : ∀ c ∈ domain.toList, Text.isWhitespace c = false
  time_pos : leaseTime ≠ 0
  time_finite : leaseTime ≠ 0xFFFFFFFF

/-- The texts that udhcpc passes for a lease. -/
def Offer.env (o : Offer) : LeaseEnv where
  ip := displayAddr o.address.addr
  mask := toString o.address.prefixLen
  router := unwords (o.routers.map displayAddr)
  dns := unwords (o.dnsServers.map displayAddr)
  domain := o.domain
  serverid := (o.server.map displayAddr).getD ""
  lease := toString o.leaseTime
  broadcast := (o.broadcast.map displayAddr).getD ""

/-- What state data shows of a lease. -/
def Offer.lease (o : Offer) : DhcpLease where
  address := some o.address
  routers := o.routers
  dnsServers := o.dnsServers
  domain := if o.domain.isEmpty then none else some o.domain
  server := o.server
  leaseTime := some o.leaseTime

section Addresses

theorem parseOctet_toDigits : ∀ n < 256, Text.parseOctet (Nat.toDigits 10 n) = some n := by
  decide +kernel

theorem toList_displayAddr (a : Ipv4Addr) : (displayAddr a).toList =
    ['.'].intercalate [Nat.toDigits 10 (a.bits.toNat / 2 ^ 24),
      Nat.toDigits 10 (a.bits.toNat / 2 ^ 16 % 256), Nat.toDigits 10 (a.bits.toNat / 2 ^ 8 % 256),
      Nat.toDigits 10 (a.bits.toNat % 256)] := by
  have hdot : (toString ".").toList = ['.'] := rfl
  simp [displayAddr, List.intercalate, Nat.toList_repr, hdot]

/-- An address is read back from its text. -/
theorem parseIpv4Addr_displayAddr (a : Ipv4Addr) : parseIpv4Addr (displayAddr a) = some a := by
  have hlt : a.bits.toNat < 2 ^ 32 := a.bits.toNat_lt
  have hsplit : (displayAddr a).toList.splitOn '.' =
      [Nat.toDigits 10 (a.bits.toNat / 2 ^ 24), Nat.toDigits 10 (a.bits.toNat / 2 ^ 16 % 256),
        Nat.toDigits 10 (a.bits.toNat / 2 ^ 8 % 256), Nat.toDigits 10 (a.bits.toNat % 256)] := by
    rw [toList_displayAddr]
    refine List.splitOn_intercalate '.' (fun part hpart => ?_) (by simp)
    simp only [List.mem_cons, List.not_mem_nil, or_false] at hpart
    rcases hpart with rfl | rfl | rfl | rfl <;> exact not_mem_toDigits (by decide) _
  have hoctets : Text.parseIpv4 (displayAddr a).toList =
      some [a.bits.toNat / 2 ^ 24, a.bits.toNat / 2 ^ 16 % 256, a.bits.toNat / 2 ^ 8 % 256,
        a.bits.toNat % 256] := by
    have hhigh := parseOctet_toDigits (a.bits.toNat / 2 ^ 24) (by omega)
    have hlow : ∀ n, Text.parseOctet (Nat.toDigits 10 (n % 256)) = some (n % 256) :=
      fun n => parseOctet_toDigits _ (Nat.mod_lt n (by decide))
    rw [Text.parseIpv4, hsplit, if_pos (show List.length _ = 4 from rfl)]
    simp only [List.mapM_cons, List.mapM_nil, hhigh, hlow]
    rfl
  rw [parseIpv4Addr, hoctets, Option.map_some]
  have hvalue : (((a.bits.toNat / 2 ^ 24) * 256 + a.bits.toNat / 2 ^ 16 % 256) * 256 +
      a.bits.toNat / 2 ^ 8 % 256) * 256 + a.bits.toNat % 256 = a.bits.toNat := by
    omega
  simp only [List.foldl_cons, List.foldl_nil, Nat.zero_mul, Nat.zero_add, hvalue,
    UInt32.ofNat_toNat]

theorem displayAddr_plain (a : Ipv4Addr) :
    ∀ c ∈ (displayAddr a).toList, c.isDigit = true ∨ c = '.' := by
  intro c hc
  rw [toList_displayAddr] at hc
  by_cases hdot : c = '.'
  · exact Or.inr hdot
  · obtain ⟨part, hpart, hin⟩ := (mem_intercalate hdot _).mp hc
    simp only [List.mem_cons, List.not_mem_nil, or_false] at hpart
    left
    rcases hpart with rfl | rfl | rfl | rfl <;>
      exact Nat.isDigit_of_mem_toDigits (by decide) (by decide) hin

end Addresses

section Lines

/-- Numbers and addresses have neither blanks nor line breaks. -/
theorem not_mem_displayAddr {c : Char} (digit : c.isDigit = false) (dot : c ≠ '.') (a : Ipv4Addr) :
    c ∉ (displayAddr a).toList := by
  intro hc
  rcases displayAddr_plain a c hc with h | h
  · rw [digit] at h
    cases h
  · exact dot h

theorem isWhitespace_of_isDigit {c : Char} (h : c.isDigit = true ∨ c = '.') :
    Text.isWhitespace c = false := by
  rcases h with h | rfl
  · obtain ⟨hlow, hhigh⟩ := Char.isDigit_iff_toNat.mp h
    have hzero : '0'.toNat = 48 := rfl
    have hnine : '9'.toNat = 57 := rfl
    simp only [Text.isWhitespace, Bool.or_eq_false_iff, Bool.and_eq_false_iff, decide_eq_false_iff_not,
      beq_eq_false_iff_ne]
    omega
  · decide

theorem displayAddr_ne_nil (a : Ipv4Addr) : (displayAddr a).toList ≠ [] := by
  rw [toList_displayAddr, List.intercalate_cons_cons]
  simp

/-- A list of addresses is read back. -/
theorem fields_addrs {sep : Char → Bool} (blank : sep ' ' = true)
    (plain : ∀ c, c.isDigit = true ∨ c = '.' → sep c = false) (addrs : List Ipv4Addr) :
    Fields.fields sep (unwords (addrs.map displayAddr)).toList =
      addrs.map fun a => (displayAddr a).toList := by
  have htext : (unwords (addrs.map displayAddr)).toList =
      [' '].intercalate (addrs.map fun a => (displayAddr a).toList) := by
    rw [unwords, String.toList_intercalate, List.map_map]
    rfl
  rw [htext, Fields.fields_intercalate blank]
  intro w hw
  obtain ⟨a, -, rfl⟩ := List.mem_map.mp hw
  exact ⟨displayAddr_ne_nil a, fun c hc => plain c (displayAddr_plain a c hc)⟩

theorem not_mem_addrs {c : Char} (digit : c.isDigit = false) (dot : c ≠ '.') (blank : c ≠ ' ')
    (addrs : List Ipv4Addr) : c ∉ (unwords (addrs.map displayAddr)).toList := by
  rw [unwords, String.toList_intercalate]
  refine not_mem_intercalate blank fun part hpart => ?_
  obtain ⟨text, htext, rfl⟩ := List.mem_map.mp hpart
  obtain ⟨a, -, rfl⟩ := List.mem_map.mp htext
  exact not_mem_displayAddr digit dot a

end Lines

section Reading
variable (o : Offer)

/-- The entries of the lease file. -/
def Offer.entries (o : Offer) : List (String × String) :=
  [("ip", o.env.ip), ("mask", o.env.mask), ("router", o.env.router), ("dns", o.env.dns),
    ("domain", o.env.domain), ("serverid", o.env.serverid), ("lease", o.env.lease)]

theorem leaseText_eq : leaseText o.env =
    unlines (o.entries.map fun e => e.1 ++ "=" ++ e.2) := by
  simp [leaseText, Offer.entries, toString]

theorem toString_u8 (n : UInt8) : (toString n).toList = Nat.toDigits 10 n.toNat := Nat.toList_repr

theorem toString_u32 (n : UInt32) : (toString n).toList = Nat.toDigits 10 n.toNat :=
  Nat.toList_repr

theorem not_mem_value {c : Char} (space : Text.isWhitespace c = true) (blank : c ≠ ' ')
    {e : String × String} (he : e ∈ o.entries) : c ∉ e.2.toList := by
  have hdigit : c.isDigit = false := by
    cases hd : c.isDigit with
    | false => rfl
    | true =>
      rw [isWhitespace_of_isDigit (Or.inl hd)] at space
      cases space
  have hdot : c ≠ '.' := by
    rintro rfl
    cases space
  have hserver : c ∉ ((o.server.map displayAddr).getD "").toList := by
    cases o.server with
    | none => simp
    | some a => exact not_mem_displayAddr hdigit hdot a
  simp only [Offer.entries, List.mem_cons, List.not_mem_nil, or_false] at he
  rcases he with rfl | rfl | rfl | rfl | rfl | rfl | rfl
  · exact not_mem_displayAddr hdigit hdot _
  · exact toString_u8 _ ▸ not_mem_toDigits hdigit _
  · exact not_mem_addrs hdigit hdot blank _
  · exact not_mem_addrs hdigit hdot blank _
  · intro hc
    rw [o.domain_plain c hc] at space
    cases space
  · exact hserver
  · exact toString_u32 _ ▸ not_mem_toDigits hdigit _

def leaseKeys : List String := ["ip", "mask", "router", "dns", "domain", "serverid", "lease"]

theorem entries_keys : o.entries.map Prod.fst = leaseKeys := rfl

theorem entries_nodup : (o.entries.map Prod.fst).Nodup :=
  entries_keys o ▸ (by decide : leaseKeys.Nodup)

theorem not_mem_key {c : Char} {e : String × String} (he : e ∈ o.entries)
    (h : ∀ key ∈ leaseKeys, c ∉ key.toList) : c ∉ e.1.toList :=
  h e.1 (entries_keys o ▸ List.mem_map_of_mem he)

theorem not_mem_line {c : Char} (space : Text.isWhitespace c = true) (blank : c ≠ ' ')
    (key : ∀ key ∈ leaseKeys, c ∉ key.toList)
    (equals : c ≠ '=') {l : String} (hl : l ∈ o.entries.map fun e => e.1 ++ "=" ++ e.2) :
    c ∉ l.toList := by
  obtain ⟨e, he, rfl⟩ := List.mem_map.mp hl
  simp only [String.toList_append, List.mem_append, not_or]
  exact ⟨⟨not_mem_key o he key, by simpa using equals⟩, not_mem_value o space blank he⟩

end Reading

section Recorded
variable (o : Offer)

theorem captured_singleton {line : String} (h : '\n' ∉ line.toList) : captured [line] = line := by
  have hdrop : line.toList.reverse.dropWhile (· == '\n') = line.toList.reverse := by
    cases hrev : line.toList.reverse with
    | nil => rfl
    | cons c rest =>
      have hc : c ∈ line.toList := List.mem_reverse.mp (hrev ▸ List.mem_cons_self)
      have hne : c ≠ '\n' := fun heq => h (heq ▸ hc)
      rw [List.dropWhile_cons, if_neg (by simpa using hne)]
  rw [captured, String.intercalate_singleton, hdrop, List.reverse_reverse, String.ofList_toList]

/-- A line has the key that stands before its first `=`. -/
theorem key_isPrefixOf {key text : List Char} (h : '=' ∉ key) (h' : '=' ∉ text)
    (value : List Char) :
    (key ++ ['=']).isPrefixOf (text ++ '=' :: value) = true ↔ key = text := by
  rw [List.isPrefixOf_iff_prefix]
  constructor
  · rintro ⟨rest, heq⟩
    have hsplit := congrArg (Text.splitOnce ['=']) heq
    rw [List.append_assoc, List.singleton_append, Text.splitOnce_append h,
      Text.splitOnce_append h'] at hsplit
    exact (Prod.mk.inj (Option.some.inj hsplit)).1
  · rintro rfl
    exact ⟨value, by simp⟩

/-- What `sed` finds under a key of the file. -/
theorem sedValue_leaseText {key value : String} (h : (key, value) ∈ o.entries) :
    sedValue key (leaseText o.env) = value := by
  have hlines : lines (leaseText o.env) = o.entries.map fun e => e.1 ++ "=" ++ e.2 := by
    rw [leaseText_eq, lines_unlines, flatMap_pieces fun l hl =>
      not_mem_line o (by decide) (by decide) (by decide +kernel) (by decide) hl]
  have hline : ∀ e ∈ o.entries, sedLine key (e.1 ++ "=" ++ e.2) =
      if e.1 = key then some e.2 else none := by
    intro e he
    have hiff := key_isPrefixOf (not_mem_key o h (by decide +kernel))
      (not_mem_key o he (by decide +kernel)) e.2.toList
    have htext : (e.1 ++ "=" ++ e.2).toList = e.1.toList ++ '=' :: e.2.toList := by simp
    have hkeyText : (key ++ "=").toList = key.toList ++ ['='] := by simp
    rw [sedLine, ← String.length_toList, htext, hkeyText]
    by_cases heq : e.1 = key
    · subst heq
      have hcut : e.1.toList ++ '=' :: e.2.toList = (e.1.toList ++ ['=']) ++ e.2.toList := by simp
      rw [if_pos (hiff.mpr rfl), if_pos rfl, hcut, List.drop_left, String.ofList_toList]
    · rw [if_neg fun hp => heq (String.toList_inj.mp (hiff.mp hp)).symm, if_neg heq]
  rw [sedValue, hlines, List.filterMap_map, Function.comp_def, List.filterMap_congr hline,
    Fields.filterMap_of_nodup (f := Prod.snd) (entries_nodup o) h]
  exact captured_singleton (not_mem_value o (by decide) (by decide) h)

/-- The address that the script reads back is the one of the lease. -/
theorem recordedAddress_leaseText :
    recordedAddress (some (leaseText o.env)) = some (displayPrefix o.address) := by
  have hip : sedValue "ip" (leaseText o.env) = displayAddr o.address.addr :=
    sedValue_leaseText o (by simp [Offer.entries, Offer.env])
  have hmask : sedValue "mask" (leaseText o.env) = toString o.address.prefixLen :=
    sedValue_leaseText o (by simp [Offer.entries, Offer.env])
  have hne : (displayAddr o.address.addr).isEmpty = false := by
    rw [← Bool.not_eq_true, String.isEmpty_iff]
    intro hempty
    exact displayAddr_ne_nil o.address.addr (by rw [hempty]; rfl)
  rw [recordedAddress, Option.bind_some, hip, hmask, hne]
  rfl

end Recorded

end ClixonSwitch.Guarantees
