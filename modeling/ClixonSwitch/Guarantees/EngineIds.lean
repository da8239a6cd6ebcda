import ClixonSwitch.Guarantees.SnmpdConf

/-!
# Octets written with colons

Engine ids and MAC addresses are shown as hex octets with colons in between. What is
shown is read back as the same octets, also where the engine id in use is configured as
the engine id: the keys of the USM users are localized with it.
-/
namespace ClixonSwitch.Guarantees
open Lib Lib.Collect Source.SwitchModel

section ColonHex

theorem toList_colonHex_cons (o p : UInt8) (rest : List UInt8) :
    (colonHex (o :: p :: rest)).toList = hexOctet o ++ ':' :: (colonHex (p :: rest)).toList := by
  simp [colonHex, List.intercalate]

theorem hexOctet_ne_colon (o : UInt8) : ∀ c ∈ hexOctet o, c ≠ ':' := by
  intro c hc
  have hchar := List.all_eq_true.mp (isHexDigit_hexOctet o).1 c hc
  simp only [Bool.and_eq_true, bne_iff_ne] at hchar
  exact hchar.2

theorem digits_colonHex (octets : List UInt8) :
    (colonHex octets).toList.filter (· != ':') = octets.flatMap hexOctet := by
  have hkeep : ∀ o, (hexOctet o).filter (· != ':') = hexOctet o := fun o =>
    List.filter_eq_self.mpr fun c hc => bne_iff_ne.mpr (hexOctet_ne_colon o c hc)
  induction octets with
  | nil => rfl
  | cons o rest ih =>
    cases rest with
    | nil => simpa [colonHex, List.intercalate] using hkeep o
    | cons p rest =>
      rw [toList_colonHex_cons, List.filter_append, hkeep o, List.filter_cons_of_neg (by simp), ih]
      rfl

theorem colons_colonHex (octets : List UInt8) :
    ((colonHex octets).toList.filter (· == ':')).length = octets.length - 1 := by
  have hdrop : ∀ o, (hexOctet o).filter (· == ':') = [] := fun o =>
    List.filter_eq_nil_iff.mpr fun c hc => by simpa using hexOctet_ne_colon o c hc
  induction octets with
  | nil => rfl
  | cons o rest ih =>
    cases rest with
    | nil => simpa [colonHex, List.intercalate] using hdrop o
    | cons p rest =>
      rw [toList_colonHex_cons, List.filter_append, hdrop o, List.filter_cons_of_pos (by simp)]
      simp only [List.nil_append, List.length_cons, ih]
      rfl

theorem hexOctets_colonHex {octets : List UInt8} (h : octets ≠ []) :
    hexOctets (colonHex octets) = some octets :=
  hexOctets_of_digits h (digits_colonHex octets)

theorem parseMac_colonHex {octets : List UInt8} (h : octets ≠ []) :
    parseMac (colonHex octets) = some octets ↔ octets.length = 6 := by
  have hpos := List.length_pos_iff.mpr h
  rw [parseMac, hexOctets_colonHex h, colons_colonHex, Option.filter_eq_some_iff]
  simp only [Bool.and_eq_true, beq_iff_eq, true_and]
  omega

end ColonHex

section EngineId

/-- `shown` stands in `engine-id-in-use` of the state data. -/
def EngineIdShown (octets : List UInt8) (shown : String) : Prop :=
  snmpStateXml octets =
    "<snmp xmlns=\"" ++ snmpNs ++ "\"><engine><engine-id-in-use xmlns=\"" ++ switchNs ++ "\">" ++
      shown ++ "</engine-id-in-use></engine></snmp>"

theorem append_between_inj {before shown text after : String}
    (h : before ++ shown ++ after = before ++ text ++ after) : shown = text := by
  rwa [String.append_left_inj, String.append_right_inj] at h

theorem engineIdShown_iff (octets : List UInt8) (shown : String) :
    EngineIdShown octets shown ↔ shown = colonHex octets :=
  ⟨fun h => (append_between_inj h).symm, fun h => h ▸ rfl⟩

/-- The engine id shown, configured in any engine, is accepted without a message of its
own and gives the same octets. -/
def EngineIdReadBack (octets : List UInt8) : Prop :=
  ∀ shown, EngineIdShown octets shown → ∀ (engine : Engine) (enabled : Bool),
    (engineConfig { engine with engineId := some shown } enabled).value.engineId = some octets ∧
    (engineConfig { engine with engineId := some shown } enabled).errors =
      (engineConfig { engine with engineId := none } enabled).errors

theorem engineId_colonHex {octets : List UInt8} (hlow : 5 ≤ octets.length)
    (hhigh : octets.length ≤ 32) : engineId (some (colonHex octets)) = pure (some octets) := by
  have hne : octets ≠ [] := List.ne_nil_of_length_pos (by omega)
  have hkept : ((hexOctets (colonHex octets)).filter fun octets =>
      5 ≤ octets.length ∧ octets.length ≤ 32) = some octets := by
    rw [hexOctets_colonHex hne, Option.filter_some_pos (by simp [hlow, hhigh])]
  simp only [engineId, hkept]

theorem engineIdReadBack {octets : List UInt8} (hlow : 5 ≤ octets.length)
    (hhigh : octets.length ≤ 32) : EngineIdReadBack octets := by
  intro shown hshown engine enabled
  obtain rfl := (engineIdShown_iff octets shown).mp hshown
  have hnone : engineId none = pure none := rfl
  simp only [engineConfig, engineId_colonHex hlow hhigh, hnone, value_bind, value_pure, errors_bind,
    errors_pure, and_self]

/-- Octets are read back from both notations, those of a MAC address only if there are
six; and every engine id is read back from the state data, in particular the default of
every MAC address. -/
theorem engineIds_roundTrip (octets : List UInt8) :
    (octets ≠ [] → hexOctets (colonHex octets) = some octets ∧
      hexOctets (hex octets) = some octets ∧
      (parseMac (colonHex octets) = some octets ↔ octets.length = 6)) ∧
    (5 ≤ octets.length → octets.length ≤ 32 → EngineIdReadBack octets) ∧
    (octets.length = 6 → EngineIdReadBack (defaultEngineId octets)) := by
  refine ⟨fun hne => ⟨hexOctets_colonHex hne, hexOctets_hex hne, parseMac_colonHex hne⟩,
    engineIdReadBack, fun hsix => ?_⟩
  have hlength : (defaultEngineId octets).length = 11 := by simp [defaultEngineId, hsix]
  exact engineIdReadBack (by omega) (by omega)

theorem engineIds_roundTrip_mac :
    parseMac "02:00:00:00:00:01" = some [2, 0, 0, 0, 0, 1] ∧
      EngineIdReadBack (defaultEngineId [2, 0, 0, 0, 0, 1]) := by
  have htext : colonHex [2, 0, 0, 0, 0, 1] = "02:00:00:00:00:01" := by decide +kernel
  obtain ⟨hread, -, hmac⟩ := engineIds_roundTrip [2, 0, 0, 0, 0, 1]
  rw [← htext]
  exact ⟨(hread (by simp)).2.2.mpr rfl, hmac rfl⟩

end EngineId
end ClixonSwitch.Guarantees
