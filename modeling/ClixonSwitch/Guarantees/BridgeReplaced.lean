import ClixonSwitch.Guarantees.Rounds

/-!
# When the bridge is replaced

The planner predicts whether the kernel would refuse to turn MST on. It replaces the
bridge exactly when it would: a bridge that can be changed in place is not deleted, and
ConfigureBridge is only planned where it succeeds.
-/
namespace ClixonSwitch.Guarantees
open Lib Source.SwitchModel Source.SwitchNet

variable {desired : DesiredState} {s : ActualState} {b : BridgeSettings} {up : Bool}
  {master : Option String}

/-- The outcome of ConfigureBridge. -/
theorem configureBridge_ok_iff (wf : WellFormed s)
    (hb : s.links[bridgeName]? = some ⟨.bridge b, up, master⟩) :
    (fakeApply (.configureBridge bridgeName) s).1 = .ok () ↔
      b.mstEnabled = true ∨ portVlansRemain s b.defaultPvid = false := by
  have hids : ∀ dev vid, vid ∈ (device s dev).vlans → vid ≠ 0 := by
    rintro dev vid hin rfl
    exact absurd (wf.ids dev 0 hin).1 (by decide)
  rw [(configureBridge_effect bridgeName s b up master hb).2, entriesRemain_iff hids,
    Bool.not_eq_true]

/-- ConfigureBridge is planned as the first operation, where it succeeds. -/
theorem plan_configureBridge (wf : WellFormed s)
    (hb : s.links[bridgeName]? = some ⟨.bridge b, up, master⟩) {ops : List Op}
    (hplan : plan desired s = .ok ops) (h : .configureBridge bridgeName ∈ ops) :
    (∃ rest, ops = .configureBridge bridgeName :: rest) ∧
      (fakeApply (.configureBridge bridgeName) s).1 = .ok () := by
  obtain ⟨-, rfl⟩ := (plan_eq_ok desired s).mp hplan
  have hplanned : .configureBridge bridgeName ∈ (planBridge s).1 := by
    rcases List.mem_append.mp h with h | h
    · cases bridgeOp_of_mem h with
      | configure planned => exact planned
    · exact absurd (planDeviceSection_isLocal desired s _ h) (by simp [Op.isLocal])
  cases bridgePlan s with
  | reconfigured b' up' master' link _ allowed ops _ =>
    rw [hb] at link
    cases link
    refine ⟨?_, (configureBridge_ok_iff wf hb).mpr allowed⟩
    rw [planBridgeSection, ops]
    exact ⟨_, rfl⟩
  | kept _ _ _ _ _ ops => simp [ops] at hplanned
  | replaced _ _ ops => simp [ops] at hplanned
  | created _ ops => simp [ops] at hplanned

/-- A bridge is deleted where ConfigureBridge fails. -/
theorem plan_deleteBridge (wf : WellFormed s)
    (hb : s.links[bridgeName]? = some ⟨.bridge b, up, master⟩) {ops : List Op}
    (hplan : plan desired s = .ok ops) (h : .deleteLink bridgeName ∈ ops) :
    (fakeApply (.configureBridge bridgeName) s).1 ≠ .ok () := by
  obtain ⟨-, rfl⟩ := (plan_eq_ok desired s).mp hplan
  have hplanned : .deleteLink bridgeName ∈ (planBridge s).1 := by
    rcases List.mem_append.mp h with h | h
    · cases bridgeOp_of_mem h with
      | replace planned => exact planned
      | stale _ id up' master' _ link =>
        rw [hb] at link
        cases link
    · exact absurd (planDeviceSection_isLocal desired s _ h) (by simp [Op.isLocal])
  rw [ne_eq, configureBridge_ok_iff wf hb]
  intro allowed
  simp only [planBridge, hb, Option.map_some] at hplanned
  split at hplanned
  · cases hplanned
  · split at hplanned
    · cases hplanned with
      | tail _ h => cases h
    · next hrefused => exact hrefused (by simpa using allowed)

/-- On a bridge without MST, ConfigureBridge is refused iff `portVlansRemain` says so. On
any bridge, `plan` configures it only where that is accepted, and deletes it only where
it is not. -/
theorem plan_replaces_bridge_iff_refused (s : ActualState) (wf : WellFormed s)
    (b : BridgeSettings) (up : Bool) (master : Option String)
    (hb : s.links[bridgeName]? = some ⟨.bridge b, up, master⟩) :
    (b.mstEnabled = false →
      ((∃ e, (fakeApply (.configureBridge bridgeName) s).1 = .error e) ↔
        portVlansRemain s b.defaultPvid = true)) ∧
    ∀ desired ops, plan desired s = .ok ops →
      (.configureBridge bridgeName ∈ ops → (∃ rest, ops = .configureBridge bridgeName :: rest) ∧
        (fakeApply (.configureBridge bridgeName) s).1 = .ok ()) ∧
      (.deleteLink bridgeName ∈ ops →
        ∃ e, (fakeApply (.configureBridge bridgeName) s).1 = .error e) := by
  have hfails : (∃ e, (fakeApply (.configureBridge bridgeName) s).1 = .error e) ↔
      (fakeApply (.configureBridge bridgeName) s).1 ≠ .ok () := by
    cases (fakeApply (.configureBridge bridgeName) s).1 <;> simp
  refine ⟨fun hmst => ?_, fun desired ops hplan => ⟨plan_configureBridge wf hb hplan, fun h => ?_⟩⟩
  · rw [hfails, ne_eq, configureBridge_ok_iff wf hb, hmst]
    simp
  · exact hfails.mpr (plan_deleteBridge wf hb hplan h)

/-- A bridge as it was created by hand: default PVID 1, on a port that also has VLAN 20. -/
def handmadeBridge : ActualState where
  links := Std.ExtTreeMap.ofList
    [("br-lan", ⟨.bridge ⟨false, 1, false, .off⟩, true, none⟩),
      ("lan1", ⟨.dsa none, true, some "br-lan"⟩)] compare
  bridgeVlans := Std.ExtTreeMap.ofList
    [("lan1", portVlans ⟨true, some 1, .ofList [20] compare⟩)] compare

theorem plan_replaces_bridge_iff_refused_handmade :
    (∃ e, (fakeApply (.configureBridge bridgeName) handmadeBridge).1 = .error e) ∧
      (plan {} handmadeBridge).toOption.any (·.contains (.deleteLink bridgeName)) = true := by
  have hrefused := (plan_replaces_bridge_iff_refused handmadeBridge
    (wellFormed_of_check (by decide +kernel)) ⟨false, 1, false, .off⟩ true none
    (by decide +kernel)).1 rfl
  exact ⟨hrefused.mpr (by decide +kernel), by decide +kernel⟩

end ClixonSwitch.Guarantees
