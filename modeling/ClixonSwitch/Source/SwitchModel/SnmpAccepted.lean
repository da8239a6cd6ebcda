import ClixonSwitch.Lib.Keyed
import ClixonSwitch.Source.SwitchModel.Accepted

/-!
# What `/snmp` means once it is accepted

For each validator of `/snmp`, what its result is when it reports nothing: every user,
view and group that is configured, with names and OIDs that are words, and every
member, access entry and view of them that exists.
-/
namespace ClixonSwitch.Source.SwitchModel
open Lib Lib.Collect

section Names

theorem checkName_clean {what name : String} (clean : (checkName what name).errors = []) :
    validName name = true := by
  simpa [checkName] using clean

theorem value_checkName (what name : String) : (checkName what name).value = validName name := rfl

end Names

section Users

/-- A user as configured: localized keys of the lengths that snmpd takes. -/
structure UserAccepted (user : User) (u : UsmUser) : Prop where
  name : validName user.name = true
  authKey : ∃ key, user.auth.bind Auth.sha = some key ∧ hexOctets key.key = some u.authKey
  authLen : u.authKey.length = shaKeyLen
  privKey : user.privacy.isSome = u.privKey.isSome ∧ ∀ p, user.privacy = some p →
    ∃ key octets, p.aes = some key ∧ hexOctets key.key = some octets ∧ u.privKey = some octets
  privLen : ∀ octets, u.privKey = some octets →
    octets.length = aesKeyLen ∨ octets.length = shaKeyLen

theorem usmKey_clean {name what : String} {key : Option Key} {lens : List Nat}
    (clean : (usmKey name key lens what).errors = []) {k : Key} (hk : key = some k) :
    ∃ octets, hexOctets k.key = some octets ∧ (usmKey name key lens what).value = some octets ∧
      octets.length ∈ lens := by
  subst hk
  simp only [usmKey] at clean ⊢
  cases ho : (hexOctets k.key).filter fun octets => lens.contains octets.length with
  | none =>
    simp only [ho] at clean
    cases clean
  | some octets =>
    obtain ⟨hoctets, hlen⟩ := Option.filter_eq_some_iff.mp ho
    exact ⟨octets, hoctets, rfl, by simpa using hlen⟩

theorem usmPrivacy_clean {name : String} {privacy : Option Privacy}
    (clean : (usmPrivacy name privacy).errors = []) :
    (usmPrivacy name privacy).value.1 = true ∧
    (privacy.isSome = (usmPrivacy name privacy).value.2.isSome ∧ ∀ p, privacy = some p →
      ∃ key octets, p.aes = some key ∧ hexOctets key.key = some octets ∧
        (usmPrivacy name privacy).value.2 = some octets) ∧
    ∀ octets, (usmPrivacy name privacy).value.2 = some octets →
      octets.length = aesKeyLen ∨ octets.length = shaKeyLen := by
  unfold usmPrivacy at clean ⊢
  cases privacy with
  | none => exact ⟨rfl, ⟨rfl, nofun⟩, nofun⟩
  | some p =>
    simp only at clean ⊢
    cases ha : p.aes with
    | none => simp [ha] at clean
    | some aes =>
      simp only [ha, errors_bind, List.append_eq_nil_iff, errors_pure, and_true] at clean
      obtain ⟨octets, hoctets, hvalue, hlen⟩ := usmKey_clean clean rfl
      simp only [value_bind, value_pure, hvalue]
      refine ⟨rfl, ⟨rfl, ?_⟩, ?_⟩
      · rintro q ⟨⟩
        exact ⟨aes, octets, ha, hoctets, rfl⟩
      · rintro _ ⟨⟩
        simpa using hlen

theorem usmUser_clean {user : User} (clean : (usmUser user).errors = []) :
    ∃ u, (usmUser user).value = some u ∧ UserAccepted user u := by
  simp only [usmUser, errors_bind, List.append_eq_nil_iff] at clean
  obtain ⟨hname, hauth, hrest⟩ := clean
  have hvalid := checkName_clean hname
  cases hsha : user.auth.bind Auth.sha with
  | none => simp [hsha, usmKey] at hrest
  | some key =>
    obtain ⟨octets, hoctets, hvalue, hlen⟩ := usmKey_clean hauth hsha
    simp only [hvalue, errors_bind, List.append_eq_nil_iff] at hrest
    obtain ⟨hok, hpriv, hprivLen⟩ := usmPrivacy_clean hrest.1
    refine ⟨⟨octets, (usmPrivacy user.name user.privacy).value.2⟩, ?_, hvalid,
      ⟨key, hsha, hoctets⟩, by simpa using hlen, hpriv, hprivLen⟩
    simp [usmUser, hvalue, value_checkName, hvalid, hok]

end Users

section Views

/-- A view as configured, with every OID in its order. -/
structure ViewAccepted (view : VacmView) (v : SnmpView) : Prop where
  name : validName view.name = true
  included : view.included.map numericOid = v.included.map some
  excluded : view.excluded.map numericOid = v.excluded.map some

theorem viewOids_clean {view : String} {entries : List String}
    (clean : (viewOids view entries).errors = []) :
    entries.map numericOid = (viewOids view entries).value.map some := by
  refine foldlM_rule (fun done (oids : List String) => done.map numericOid = oids.map some) ?_ rfl
    clean
  intro done oid rest oids _ ih hclean
  cases ho : numericOid oid with
  | none => simp [ho] at hclean
  | some o => simp [ho, ih]

theorem vacmView_clean {view : VacmView} (clean : (vacmView view).errors = []) :
    ∃ v, (vacmView view).value = some v ∧ ViewAccepted view v := by
  simp only [vacmView, errors_bind, List.append_eq_nil_iff] at clean
  obtain ⟨hname, hincluded, hexcluded, -⟩ := clean
  have hvalid := checkName_clean hname
  have hinc := viewOids_clean hincluded
  have hexc := viewOids_clean hexcluded
  have hsome : ∀ {entries oids : List String}, entries.map numericOid = oids.map some →
      ∀ oid ∈ entries, (numericOid oid).isSome = true := by
    intro entries oids h oid hoid
    have hmem : numericOid oid ∈ oids.map some := h ▸ List.mem_map_of_mem hoid
    obtain ⟨o, -, ho⟩ := List.mem_map.mp hmem
    rw [← ho]
    rfl
  have hall : ((view.included ++ view.excluded).all fun oid => (numericOid oid).isSome) = true := by
    rw [List.all_eq_true]
    intro oid hoid
    exact (List.mem_append.mp hoid).elim (hsome hinc oid) (hsome hexc oid)
  refine ⟨⟨(viewOids view.name view.included).value, (viewOids view.name view.excluded).value⟩, ?_,
    hvalid, hinc, hexc⟩
  simp only [vacmView, value_bind, value_pure, value_checkName, hvalid, hall]
  rfl

end Views

section Groups

/-- The access that an entry stands for, if its level is supported. -/
def Access.granted (access : Access) : Option SnmpAccess :=
  (SwitchModel.securityLevel access.securityLevel).map fun level => ⟨level, access.readView⟩

/-- A group as configured, with every member and, in its order, every access entry. -/
structure GroupAccepted (snmp : Snmp) (group : VacmGroup) (g : SnmpGroup) : Prop where
  name : validName group.name = true
  members : ∀ user, user ∈ g.members ↔ ∃ member ∈ group.member, member.securityName = user
  known : ∀ user ∈ g.members, user ∈ snmp.users
  access : group.access.map Access.granted = g.access.map some
  readViews : ∀ a ∈ g.access, ∀ view, a.readView = some view → view ∈ snmp.views
  privacy : ∀ a ∈ g.access, a.level = .authPriv → ∀ user ∈ g.members, ∀ u,
    snmp.users[user]? = some u → u.privKey.isSome = true

theorem groupMember_loop {name : String} {snmp : Snmp} {start : Bool × SnmpGroup}
    {members : List Member} (hempty : start.2.members = ∅)
    (clean : (members.foldlM (groupMember name snmp) start).errors = []) :
    ((members.foldlM (groupMember name snmp) start).value.1 = start.1 ∧
      (members.foldlM (groupMember name snmp) start).value.2.access = start.2.access) ∧
    (∀ user, user ∈ (members.foldlM (groupMember name snmp) start).value.2.members ↔
      ∃ member ∈ members, member.securityName = user) ∧
    ∀ user ∈ (members.foldlM (groupMember name snmp) start).value.2.members,
      user ∈ snmp.users := by
  refine foldlM_rule (fun done (out : Bool × SnmpGroup) =>
    (out.1 = start.1 ∧ out.2.access = start.2.access) ∧
    (∀ user, user ∈ out.2.members ↔ ∃ member ∈ done, member.securityName = user) ∧
    ∀ user ∈ out.2.members, user ∈ snmp.users) ?_ (by simp [hempty]) clean
  intro done member rest out _ ⟨hkept, hmembers, hknown⟩ hclean
  simp only [groupMember, errors_bind, List.append_eq_nil_iff, errors_rejectIf, errors_pure,
    and_true] at hclean
  obtain ⟨hforeign, hunknown⟩ := hclean
  have huser : member.securityName ∈ snmp.users := by simpa using hunknown
  simp only [groupMember, value_bind, value_pure, hforeign, hunknown, Bool.not_false,
    Bool.and_true]
  refine ⟨hkept, fun user => ?_, fun user hin => ?_⟩
  · rw [BTreeSet.mem_insert_iff, hmembers user]
    constructor
    · rintro (rfl | ⟨m, hm, rfl⟩)
      · exact ⟨member, by simp, rfl⟩
      · exact ⟨m, by simp [hm], rfl⟩
    · rintro ⟨m, hm, rfl⟩
      rcases List.mem_append.mp hm with hm | hm
      · exact Or.inr ⟨m, hm, rfl⟩
      · rw [List.mem_singleton.mp hm]
        exact Or.inl rfl
  · rcases (BTreeSet.mem_insert_iff _ _ _).mp hin with rfl | hin
    · exact huser
    · exact hknown user hin

/-- The members that auth-priv would shut out are none. -/
theorem withoutPrivacy_eq_nil {snmp : Snmp} {members : BTreeSet String}
    (h : withoutPrivacy snmp members = []) {user : String} (hin : user ∈ members) {u : UsmUser}
    (hu : snmp.users[user]? = some u) : u.privKey.isSome = true := by
  have hnot := List.filter_eq_nil_iff.mp h user (Std.ExtTreeSet.mem_toList.mpr hin)
  rw [hu] at hnot
  cases hp : u.privKey with
  | none => simp [hp] at hnot
  | some key => rfl

theorem groupAccess_loop {name : String} {snmp : Snmp} {start : Bool × SnmpGroup}
    {entries : List Access} (hempty : start.2.access = [])
    (clean : (entries.foldlM (groupAccess name snmp) start).errors = []) :
    ((entries.foldlM (groupAccess name snmp) start).value.1 = start.1 ∧
      (entries.foldlM (groupAccess name snmp) start).value.2.members = start.2.members) ∧
    entries.map Access.granted =
      (entries.foldlM (groupAccess name snmp) start).value.2.access.map some ∧
    ∀ a ∈ (entries.foldlM (groupAccess name snmp) start).value.2.access,
      (∀ view, a.readView = some view → view ∈ snmp.views) ∧
      (a.level = .authPriv → withoutPrivacy snmp start.2.members = []) := by
  refine foldlM_rule (fun done (out : Bool × SnmpGroup) =>
    (out.1 = start.1 ∧ out.2.members = start.2.members) ∧
    done.map Access.granted = out.2.access.map some ∧ ∀ a ∈ out.2.access,
      (∀ view, a.readView = some view → view ∈ snmp.views) ∧
      (a.level = .authPriv → withoutPrivacy snmp start.2.members = [])) ?_ (by simp [hempty]) clean
  intro done entry rest out _ ⟨⟨hflag, hmembers⟩, haccess, hviews⟩ hclean
  unfold groupAccess at hclean ⊢
  cases hl : securityLevel entry.securityLevel with
  | none => simp [hl] at hclean
  | some level =>
    simp only [hl, errors_bind, List.append_eq_nil_iff, errors_rejectIf, errors_reportAll,
      errors_pure, and_true, List.map_eq_nil_iff] at hclean
    obtain ⟨hmodel, hview, hweak⟩ := hclean
    have hgranted : entry.granted = some ⟨level, entry.readView⟩ := by
      rw [Access.granted, hl]
      rfl
    simp only [value_bind, value_pure, hmodel, hview, hweak]
    refine ⟨⟨by simpa using hflag, hmembers⟩, by simp [haccess, hgranted], fun a ha => ?_⟩
    rcases List.mem_append.mp ha with ha | ha
    · exact hviews a ha
    · rw [List.mem_singleton.mp ha]
      refine ⟨fun view hv => ?_, fun hpriv => ?_⟩
      · simpa [show entry.readView = some view from hv] using hview
      · rw [hmembers, if_pos (show level = .authPriv from hpriv)] at hweak
        exact hweak

theorem vacmGroup_clean {group : VacmGroup} {snmp : Snmp}
    (clean : (vacmGroup group snmp).errors = []) :
    ∃ g, (vacmGroup group snmp).value = some g ∧ GroupAccepted snmp group g := by
  simp only [vacmGroup, errors_bind, List.append_eq_nil_iff, errors_pure, and_true] at clean
  obtain ⟨hname, hmembers, haccess⟩ := clean
  have hvalid := checkName_clean hname
  obtain ⟨⟨hflag, hstart⟩, hmem, hknown⟩ := groupMember_loop rfl hmembers
  obtain ⟨⟨hflag', hkept⟩, hgranted, hviews⟩ := groupAccess_loop hstart haccess
  refine ⟨_, ?_, hvalid, fun user => ?_, fun user hin => ?_, hgranted,
    fun a ha => (hviews a ha).1, fun a ha hpriv user hin u hu => ?_⟩
  · simp only [vacmGroup, value_bind, value_pure]
    rw [if_pos]
    rw [hflag', hflag]
    exact hvalid
  · rw [hkept]
    exact hmem user
  · rw [hkept] at hin
    exact hknown user hin
  · rw [hkept] at hin
    exact withoutPrivacy_eq_nil ((hviews a ha).2 hpriv) hin hu

end Groups

section Agent

def SnmpConfig.enabled (config : SnmpConfig) : Bool :=
  (config.engine.bind Engine.enabled).getD false

def SnmpConfig.viewEntries (config : SnmpConfig) : List VacmView :=
  (config.vacm.map Vacm.view).getD []

def SnmpConfig.groupEntries (config : SnmpConfig) : List VacmGroup :=
  (config.vacm.map Vacm.group).getD []

/-- What the agent needs while the engine is enabled. -/
structure EngineAccepted (snmp : Snmp) : Prop where
  listens : snmp.listen ≠ ∅
  engineId : ∀ id, snmp.engineId = some id → 5 ≤ id.length ∧ id.length ≤ 32

/-- `/snmp` as accepted. -/
structure SnmpAccepted (config : SnmpConfig) (snmp : Snmp) : Prop where
  engine : config.enabled = true → EngineAccepted snmp
  hasUser : config.enabled = true → snmp.users ≠ ∅
  hasAccess : config.enabled = true → ∃ (name : String) (g : SnmpGroup),
    snmp.groups[name]? = some g ∧ g.access ≠ []
  users : Keyed User.name UserAccepted (usmUsers config) snmp.users
  views : Keyed VacmView.name ViewAccepted config.viewEntries snmp.views
  groups : Keyed VacmGroup.name (GroupAccepted snmp) config.groupEntries snmp.groups

theorem addUser_loop {users : List User} {start : Snmp} (hempty : start.users = ∅)
    (clean : (users.foldlM addUser start).errors = []) :
    ∃ m, (users.foldlM addUser start).value = { start with users := m } ∧
      Keyed User.name UserAccepted users m := by
  refine foldlM_rule (fun done snmp => ∃ m, snmp = { start with users := m } ∧
    Keyed User.name UserAccepted done m) ?_ ⟨∅, by rw [← hempty], Keyed.empty⟩ clean
  rintro done user rest _ - ⟨m, rfl, ih⟩ hclean
  simp only [addUser, errors_bind, List.append_eq_nil_iff] at hclean
  obtain ⟨u, hu, accepted⟩ := usmUser_clean hclean.1
  simp only [addUser, value_bind, hu, value_pure]
  exact ⟨_, rfl, ih.insert accepted⟩

theorem addView_loop {views : List VacmView} {start : Snmp} (hempty : start.views = ∅)
    (clean : (views.foldlM addView start).errors = []) :
    ∃ m, (views.foldlM addView start).value = { start with views := m } ∧
      Keyed VacmView.name ViewAccepted views m := by
  refine foldlM_rule (fun done snmp => ∃ m, snmp = { start with views := m } ∧
    Keyed VacmView.name ViewAccepted done m) ?_ ⟨∅, by rw [← hempty], Keyed.empty⟩ clean
  rintro done view rest _ - ⟨m, rfl, ih⟩ hclean
  simp only [addView, errors_bind, List.append_eq_nil_iff] at hclean
  obtain ⟨v, hv, accepted⟩ := vacmView_clean hclean.1
  simp only [addView, value_bind, hv, value_pure]
  exact ⟨_, rfl, ih.insert accepted⟩

/-- A group is accepted against the users and views, which the groups do not change. -/
theorem GroupAccepted.of_groups {snmp : Snmp} {m : BTreeMap String SnmpGroup} {group : VacmGroup}
    {g : SnmpGroup} : GroupAccepted { snmp with groups := m } group g ↔ GroupAccepted snmp group g :=
  ⟨fun h => ⟨h.name, h.members, h.known, h.access, h.readViews, h.privacy⟩,
    fun h => ⟨h.name, h.members, h.known, h.access, h.readViews, h.privacy⟩⟩

theorem addGroup_loop {groups : List VacmGroup} {start : Snmp} (hempty : start.groups = ∅)
    (clean : (groups.foldlM addGroup start).errors = []) :
    ∃ m, (groups.foldlM addGroup start).value = { start with groups := m } ∧
      Keyed VacmGroup.name (GroupAccepted start) groups m := by
  refine foldlM_rule (fun done snmp => ∃ m, snmp = { start with groups := m } ∧
    Keyed VacmGroup.name (GroupAccepted start) done m) ?_ ⟨∅, by rw [← hempty], Keyed.empty⟩ clean
  rintro done group rest _ - ⟨m, rfl, ih⟩ hclean
  simp only [addGroup, errors_bind, List.append_eq_nil_iff] at hclean
  obtain ⟨g, hg, accepted⟩ := vacmGroup_clean hclean.1
  simp only [addGroup, value_bind, hg, value_pure]
  exact ⟨_, rfl, ih.insert (GroupAccepted.of_groups.mp accepted)⟩

/-- `desired_snmp` after the engine. -/
def snmpRest (config : SnmpConfig) (snmp : Snmp) : Collect String (Option Snmp) := do
  let snmp ← (usmUsers config).foldlM addUser snmp
  let snmp ← config.viewEntries.foldlM addView snmp
  let snmp ← config.groupEntries.foldlM addGroup snmp
  rejectIf (config.enabled && snmp.users.isEmpty)
    "usm: a local user is required while the engine is enabled"
  rejectIf (config.enabled && snmp.groups.toList.all fun g => g.2.access.isEmpty)
    "vacm: a group with access is required while the engine is enabled"
  pure (if config.enabled then some snmp else none)

theorem engineId_clean {id : Option String} (clean : (engineId id).errors = [])
    {octets : List UInt8} (h : (engineId id).value = some octets) :
    5 ≤ octets.length ∧ octets.length ≤ 32 := by
  unfold engineId at clean h
  cases id with
  | none => cases h
  | some id =>
    simp only at clean h
    cases ho : (hexOctets id).filter fun o => 5 ≤ o.length ∧ o.length ≤ 32 with
    | none =>
      simp only [ho] at clean
      cases clean
    | some o =>
      simp only [ho, value_pure, Option.some.injEq] at h
      subst h
      simpa using (Option.filter_eq_some_iff.mp ho).2

theorem engineConfig_clean {engine : Engine} {enabled : Bool}
    (clean : (engineConfig engine enabled).errors = []) (henabled : enabled = true) :
    EngineAccepted (engineConfig engine enabled).value := by
  simp only [engineConfig, errors_bind, List.append_eq_nil_iff, errors_rejectIf, errors_pure,
    and_true, henabled, Bool.true_and] at clean
  obtain ⟨-, -, hlisten, hid⟩ := clean
  refine ⟨fun hnone => ?_, fun id h => engineId_clean hid h⟩
  have hempty : (engine.listen.foldlM engineListen ∅).value.isEmpty = true := by
    rw [show (engine.listen.foldlM engineListen ∅).value = ∅ from hnone]
    rfl
  rw [hempty] at hlisten
  cases hlisten

/-- The engine settles neither users nor views nor groups. -/
theorem snmpMessages_eq (config : SnmpConfig) :
    ∃ engine : Collect String Snmp, snmpMessages config = engine >>= snmpRest config ∧
      engine.value.users = ∅ ∧ engine.value.views = ∅ ∧ engine.value.groups = ∅ ∧
      (engine.errors = [] → config.enabled = true → EngineAccepted engine.value) := by
  obtain ⟨engine, usm, vacm⟩ := config
  cases engine with
  | none => exact ⟨pure {}, rfl, rfl, rfl, rfl, fun _ henabled => by cases henabled⟩
  | some engine =>
    exact ⟨engineConfig engine (engine.enabled.getD false), rfl, rfl, rfl, rfl,
      engineConfig_clean⟩

theorem exists_access_of_not_all {groups : BTreeMap String SnmpGroup}
    (h : (groups.toList.all fun g => g.2.access.isEmpty) = false) :
    ∃ (name : String) (g : SnmpGroup), groups[name]? = some g ∧ g.access ≠ [] := by
  obtain ⟨e, hin, hnot⟩ := List.all_eq_false.mp h
  refine ⟨e.1, e.2, Std.ExtTreeMap.mem_toList_iff_getElem?_eq_some.mp hin, fun hnil => hnot ?_⟩
  rw [hnil]
  rfl

theorem snmpRest_clean {config : SnmpConfig} {start : Snmp} (husers : start.users = ∅)
    (hviews : start.views = ∅) (hgroups : start.groups = ∅)
    (hengine : config.enabled = true → EngineAccepted start) (clean : (snmpRest config start).errors = []) :
    (snmpRest config start).value.isSome = config.enabled ∧
    ∀ snmp, (snmpRest config start).value = some snmp → SnmpAccepted config snmp := by
  simp only [snmpRest, errors_bind, List.append_eq_nil_iff] at clean
  obtain ⟨cleanUsers, cleanViews, cleanGroups, cleanUser, cleanAccess, -⟩ := clean
  simp only [snmpRest, value_bind, value_pure]
  obtain ⟨users, hu, keyedUsers⟩ := addUser_loop husers cleanUsers
  rw [hu] at cleanViews cleanGroups cleanUser cleanAccess ⊢
  obtain ⟨views, hv, keyedViews⟩ := addView_loop (by exact hviews) cleanViews
  rw [hv] at cleanGroups cleanUser cleanAccess ⊢
  obtain ⟨groups, hg, keyedGroups⟩ := addGroup_loop (by exact hgroups) cleanGroups
  rw [hg] at cleanUser cleanAccess ⊢
  refine ⟨by split <;> simp_all, fun snmp hsnmp => ?_⟩
  split at hsnmp
  · next henabled =>
    cases hsnmp
    rw [errors_rejectIf, henabled, Bool.true_and] at cleanUser cleanAccess
    refine ⟨fun _ => ⟨(hengine henabled).listens, (hengine henabled).engineId⟩, fun _ hnone => ?_,
      fun _ => exists_access_of_not_all cleanAccess, keyedUsers, keyedViews,
      keyedGroups.imp fun _ _ => GroupAccepted.of_groups.mpr⟩
    rw [show users = ∅ from hnone] at cleanUser
    cases cleanUser
  · cases hsnmp

theorem snmpMessages_clean {config : SnmpConfig} (clean : (snmpMessages config).errors = []) :
    (snmpMessages config).value.isSome = config.enabled ∧
    ∀ snmp, (snmpMessages config).value = some snmp → SnmpAccepted config snmp := by
  obtain ⟨engine, heq, husers, hviews, hgroups, hengine⟩ := snmpMessages_eq config
  rw [heq, errors_bind, List.append_eq_nil_iff] at clean
  rw [heq, value_bind]
  exact snmpRest_clean husers hviews hgroups (hengine clean.1) clean.2

/-- The agent runs exactly while the engine is enabled, with what is configured. -/
theorem desiredState_snmp {config : Config} {switchPorts : BTreeSet String} {state : DesiredState}
    (h : desiredState config switchPorts = .ok state) :
    (∀ c, config.snmp = some c → c.enabled = true → ∃ snmp, state.snmp = some snmp) ∧
    ∀ snmp, state.snmp = some snmp → ∃ c, config.snmp = some c ∧ c.enabled = true ∧
      SnmpAccepted c snmp := by
  obtain ⟨-, ⟨clean, hvalue⟩, -⟩ := desiredState_sections h
  cases hc : config.snmp with
  | none =>
    refine ⟨nofun, fun snmp hs => ?_⟩
    rw [hvalue, hc] at hs
    cases hs
  | some c =>
    rw [hc, desiredSnmp, errors_mapErrors, List.map_eq_nil_iff] at clean
    rw [hc, desiredSnmp, value_mapErrors] at hvalue
    obtain ⟨hsome, accepted⟩ := snmpMessages_clean clean
    refine ⟨?_, fun snmp hs => ⟨c, rfl, ?_, accepted snmp (hvalue ▸ hs)⟩⟩
    · rintro _ ⟨⟩ enabled
      rw [hvalue]
      exact Option.isSome_iff_exists.mp (hsome.trans enabled)
    · rw [← hsome, ← hvalue, hs]
      rfl

end Agent

end ClixonSwitch.Source.SwitchModel
