import ClixonSwitch.Guarantees.SnmpdConf

/-!
# Access control as snmpd reads it

Two properties of the access control in snmpd.conf, for any parameters: it is
unambiguous (a user is in one group, and a group has one access entry for a level), and
it is read-only (the write and notify views are not defined). Validation asks for
neither: the theorems say what configurations and parameters they hold for.
-/
namespace ClixonSwitch.Guarantees
open Std Lib Lib.Lines
open Source.SwitchModel

section Reading

/-- The lines of snmpd.conf as words. -/
def confWords (s : Snmp) (params : SnmpdParams) : List (List String) :=
  (lines (snmpdConf s params)).map words

/-- The words of the lines of the header, with those that line breaks make. -/
def headerWords (s : Snmp) (params : SnmpdParams) : List (List String) :=
  (headerPieces s params).map words

theorem confWords_eq {s : Snmp} (h : Wordy s) (params : SnmpdParams) :
    confWords s params = headerWords s params ++ bodyWords s params := by
  rw [confWords, lines_snmpdConf h, List.map_append, map_words_body h]
  rfl

/-- The USM user on a group line. -/
def groupUser? : List String → Option String
  | ["group", _, "usm", user] => some user
  | _ => none

structure AccessKey where
  group : String
  context : String
  model : String
  level : String
  deriving DecidableEq, Repr

/-- What the access of an access line is looked up by. -/
def accessKey? : List String → Option AccessKey
  | "access" :: group :: context :: model :: level :: _ => some ⟨group, context, model, level⟩
  | _ => none

/-- The view that a view line defines. -/
def viewName? : List String → Option String
  | "view" :: name :: _ => some name
  | _ => none

structure AccessViews where
  read : String
  write : String
  notify : String
  deriving DecidableEq, Repr

def accessViews? : List String → Option AccessViews
  | "access" :: _ :: _ :: _ :: _ :: _ :: read :: write :: notify :: _ => some ⟨read, write, notify⟩
  | _ => none

/-- The groups of an agent with their members, in order. -/
def groupMembers (s : Snmp) : List String := s.groups.toList.flatMap fun e => e.2.members.toList

def keyOf (group : String) (access : SnmpAccess) : AccessKey :=
  ⟨group, "\"\"", "usm", levelWord access.level⟩

def accessKeys (s : Snmp) : List AccessKey :=
  s.groups.toList.flatMap fun e => e.2.access.map (keyOf e.1)

/-- A reader of lines that finds something on group lines and access lines only. -/
theorem filterMap_groups {α : Type} (read : List String → Option α)
    (users : ∀ params name u, read (userWords params name u) = none)
    (views : ∀ name kind oid, read (viewWords name kind oid) = none) (s : Snmp)
    (params : SnmpdParams) :
    (bodyWords s params).filterMap read = s.groups.toList.flatMap fun e =>
      (e.2.members.toList.filterMap fun user => read (memberWords e.1 user)) ++
        e.2.access.filterMap fun a => read (accessWords e.1 a) := by
  have husers : (s.users.toList.map fun e => userWords params e.1 e.2).filterMap read = [] := by
    rw [List.filterMap_map, List.filterMap_eq_nil_iff]
    exact fun e _ => users params e.1 e.2
  have hviews : (s.views.toList.flatMap fun e => e.2.included.map (viewWords e.1 "included") ++
      e.2.excluded.map (viewWords e.1 "excluded")).filterMap read = [] := by
    rw [List.filterMap_eq_nil_iff]
    intro ws hws
    obtain ⟨e, -, hin⟩ := List.mem_flatMap.mp hws
    rcases List.mem_append.mp hin with hin | hin <;> obtain ⟨oid, -, rfl⟩ := List.mem_map.mp hin <;>
      exact views _ _ _
  rw [bodyWords, List.filterMap_append, List.filterMap_append, husers, hviews, List.nil_append,
    List.nil_append, List.filterMap_flatMap]
  simp only [List.filterMap_append, List.filterMap_map, Function.comp_def]

theorem filterMap_groupUser (s : Snmp) (params : SnmpdParams) :
    (bodyWords s params).filterMap groupUser? = groupMembers s := by
  rw [filterMap_groups groupUser? (fun _ _ _ => rfl) (fun _ _ _ => rfl)]
  refine List.flatMap_congr fun e _ => ?_
  have haccess : (e.2.access.filterMap fun a => groupUser? (accessWords e.1 a)) = [] :=
    List.filterMap_eq_nil_iff.mpr fun a _ => rfl
  rw [haccess, List.append_nil]
  exact List.filterMap_some

theorem filterMap_accessKey (s : Snmp) (params : SnmpdParams) :
    (bodyWords s params).filterMap accessKey? = accessKeys s := by
  rw [filterMap_groups accessKey? (fun _ _ _ => rfl) (fun _ _ _ => rfl)]
  refine List.flatMap_congr fun e _ => ?_
  have hmembers : (e.2.members.toList.filterMap fun user => accessKey? (memberWords e.1 user)) = [] :=
    List.filterMap_eq_nil_iff.mpr fun user _ => rfl
  rw [hmembers, List.nil_append]
  exact congrFun (List.filterMap_eq_map (f := keyOf e.1)) e.2.access

end Reading

section Unambiguous

/-- Each user is on one group line, and each group, context, model and level on one
access line. -/
structure Unambiguous (s : Snmp) (params : SnmpdParams) : Prop where
  users : ((confWords s params).filterMap groupUser?).Nodup
  access : ((confWords s params).filterMap accessKey?).Nodup

/-- No user is in two groups, no group has two access entries for a level, and the texts
of the header hold no group line or access line that repeats one. -/
structure EntriesApart (s : Snmp) (params : SnmpdParams) : Prop where
  groups : ∀ (a b : String) (g h : SnmpGroup), s.groups[a]? = some g → s.groups[b]? = some h →
    ∀ user, user ∈ g.members → user ∈ h.members → a = b
  levels : ∀ (name : String) (g : SnmpGroup), s.groups[name]? = some g →
    (g.access.map SnmpAccess.level).Nodup
  headerUsers : ((headerWords s params).filterMap groupUser?).Nodup ∧
    ∀ user ∈ (headerWords s params).filterMap groupUser?, user ∉ groupMembers s
  headerAccess : ((headerWords s params).filterMap accessKey?).Nodup ∧
    ∀ key ∈ (headerWords s params).filterMap accessKey?, key ∉ accessKeys s

/-- The groups of a map are different ones. -/
theorem groups_pairwise (s : Snmp) : s.groups.toList.Pairwise fun a b => a.1 ≠ b.1 :=
  List.pairwise_map.mp s.groups.nodup_fst

theorem groupMembers_nodup_iff (s : Snmp) :
    (groupMembers s).Nodup ↔ ∀ (a b : String) (g h : SnmpGroup), s.groups[a]? = some g →
      s.groups[b]? = some h → ∀ user, user ∈ g.members → user ∈ h.members → a = b := by
  rw [groupMembers, List.nodup_flatMap]
  constructor
  · rintro ⟨-, hdisjoint⟩ a b g h hg hh user hug huh
    by_contra hne
    have hin := ExtTreeMap.mem_toList_iff_getElem?_eq_some.mpr hg
    have hin' := ExtTreeMap.mem_toList_iff_getElem?_eq_some.mpr hh
    have hsymm : Std.Symm (Function.onFun List.Disjoint
        fun e : String × SnmpGroup => e.2.members.toList) := ⟨fun _ _ hd => List.Disjoint.symm hd⟩
    have hapart := hdisjoint.forall hin hin' fun heq => hne (Prod.mk.inj heq).1
    exact hapart (ExtTreeSet.mem_toList.mpr hug) (ExtTreeSet.mem_toList.mpr huh)
  · intro h
    refine ⟨fun e _ => BTreeSet.nodup_toList _, (groups_pairwise s).imp_of_mem ?_⟩
    intro x y hx hy hne user hux huy
    exact hne (h x.1 y.1 x.2 y.2 (ExtTreeMap.mem_toList_iff_getElem?_eq_some.mp hx)
      (ExtTreeMap.mem_toList_iff_getElem?_eq_some.mp hy) user
      (ExtTreeSet.mem_toList.mp hux) (ExtTreeSet.mem_toList.mp huy))

theorem nodup_append_iff {α : Type} {header body : List α} :
    (header ++ body).Nodup ↔ body.Nodup ∧ header.Nodup ∧ ∀ a ∈ header, a ∉ body := by
  rw [List.nodup_append']
  exact ⟨fun ⟨hh, hb, hd⟩ => ⟨hb, hh, fun a ha hab => hd ha hab⟩,
    fun ⟨hb, hh, hd⟩ => ⟨hh, hb, fun a ha hab => hd a ha hab⟩⟩

theorem levelWord_injective : Function.Injective levelWord := by
  intro a b h
  cases a <;> cases b <;> first | rfl | exact absurd h (by decide)

theorem accessKeys_nodup_iff (s : Snmp) :
    (accessKeys s).Nodup ↔ ∀ (name : String) (g : SnmpGroup), s.groups[name]? = some g →
      (g.access.map SnmpAccess.level).Nodup := by
  have hkeys : ∀ (name : String) (g : SnmpGroup),
      (g.access.map (keyOf name)).Nodup ↔ (g.access.map SnmpAccess.level).Nodup := by
    intro name g
    have hinj : Function.Injective fun level => AccessKey.mk name "\"\"" "usm" (levelWord level) := by
      intro a b heq
      exact levelWord_injective (AccessKey.mk.inj heq).2.2.2
    have hmap : g.access.map (keyOf name) = (g.access.map SnmpAccess.level).map
        fun level => AccessKey.mk name "\"\"" "usm" (levelWord level) := by
      rw [List.map_map]
      rfl
    rw [hmap]
    exact List.nodup_map_iff hinj
  rw [accessKeys, List.nodup_flatMap]
  constructor
  · rintro ⟨hnodup, -⟩ name g hg
    exact (hkeys name g).mp (hnodup (name, g) (ExtTreeMap.mem_toList_iff_getElem?_eq_some.mpr hg))
  · intro h
    refine ⟨fun e he => (hkeys e.1 e.2).mpr
      (h e.1 e.2 (ExtTreeMap.mem_toList_iff_getElem?_eq_some.mp he)),
      (groups_pairwise s).imp fun hne => ?_⟩
    intro key hx hy
    obtain ⟨a, -, rfl⟩ := List.mem_map.mp hx
    obtain ⟨b, -, hb⟩ := List.mem_map.mp hy
    exact hne (AccessKey.mk.inj hb).1.symm

end Unambiguous

section ReadOnly

/-- The write and notify views of all access lines are undefined, and so is the read view
where none is configured. -/
structure ReadOnly (s : Snmp) (params : SnmpdParams) : Prop where
  undefined : ∀ ws ∈ confWords s params, ∀ views, accessViews? ws = some views →
    views.write ∉ (confWords s params).filterMap viewName? ∧
    views.notify ∉ (confWords s params).filterMap viewName?
  unread : ∀ (name : String) (g : SnmpGroup), s.groups[name]? = some g → ∀ a ∈ g.access,
    a.readView = none → ∀ views, accessViews? (words (accessLine name a)) = some views →
      views.read ∉ (confWords s params).filterMap viewName?

/-- The views that view lines define: those with an OID. -/
def definedViews (s : Snmp) : List String :=
  s.views.toList.flatMap fun e => (e.2.included ++ e.2.excluded).map fun _ => e.1

/-- No view is called "none", unless it has no OID; and the texts of the header hold no
view line for "none" and no access line for a view that is defined. -/
structure NoneUndefined (s : Snmp) (params : SnmpdParams) : Prop where
  configured : ∀ v : SnmpView, s.views["none"]? = some v → v.included = [] ∧ v.excluded = []
  header : "none" ∉ (headerWords s params).filterMap viewName?
  headerAccess : ∀ ws ∈ headerWords s params, ∀ views, accessViews? ws = some views →
    ∀ name, name = views.write ∨ name = views.notify →
      name ∉ (headerWords s params).filterMap viewName? ∧ name ∉ definedViews s

theorem filterMap_viewName (s : Snmp) (params : SnmpdParams) :
    (bodyWords s params).filterMap viewName? = definedViews s := by
  have husers : (s.users.toList.map fun e => userWords params e.1 e.2).filterMap viewName? = [] := by
    rw [List.filterMap_map, List.filterMap_eq_nil_iff]
    exact fun e _ => rfl
  have hgroups : (s.groups.toList.flatMap fun e => e.2.members.toList.map (memberWords e.1) ++
      e.2.access.map (accessWords e.1)).filterMap viewName? = [] := by
    rw [List.filterMap_eq_nil_iff]
    intro ws hws
    obtain ⟨e, -, hin⟩ := List.mem_flatMap.mp hws
    rcases List.mem_append.mp hin with hin | hin <;> obtain ⟨x, -, rfl⟩ := List.mem_map.mp hin <;> rfl
  have hview : ∀ (name kind : String) (oids : List String),
      (oids.map (viewWords name kind)).filterMap viewName? = oids.map fun _ => name := by
    intro name kind oids
    rw [List.filterMap_map]
    exact congrFun (List.filterMap_eq_map (f := fun _ : String => name)) oids
  rw [bodyWords, List.filterMap_append, List.filterMap_append, husers, hgroups, List.nil_append,
    List.append_nil, List.filterMap_flatMap]
  refine List.flatMap_congr fun e _ => ?_
  rw [List.filterMap_append, hview, hview, List.map_append]

theorem none_mem_definedViews_iff (s : Snmp) :
    "none" ∈ definedViews s ↔
      ¬ ∀ v : SnmpView, s.views["none"]? = some v → v.included = [] ∧ v.excluded = [] := by
  constructor
  · intro hin h
    obtain ⟨e, he, hname⟩ := List.mem_flatMap.mp hin
    obtain ⟨oid, hoid, hnone⟩ := List.mem_map.mp hname
    have hlookup := ExtTreeMap.mem_toList_iff_getElem?_eq_some.mp he
    obtain ⟨hincluded, hexcluded⟩ := h e.2 (hnone ▸ hlookup)
    rw [hincluded, hexcluded] at hoid
    cases hoid
  · intro h
    obtain ⟨v, hv⟩ := not_forall.mp h
    obtain ⟨hv, hoids⟩ := Classical.not_imp.mp hv
    have hne : v.included ++ v.excluded ≠ [] := by
      intro hnil
      exact hoids (List.append_eq_nil_iff.mp hnil)
    obtain ⟨oid, hoid⟩ := List.exists_mem_of_ne_nil _ hne
    exact List.mem_flatMap.mpr ⟨("none", v),
      ExtTreeMap.mem_toList_iff_getElem?_eq_some.mpr hv, List.mem_map.mpr ⟨oid, hoid, rfl⟩⟩

/-- Access lines of the configuration name no view for writing and notifying. -/
theorem accessViews_body {s : Snmp} {params : SnmpdParams} {ws : List String}
    (hws : ws ∈ bodyWords s params) {views : AccessViews} (h : accessViews? ws = some views) :
    views.write = "none" ∧ views.notify = "none" := by
  rw [bodyWords, List.mem_append, List.mem_append] at hws
  rcases hws with (hws | hws) | hws
  · obtain ⟨e, -, rfl⟩ := List.mem_map.mp hws
    cases h
  · obtain ⟨e, -, hin⟩ := List.mem_flatMap.mp hws
    rcases List.mem_append.mp hin with hin | hin <;> obtain ⟨oid, -, rfl⟩ := List.mem_map.mp hin <;>
      cases h
  · obtain ⟨e, -, hin⟩ := List.mem_flatMap.mp hws
    rcases List.mem_append.mp hin with hin | hin
    · obtain ⟨user, -, rfl⟩ := List.mem_map.mp hin
      cases h
    · obtain ⟨a, -, rfl⟩ := List.mem_map.mp hin
      obtain rfl := Option.some.inj h
      exact ⟨rfl, rfl⟩

theorem access_mem_bodyWords {s : Snmp} {name : String} {g : SnmpGroup}
    (hg : s.groups[name]? = some g) {a : SnmpAccess} (ha : a ∈ g.access) (params : SnmpdParams) :
    accessWords name a ∈ bodyWords s params := by
  rw [bodyWords, List.mem_append]
  exact Or.inr (List.mem_flatMap.mpr ⟨(name, g),
    ExtTreeMap.mem_toList_iff_getElem?_eq_some.mpr hg,
    List.mem_append_right _ (List.mem_map.mpr ⟨a, ha, rfl⟩)⟩)

theorem included_mem_bodyWords {s : Snmp} {name : String} {v : SnmpView}
    (hv : s.views[name]? = some v) {oid : String} (hoid : oid ∈ v.included) (params : SnmpdParams) :
    viewWords name "included" oid ∈ bodyWords s params := by
  rw [bodyWords, List.mem_append, List.mem_append]
  exact Or.inl (Or.inr (List.mem_flatMap.mpr ⟨(name, v),
    ExtTreeMap.mem_toList_iff_getElem?_eq_some.mpr hv,
    List.mem_append_left _ (List.mem_map.mpr ⟨oid, hoid, rfl⟩)⟩))

theorem accessLine_words {s : Snmp} (h : Wordy s) {name : String} {g : SnmpGroup}
    (hg : s.groups[name]? = some g) {a : SnmpAccess} (ha : a ∈ g.access) :
    words (accessLine name a) = accessWords name a := by
  obtain ⟨hname, -, hviews⟩ := h.groups name g hg
  rw [accessLine_eq]
  exact words_unwords (accessWords_plain hname (hviews a ha)) (by simp [accessWords])

end ReadOnly

/-- SNMP is read-only exactly if "none" is not the name of a view with an OID, and the
header says nothing of views and access. -/
theorem snmpdConf_read_only_iff (tree : Json) (switchPorts : BTreeSet String)
    (state : DesiredState) (accepted : validate tree switchPorts = .ok state) (s : Snmp)
    (enabled : state.snmp = some s) (params : SnmpdParams) :
    ReadOnly s params ↔ NoneUndefined s params := by
  have hwordy := wordy_of_validate accepted enabled
  have hconf := confWords_eq hwordy params
  have hnames : (confWords s params).filterMap viewName? =
      (headerWords s params).filterMap viewName? ++ definedViews s := by
    rw [hconf, List.filterMap_append, filterMap_viewName]
  obtain ⟨-, config, -, hstate⟩ := validate_ok.mp accepted
  obtain ⟨c, -, henabled, hsnmp⟩ := (desiredState_snmp hstate).2 s enabled
  obtain ⟨group, g, hg, haccess⟩ := hsnmp.hasAccess henabled
  obtain ⟨a, ha⟩ := List.exists_mem_of_ne_nil _ haccess
  have hbody := access_mem_bodyWords hg ha params
  constructor
  · intro h
    -- there is an access line, and it names "none" for writing
    have hnone := (h.undefined (accessWords group a) (hconf ▸ List.mem_append_right _ hbody) _ rfl).1
    rw [hnames, List.mem_append, not_or] at hnone
    refine ⟨?_, hnone.1, fun ws hws views hviews name hname => ?_⟩
    · by_contra hconfigured
      exact hnone.2 ((none_mem_definedViews_iff s).mpr hconfigured)
    · have hboth := h.undefined ws (hconf ▸ List.mem_append_left _ hws) views hviews
      rw [hnames, List.mem_append, List.mem_append, not_or, not_or] at hboth
      rcases hname with rfl | rfl
      · exact hboth.1
      · exact hboth.2
  · intro h
    have hnone : "none" ∉ (confWords s params).filterMap viewName? := by
      rw [hnames, List.mem_append, not_or]
      exact ⟨h.header, fun hin => (none_mem_definedViews_iff s).mp hin h.configured⟩
    refine ⟨fun ws hws views hviews => ?_, fun name g hg a ha hread views hviews => ?_⟩
    · rw [hconf, List.mem_append] at hws
      rcases hws with hws | hws
      · rw [hnames, List.mem_append, List.mem_append, not_or, not_or]
        exact ⟨h.headerAccess ws hws views hviews _ (Or.inl rfl),
          h.headerAccess ws hws views hviews _ (Or.inr rfl)⟩
      · obtain ⟨hwrite, hnotify⟩ := accessViews_body hws hviews
        rw [hwrite, hnotify]
        exact ⟨hnone, hnone⟩
    · rw [accessLine_words hwordy hg ha] at hviews
      obtain rfl := Option.some.inj hviews
      simpa [hread] using hnone

theorem snmpdConf_read_only_iff_groups :
    validate twoGroupsTree ∅ = .ok { snmp := some twoGroups } ∧ ReadOnly twoGroups switchParams := by
  have accepted : validate twoGroupsTree ∅ = .ok { snmp := some twoGroups } := by decide +kernel
  have hviews : (headerWords twoGroups switchParams).filterMap accessViews? = [] := by
    decide +kernel
  refine ⟨accepted, (snmpdConf_read_only_iff twoGroupsTree ∅ _ accepted twoGroups rfl
    switchParams).mpr ⟨fun v hv => ?_, by decide +kernel, fun ws hws views h => ?_⟩⟩
  · rw [show twoGroups.views["none"]? = none by decide +kernel] at hv
    cases hv
  · have hmem := List.mem_filterMap.mpr ⟨ws, hws, h⟩
    rw [hviews] at hmem
    cases hmem

/-- A view with the name that stands for no view. -/
def noneViewTree : Json :=
  agentTree [groupEntry "readers" "monitor" [accessEntry "" "usm" "auth-no-priv" none]]
    [viewEntry "none" "1.3.6.1"]

def noneView : Snmp :=
  agentOf [("readers", ⟨ExtTreeSet.ofList ["monitor"] compare, [⟨.authNoPriv, none⟩]⟩)]
    [("none", ⟨["1.3.6.1"], []⟩)]

/-- A user who is to read nothing may read and write what the view includes. -/
theorem none_view_writable :
    validate noneViewTree ∅ = .ok { snmp := some noneView } ∧
      viewWords "none" "included" "1.3.6.1" ∈ confWords noneView switchParams ∧
      accessWords "readers" ⟨.authNoPriv, none⟩ ∈ confWords noneView switchParams ∧
      ¬ ReadOnly noneView switchParams := by
  have accepted : validate noneViewTree ∅ = .ok { snmp := some noneView } := by decide +kernel
  have hconf := confWords_eq (wordy_of_validate accepted rfl) switchParams
  have hview : viewWords "none" "included" "1.3.6.1" ∈ bodyWords noneView switchParams :=
    included_mem_bodyWords (v := ⟨["1.3.6.1"], []⟩) (by decide +kernel) (List.mem_singleton.mpr rfl)
      switchParams
  have haccess : accessWords "readers" ⟨.authNoPriv, none⟩ ∈ bodyWords noneView switchParams :=
    access_mem_bodyWords (g := ⟨ExtTreeSet.ofList ["monitor"] compare, [⟨.authNoPriv, none⟩]⟩)
      (by decide +kernel) (List.mem_singleton.mpr rfl) switchParams
  rw [hconf]
  refine ⟨accepted, List.mem_append_right _ hview, List.mem_append_right _ haccess, fun h => ?_⟩
  refine (h.undefined _ (hconf ▸ List.mem_append_right _ haccess) _ rfl).1 ?_
  exact List.mem_filterMap.mpr ⟨_, hconf ▸ List.mem_append_right _ hview, rfl⟩

/-- The access control is unambiguous exactly if the configured entries and the header are
apart. -/
theorem snmpdConf_unambiguous_iff (tree : Json) (switchPorts : BTreeSet String)
    (state : DesiredState) (accepted : validate tree switchPorts = .ok state) (s : Snmp)
    (enabled : state.snmp = some s) (params : SnmpdParams) :
    Unambiguous s params ↔ EntriesApart s params := by
  have hconf := confWords_eq (wordy_of_validate accepted enabled) params
  have husers : ((confWords s params).filterMap groupUser?).Nodup ↔
      (groupMembers s).Nodup ∧ ((headerWords s params).filterMap groupUser?).Nodup ∧
        ∀ user ∈ (headerWords s params).filterMap groupUser?, user ∉ groupMembers s := by
    rw [hconf, List.filterMap_append, filterMap_groupUser]
    exact nodup_append_iff
  have haccess : ((confWords s params).filterMap accessKey?).Nodup ↔
      (accessKeys s).Nodup ∧ ((headerWords s params).filterMap accessKey?).Nodup ∧
        ∀ key ∈ (headerWords s params).filterMap accessKey?, key ∉ accessKeys s := by
    rw [hconf, List.filterMap_append, filterMap_accessKey]
    exact nodup_append_iff
  rw [groupMembers_nodup_iff] at husers
  rw [accessKeys_nodup_iff] at haccess
  constructor
  · rintro ⟨hu, ha⟩
    exact ⟨(husers.mp hu).1, (haccess.mp ha).1, (husers.mp hu).2, (haccess.mp ha).2⟩
  · rintro ⟨hgroups, hlevels, hheaderUsers, hheaderAccess⟩
    exact ⟨husers.mpr ⟨hgroups, hheaderUsers⟩, haccess.mpr ⟨hlevels, hheaderAccess⟩⟩

theorem snmpdConf_unambiguous_iff_groups :
    validate twoGroupsTree ∅ = .ok { snmp := some twoGroups } ∧
      Unambiguous twoGroups switchParams := by
  have accepted : validate twoGroupsTree ∅ = .ok { snmp := some twoGroups } := by decide +kernel
  have husers : (groupMembers twoGroups).Nodup := by decide +kernel
  have hkeys : (accessKeys twoGroups).Nodup := by decide +kernel
  exact ⟨accepted, (snmpdConf_unambiguous_iff twoGroupsTree ∅ _ accepted twoGroups rfl
    switchParams).mpr ⟨(groupMembers_nodup_iff _).mp husers, (accessKeys_nodup_iff _).mp hkeys,
      by decide +kernel, by decide +kernel⟩⟩

/-- One user in two groups, and in one of them access for the models usm and any. -/
def sharedUserTree : Json :=
  agentTree
    [groupEntry "admins" "admin" [accessEntry "" "usm" "auth-priv" (some "all")],
     groupEntry "readers" "admin"
      [accessEntry "" "any" "auth-no-priv" (some "all"), accessEntry "" "usm" "auth-no-priv" none]]
    [viewEntry "all" "1.3.6.1"]

def sharedUser : Snmp :=
  agentOf
    [("admins", ⟨ExtTreeSet.ofList ["admin"] compare, [⟨.authPriv, some "all"⟩]⟩),
     ("readers", ⟨ExtTreeSet.ofList ["admin"] compare,
      [⟨.authNoPriv, some "all"⟩, ⟨.authNoPriv, none⟩]⟩)]
    [("all", ⟨["1.3.6.1"], []⟩)]

/-- The user is on two group lines, and two access lines differ in their views only. -/
theorem shared_user_ambiguous :
    validate sharedUserTree ∅ = .ok { snmp := some sharedUser } ∧
      (bodyWords sharedUser switchParams).filterMap groupUser? = ["admin", "admin"] ∧
      (bodyWords sharedUser switchParams).filterMap accessKey? =
        [⟨"admins", "\"\"", "usm", "priv"⟩, ⟨"readers", "\"\"", "usm", "auth"⟩,
          ⟨"readers", "\"\"", "usm", "auth"⟩] ∧
      ¬ Unambiguous sharedUser switchParams := by
  have accepted : validate sharedUserTree ∅ = .ok { snmp := some sharedUser } := by decide +kernel
  have husers : (bodyWords sharedUser switchParams).filterMap groupUser? = ["admin", "admin"] := by
    rw [filterMap_groupUser]
    decide +kernel
  have haccess : (bodyWords sharedUser switchParams).filterMap accessKey? =
      [⟨"admins", "\"\"", "usm", "priv"⟩, ⟨"readers", "\"\"", "usm", "auth"⟩,
        ⟨"readers", "\"\"", "usm", "auth"⟩] := by
    rw [filterMap_accessKey]
    decide +kernel
  have htwice : ¬ ["admin", "admin"].Nodup := by decide +kernel
  refine ⟨accepted, husers, haccess, fun h => htwice ?_⟩
  have hnodup := h.users
  rw [confWords_eq (wordy_of_validate accepted rfl), List.filterMap_append, husers] at hnodup
  exact (nodup_append_iff.mp hnodup).1

end ClixonSwitch.Guarantees
