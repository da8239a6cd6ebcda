import ClixonSwitch.Guarantees.SnmpSound
import ClixonSwitch.Guarantees.SupportedExact

/-!
# Leaves that are not implemented have their default

`check` compares a leaf with its default after removing all up to the last colon,
whatever type the leaf has. Only an identity has a module name there: a string such as
the context of an access entry may hold a colon of its own, and then it is accepted
although it is not the default. The condition under which acceptance means what it
should is about these colons only.
-/
namespace ClixonSwitch.Guarantees
open Lib Lib.Json
open Source.SwitchModel Source.SwitchModel.Supported

section Tables

mutual
/-- The defaults that a rule asks for, at any depth. -/
def defaults (rule : Rule) : List String :=
  match rule with
  | .any => []
  | .default d => [d]
  | .node rules => defaultsOf rules
  | .list rules => defaultsOf rules
  | .ignore => []
termination_by structural rule

def defaultsOf (rules : Rules) : List String :=
  match rules with
  | [] => []
  | m :: rest => defaultsAt m ++ defaultsOf rest
termination_by structural rules

def defaultsAt (m : String × Rule) : List String :=
  match m with
  | (_, rule) => defaults rule
termination_by structural m
end

theorem mem_defaultsOf {rules : Rules} {k : String} {rule : Rule} {d : String}
    (h : rules.lookup k = some rule) (hd : d ∈ defaults rule) : d ∈ defaultsOf rules := by
  induction rules with
  | nil => cases h
  | cons m rest ih =>
    obtain ⟨k', rule'⟩ := m
    rw [List.lookup_cons] at h
    rw [defaultsOf, List.mem_append]
    split at h
    · obtain rfl := Option.some.inj h
      exact Or.inl hd
    · exact Or.inr (ih h)

theorem mem_defaults {rule : Rule} {pos : List Step} {d : String}
    (h : ruleAt rule pos = some (.default d)) : d ∈ defaults rule := by
  induction pos generalizing rule with
  | nil =>
    obtain rfl := Option.some.inj h
    exact List.mem_singleton.mpr rfl
  | cons step rest ih =>
    cases rule with
    | node rules =>
      cases step with
      | index n => cases h
      | key k =>
        rw [ruleAt, Option.bind_eq_some_iff] at h
        obtain ⟨r, hr, hrest⟩ := h
        exact mem_defaultsOf hr (ih hrest)
    | list rules =>
      cases step with
      | index n =>
        have hnode : d ∈ defaults (.node rules) := ih h
        exact hnode
      | key k => cases h
    | _ => cases step <;> simp [ruleAt] at h

/-- No default of the tables has a colon. -/
theorem defaults_no_colon :
    (∀ d ∈ defaultsOf interface, ':' ∉ d.toList) ∧ ∀ d ∈ defaultsOf top, ':' ∉ d.toList := by
  decide +kernel

theorem rootAt_no_colon {tree : Json} {root : Root} {c : Checked} (hc : rootAt tree root = some c)
    {pos : List Step} {d : String} (hrule : ruleAt c.rule pos = some (.default d)) :
    ':' ∉ d.toList := by
  cases root with
  | interface n =>
    obtain ⟨entry, -, rfl⟩ := Option.map_eq_some_iff.mp hc
    exact defaults_no_colon.1 d (mem_defaults hrule)
  | top key =>
    obtain ⟨rule, hlookup, hmap⟩ := Option.bind_eq_some_iff.mp hc
    obtain ⟨value, -, rfl⟩ := Option.map_eq_some_iff.mp hmap
    exact defaults_no_colon.2 d (mem_defaultsOf hlookup (mem_defaults hrule))

end Tables

section Property

/-- The leaf at a position is of type identityref. Of the leaves with a default only
`tpid` is; the others are strings, enumerations, numbers and booleans. -/
def isIdentityref (pos : List Step) : Bool := pos.getLast? == some (.key "openconfig-vlan:tpid")

/-- A node that a `Default` rule governs: its position, the default and its value. -/
def Governed (tree : Json) (pos : List Step) (d : String) (leaf : Json) : Prop :=
  ∃ root c, rootAt tree root = some c ∧ ruleAt c.rule pos = some (.default d) ∧
    c.value.at? pos = some leaf

/-- The value is the default; an identity may have a module name before it. -/
inductive IsDefault (pos : List Step) (d : String) : Json → Prop where
  | string : IsDefault pos d (.string d)
  | bool (b : Bool) (h : toString b = d) : IsDefault pos d (.bool b)
  | number (n : JsonNumber) (h : n.display = d) : IsDefault pos d (.number n)
  | identity (name : String) (identityref : isIdentityref pos = true) (plain : ':' ∉ name.toList) :
    IsDefault pos d (.string (name ++ ":" ++ d))

/-- The value of a leaf of an access entry of a group. -/
def accessLeaf (tree : Json) (group access : Nat) (leaf : String) : Option Json :=
  tree.at? [.key "ietf-snmp:snmp", .key "vacm", .key "group", .index group, .key "access",
    .index access, .key leaf]

/-- Leaves that are not implemented have their default, and so have the leaves of access
entries that are not written to snmpd.conf. -/
structure LeavesAtDefault (tree : Json) : Prop where
  governed : ∀ pos d leaf, Governed tree pos d leaf → IsDefault pos d leaf
  context : ∀ group access v, accessLeaf tree group access "context" = some v → v = .string ""
  contextMatch : ∀ group access v, accessLeaf tree group access "context-match" = some v →
    v = .string "exact"

/-- Strings with a default have a colon only as identities, after their module name. -/
def ColonsOfIdentities (tree : Json) : Prop :=
  ∀ pos d s, Governed tree pos d (.string s) → ':' ∈ s.toList →
    isIdentityref pos = true ∧ (s.toList.filter (· == ':')).length = 1

end Property

section Accepted

theorem isValue_of_governed {tree : Json} (distinct : tree.Distinct) (clean : check tree = [])
    {pos : List Step} {d : String} {leaf : Json} (h : Governed tree pos d leaf) :
    isValue leaf d = true := by
  obtain ⟨root, c, hc, hrule, hleaf⟩ := h
  have hnode : IsNode tree (root, pos) := ⟨c, hc, by rw [hleaf]; rfl⟩
  rw [check_eq distinct, List.filterMap_eq_nil_iff] at clean
  have herror := clean (root, pos) ((mem_nodes distinct (root, pos)).mpr hnode)
  have hmessage : messageAt c.value c.rule c.path pos = none := by
    simpa [errorAt, hc] using herror
  exact (messageAt_eq_none_iff.mp hmessage).2 d leaf hrule hleaf

/-- A string is taken for a default if it is the default up to its last colon. -/
theorem isValue_string {s d : String} (h : isValue (.string s) d = true) (hcolon : ':' ∈ s.toList) :
    s = d ∨ ∃ front, s.toList = front ++ ':' :: d.toList := by
  rw [isValue, Bool.or_eq_true, beq_iff_eq, beq_iff_eq] at h
  rcases h with h | h
  · exact Or.inl h
  · obtain ⟨front, hfront⟩ := Text.afterLast_of_mem hcolon
    refine Or.inr ⟨front, ?_⟩
    rw [hfront, ← h, unprefixed, String.toList_ofList]

theorem count_colon_cut (front rest : List Char) :
    ((front ++ ':' :: rest).filter (· == ':')).length =
      (front.filter (· == ':')).length + 1 + (rest.filter (· == ':')).length := by
  simp only [List.filter_append, List.filter_cons, List.length_append, beq_self_eq_true, if_true,
    List.length_cons]
  omega

theorem filter_colon_eq_nil {text : List Char} :
    (text.filter (· == ':')).length = 0 ↔ ':' ∉ text := by
  rw [List.length_eq_zero_iff, List.filter_eq_nil_iff]
  constructor
  · intro h hin
    exact h ':' hin rfl
  · intro h c hc heq
    exact h ((beq_iff_eq.mp heq) ▸ hc)

/-- What is accepted as a default is one, unless a colon deceives. -/
theorem isDefault_of_isValue {pos : List Step} {d : String} {leaf : Json} (hd : ':' ∉ d.toList)
    (h : isValue leaf d = true)
    (hcolon : ∀ s, leaf = .string s → ':' ∈ s.toList →
      isIdentityref pos = true ∧ (s.toList.filter (· == ':')).length = 1) :
    IsDefault pos d leaf := by
  cases leaf with
  | bool b => exact .bool b (by simpa [isValue] using h)
  | number n => exact .number n (by simpa [isValue] using h)
  | string s =>
    by_cases hs : ':' ∈ s.toList
    · obtain ⟨hidentityref, hone⟩ := hcolon s rfl hs
      rcases isValue_string h hs with rfl | ⟨front, hfront⟩
      · exact absurd hs hd
      · have hplain : ':' ∉ front := by
          rw [hfront, count_colon_cut] at hone
          exact filter_colon_eq_nil.mp (by omega)
        have htext : s = String.ofList front ++ ":" ++ d := by
          apply String.toList_inj.mp
          simp [hfront]
        rw [htext]
        exact .identity _ hidentityref (by simpa using hplain)
    · have hsame : s = d := by
        simpa [isValue, unprefixed, Text.afterLast_of_not_mem hs] using h
      rw [hsame]
      exact .string
  | _ => cases h

theorem IsDefault.colons {pos : List Step} {d s : String} (hd : ':' ∉ d.toList)
    (h : IsDefault pos d (.string s)) (hs : ':' ∈ s.toList) :
    isIdentityref pos = true ∧ (s.toList.filter (· == ':')).length = 1 := by
  cases h with
  | string => exact absurd hs hd
  | identity name identityref plain =>
    refine ⟨identityref, ?_⟩
    have htext : (name ++ ":" ++ d).toList = name.toList ++ ':' :: d.toList := by simp
    rw [htext, count_colon_cut, filter_colon_eq_nil.mpr plain, filter_colon_eq_nil.mpr hd]

/-- Where a default is not the text of a number or a boolean, the value is the string. -/
theorem IsDefault.eq_string {pos : List Step} {d : String} {v : Json} (h : IsDefault pos d v)
    (hidentityref : isIdentityref pos = false) (hnumber : isNumberText d.toList = false)
    (hbool : d ≠ "true" ∧ d ≠ "false") : v = .string d := by
  cases h with
  | string => rfl
  | bool b hb =>
    cases b with
    | true => exact absurd hb.symm hbool.1
    | false => exact absurd hb.symm hbool.2
  | number n hn =>
    have hshown := n.isNumberText_display
    rw [hn, hnumber] at hshown
    cases hshown
  | identity name identityref plain =>
    rw [hidentityref] at identityref
    cases identityref

/-- The path of a leaf of an access entry, from the container of `/snmp`. -/
def accessPath (group access : Nat) (leaf : String) : List Step :=
  [.key "vacm", .key "group", .index group, .key "access", .index access, .key leaf]

theorem ruleAt_accessPath (group access : Nat) (leaf : String) :
    ruleAt (.node snmp) (accessPath group access leaf) =
      ruleAt (.node snmp) (accessPath 0 0 leaf) := rfl

theorem governed_accessLeaf {tree : Json} {group access : Nat} {leaf d : String} {v : Json}
    (hrule : ruleAt (.node snmp) (accessPath 0 0 leaf) = some (.default d))
    (hv : accessLeaf tree group access leaf = some v) :
    Governed tree (accessPath group access leaf) d v := by
  cases tree with
  | object members =>
    rw [accessLeaf, at?, Option.bind_eq_some_iff] at hv
    obtain ⟨container, hcontainer, hrest⟩ := hv
    have htop : top.lookup "ietf-snmp:snmp" = some (.node snmp) := rfl
    refine ⟨.top "ietf-snmp:snmp", .ofTop "ietf-snmp:snmp" (.node snmp) container, ?_,
      (ruleAt_accessPath group access leaf).trans hrule, hrest⟩
    rw [rootAt, htop, Option.bind_some, Json.get, hcontainer]
    rfl
  | _ => cases hv

end Accepted

/-- An accepted tree has its leaves at their defaults exactly if its colons are those of
identities. -/
theorem accepted_leaves_at_default_iff (tree : Json) (distinct : tree.Distinct)
    (switchPorts : BTreeSet String) (state : DesiredState)
    (accepted : validate tree switchPorts = .ok state) :
    LeavesAtDefault tree ↔ ColonsOfIdentities tree := by
  have hcolonless : ∀ {pos d leaf}, Governed tree pos d leaf → ':' ∉ d.toList := by
    intro pos d leaf h
    obtain ⟨root, c, hc, hrule, -⟩ := h
    exact rootAt_no_colon hc hrule
  constructor
  · intro h pos d s hgoverned hs
    exact (h.governed pos d _ hgoverned).colons (hcolonless hgoverned) hs
  · intro h
    have hdefault : ∀ pos d leaf, Governed tree pos d leaf → IsDefault pos d leaf := by
      intro pos d leaf hgoverned
      have hvalue := isValue_of_governed distinct (validate_ok.mp accepted).1 hgoverned
      refine isDefault_of_isValue (hcolonless hgoverned) hvalue fun s hs hcolon => ?_
      subst hs
      exact h pos d s hgoverned hcolon
    refine ⟨hdefault, fun group access v hv => ?_, fun group access v hv => ?_⟩
    · have hgoverned := governed_accessLeaf (d := "") rfl hv
      exact (hdefault _ _ _ hgoverned).eq_string rfl (by decide) (by decide)
    · have hgoverned := governed_accessLeaf (d := "exact") rfl hv
      exact (hdefault _ _ _ hgoverned).eq_string rfl (by decide) (by decide)

/-- An SNMP agent with one access entry, which is for a context. -/
def contextTree (context : String) : Json :=
  agentTree
    [groupEntry "readers" "monitor" [accessEntry context "usm" "auth-no-priv" (some "system")]]
    [viewEntry "system" "1.3.6.1.2.1"]

theorem contextTree_distinct (context : String) : (contextTree context).Distinct :=
  distinct_of_keysDistinct _ rfl

/-- What is desired of the agent, whatever the context. -/
def contextState : DesiredState where
  snmp := some (agentOf
    [("readers", ⟨Std.ExtTreeSet.ofList ["monitor"] compare, [⟨.authNoPriv, some "system"⟩]⟩)]
    [("system", ⟨["1.3.6.1.2.1"], []⟩)])

/-- No string in the tree has a colon. -/
def NoColon (v : Json) : Prop := ∀ pos s, v.at? pos = some (.string s) → ':' ∉ s.toList

theorem noColon_bool (b : Bool) : NoColon (.bool b) := by
  rintro (- | ⟨_ | _, _⟩) t ht <;> cases ht

theorem noColon_null : NoColon .null := by
  rintro (- | ⟨_ | _, _⟩) t ht <;> cases ht

theorem noColon_string {s : String} (h : ':' ∉ s.toList) : NoColon (.string s) := by
  rintro (- | ⟨_ | _, _⟩) t ht <;> cases ht
  exact h

theorem noColon_array {items : List Json} (h : ∀ v ∈ items, NoColon v) : NoColon (.array items) := by
  rintro (- | ⟨_ | n, rest⟩) t ht
  · cases ht
  · cases ht
  · obtain ⟨v, hv, hrest⟩ := Option.bind_eq_some_iff.mp ht
    exact h v (List.mem_of_getElem? hv) rest t hrest

theorem noColon_object {members : List (String × Json)} (h : ∀ m ∈ members, NoColon m.2) :
    NoColon (.object members) := by
  rintro (- | ⟨k | _, rest⟩) t ht
  · cases ht
  · obtain ⟨v, hv, hrest⟩ := Option.bind_eq_some_iff.mp ht
    obtain ⟨before, after, rfl, -⟩ := List.lookup_eq_some_iff.mp hv
    exact h (k, v) (by simp) rest t hrest
  · cases ht

theorem accepted_leaves_at_default_iff_empty :
    validate (contextTree "") ∅ = .ok contextState ∧ LeavesAtDefault (contextTree "") := by
  have accepted : validate (contextTree "") ∅ = .ok contextState := by decide +kernel
  have plain : NoColon (contextTree "") := by
    repeat' first
      | exact noColon_string (by decide)
      | exact noColon_bool _
      | exact noColon_null
      | refine noColon_object (List.forall_mem_cons.mpr ⟨?_, ?_⟩)
      | refine noColon_array (List.forall_mem_cons.mpr ⟨?_, ?_⟩)
      | refine List.forall_mem_cons.mpr ⟨?_, ?_⟩
      | exact List.forall_mem_nil _
  refine ⟨accepted, (accepted_leaves_at_default_iff (contextTree "") (contextTree_distinct "") ∅
    contextState accepted).mpr ?_⟩
  rintro pos d s ⟨root, c, hroot, -, hleaf⟩ hcolon
  cases root with
  | interface n => cases hroot
  | top key =>
    obtain ⟨rule, -, hmap⟩ := Option.bind_eq_some_iff.mp hroot
    obtain ⟨value, hvalue, rfl⟩ := Option.map_eq_some_iff.mp hmap
    refine absurd hcolon (plain (.key key :: pos) s ?_)
    exact Option.bind_eq_some_iff.mpr ⟨value, hvalue, hleaf⟩

/-- Access in the context "ctx:" is accepted, and written as access in the context "". -/
theorem context_ending_in_colon_accepted :
    validate (contextTree "ctx:") ∅ = .ok contextState ∧
      accessLeaf (contextTree "ctx:") 0 0 "context" = some (.string "ctx:") ∧
      accessLine "readers" ⟨.authNoPriv, some "system"⟩ =
        "access readers \"\" usm auth exact system none none" ∧
      ¬ LeavesAtDefault (contextTree "ctx:") := by
  have hleaf : accessLeaf (contextTree "ctx:") 0 0 "context" = some (.string "ctx:") := rfl
  refine ⟨by decide +kernel, hleaf, by decide +kernel, fun h => ?_⟩
  have hcontext := h.context 0 0 _ hleaf
  simp at hcontext

end ClixonSwitch.Guarantees
