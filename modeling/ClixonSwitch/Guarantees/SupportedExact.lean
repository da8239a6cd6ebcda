import ClixonSwitch.Source.SwitchModel.Deserialize

/-!
# Only implemented configuration is accepted

What `check` reports, node by node: one error for each topmost node that the table
reached by its path does not list, one for each leaf that must have its default and
has not, and none for other nodes. So all nodes of an accepted tree are listed.
-/
namespace ClixonSwitch.Guarantees
open Lib Lib.Json
open Source.SwitchModel Source.SwitchModel.Supported

section Rules

/-- The rule that the tables reach along a path. -/
def ruleAt : Rule → List Step → Option Rule
  | rule, [] => some rule
  | .node rules, .key k :: rest => (rules.lookup k).bind fun rule => ruleAt rule rest
  | .list rules, .index _ :: rest => ruleAt (.node rules) rest
  | _, _ :: _ => none

/-- A topmost node that is not listed: the path reaches a table for its parent, and the
table has no rule for its key. -/
def Unlisted (rule : Rule) (pos : List Step) : Prop :=
  ∃ parent k rules, pos = parent ++ [.key k] ∧ ruleAt rule parent = some (.node rules) ∧
    rules.lookup k = none

/-- The path stays in a subtree that is not looked into. -/
def Skipped (rule : Rule) (pos : List Step) : Prop :=
  ∃ p, p <+: pos ∧ (ruleAt rule p = some .any ∨ ruleAt rule p = some .ignore)

theorem ruleAt_append (rule : Rule) (p q : List Step) :
    ruleAt rule (p ++ q) = (ruleAt rule p).bind fun r => ruleAt r q := by
  induction p generalizing rule with
  | nil => rfl
  | cons step rest ih =>
    rw [List.cons_append]
    cases rule <;> cases step <;> simp [ruleAt, ih, Option.bind_assoc]

/-- `Unlisted`, computed along the path. -/
def unlisted : Rule → List Step → Bool
  | .node rules, .key k :: rest =>
    match rules.lookup k with
    | none => rest.isEmpty
    | some rule => unlisted rule rest
  | .list rules, .index _ :: rest => unlisted (.node rules) rest
  | _, _ => false

theorem not_unlisted_nil (rule : Rule) : ¬ Unlisted rule [] := by
  rintro ⟨parent, k, rules, hpos, -⟩
  simp at hpos

/-- The first key has no rule and nothing follows it, or a later one has none. -/
theorem unlisted_cons (rule : Rule) (step : Step) (rest : List Step) :
    Unlisted rule (step :: rest) ↔
      (∃ k rules, step = .key k ∧ rest = [] ∧ rule = .node rules ∧ rules.lookup k = none) ∨
      ∃ parent k rules, rest = parent ++ [.key k] ∧
        ruleAt rule (step :: parent) = some (.node rules) ∧ rules.lookup k = none := by
  constructor
  · rintro ⟨parent, k, rules, hpos, hrule, hnone⟩
    cases parent with
    | nil =>
      obtain ⟨rfl, rfl⟩ := List.cons.inj hpos
      exact Or.inl ⟨k, rules, rfl, rfl, Option.some.inj hrule, hnone⟩
    | cons s parent =>
      obtain ⟨rfl, rfl⟩ := List.cons.inj hpos
      exact Or.inr ⟨parent, k, rules, rfl, hrule, hnone⟩
  · rintro (⟨k, rules, rfl, rfl, rfl, hnone⟩ | ⟨parent, k, rules, rfl, hrule, hnone⟩)
    · exact ⟨[], k, rules, rfl, rfl, hnone⟩
    · exact ⟨step :: parent, k, rules, rfl, hrule, hnone⟩

theorem unlisted_iff (rule : Rule) (pos : List Step) :
    unlisted rule pos = true ↔ Unlisted rule pos := by
  induction pos generalizing rule with
  | nil =>
    have hfalse : unlisted rule [] = false := by cases rule <;> rfl
    simp [hfalse, not_unlisted_nil]
  | cons step rest ih =>
    rw [unlisted_cons]
    cases rule with
    | node rules =>
      cases step with
      | index n => simp [unlisted, ruleAt]
      | key k =>
        cases hl : rules.lookup k with
        | none =>
          simp only [unlisted, ruleAt, hl, List.isEmpty_iff, Option.bind_none, reduceCtorEq,
            false_and, and_false, exists_false, or_false]
          exact ⟨fun h => ⟨k, rules, rfl, h, rfl, hl⟩, fun ⟨_, _, _, h, _⟩ => h⟩
        | some r =>
          simp only [unlisted, ruleAt, hl, ih r, Option.bind_some]
          refine ⟨Or.inr, Or.rec ?_ id⟩
          rintro ⟨_, _, ⟨⟩, -, ⟨⟩, hnone⟩
          rw [hl] at hnone
          cases hnone
    | list rules =>
      cases step with
      | key k => simp [unlisted, ruleAt]
      | index n => simp [unlisted, ruleAt, ih (.node rules), Unlisted]
    | _ => cases step <;> simp [unlisted, ruleAt]

/-- Below a rule without a table the tables reach nothing. -/
theorem Skipped.not_unlisted {rule : Rule} {pos : List Step} (h : Skipped rule pos) :
    ¬ Unlisted rule pos := by
  rintro ⟨parent, k, rules, rfl, hparent, hnone⟩
  obtain ⟨p, ⟨rest, hrest⟩, hp⟩ := h
  rcases List.eq_nil_or_concat' rest with rfl | ⟨front, last, rfl⟩
  · rw [List.append_nil] at hrest
    rw [hrest, ruleAt_append, hparent] at hp
    simp [ruleAt, hnone] at hp
  · rw [← List.append_assoc] at hrest
    obtain ⟨rfl, -⟩ := List.append_inj' hrest rfl
    rw [ruleAt_append] at hparent
    rcases hp with hp | hp <;> rw [hp] at hparent <;> cases front <;> simp [ruleAt] at hparent

end Rules

section Messages

/-- The path of a node as messages show it. -/
def pathText (path : String) : List Step → String
  | [] => path
  | .key k :: rest => pathText (childPath path k) rest
  | .index _ :: rest => pathText path rest

/-- What is reported of the node at a position. -/
def messageAt (v : Json) (rule : Rule) (path : String) (pos : List Step) : Option String :=
  if unlisted rule pos then some (pathText path pos ++ " is not supported")
  else
    match ruleAt rule pos, v.at? pos with
    | some (.default d), some leaf =>
      if isValue leaf d then none
      else some (pathText path pos ++ " " ++ shown leaf ++ " is not supported, only " ++ d)
    | _, _ => none

theorem messageAt_unlisted (v : Json) {rule : Rule} (path : String) {pos : List Step}
    (h : Unlisted rule pos) :
    messageAt v rule path pos = some (pathText path pos ++ " is not supported") := by
  rw [messageAt, if_pos ((unlisted_iff rule pos).mpr h)]

theorem messageAt_eq_none_iff {v : Json} {rule : Rule} {path : String} {pos : List Step} :
    messageAt v rule path pos = none ↔ ¬ Unlisted rule pos ∧ ∀ d leaf,
      ruleAt rule pos = some (.default d) → v.at? pos = some leaf → isValue leaf d = true := by
  rw [messageAt, ← unlisted_iff]
  cases hu : unlisted rule pos with
  | true => simp
  | false =>
    simp only [Bool.false_eq_true, if_false, not_false_eq_true, true_and]
    constructor
    · intro h d leaf hrule hleaf
      rw [hrule, hleaf] at h
      simpa using h
    · intro h
      split
      · next d leaf hrule hleaf => rw [if_pos (h d leaf hrule hleaf)]
      · rfl

/-- A node that is listed under a rule with members, or skipped, is not reported. -/
theorem messageAt_skipped (v : Json) {rule : Rule} (path : String) {pos : List Step}
    (h : Skipped rule pos) : messageAt v rule path pos = none := by
  refine messageAt_eq_none_iff.mpr ⟨h.not_unlisted, fun d leaf hrule _ => ?_⟩
  obtain ⟨p, ⟨rest, rfl⟩, hp⟩ := h
  rw [ruleAt_append] at hrule
  rcases hp with hp | hp <;> rw [hp] at hrule <;> cases rest <;> simp [ruleAt] at hrule

/-- A leaf with a default is the only node that its rule is about. -/
theorem checkValue_default (v : Json) (d path : String) :
    checkValue v (.default d) path = v.positions.filterMap (messageAt v (.default d) path) := by
  obtain ⟨below, hpositions, hnil⟩ := v.positions_eq_cons
  have hbelow : below.filterMap (messageAt v (.default d) path) = [] := by
    refine List.filterMap_eq_nil_iff.mpr fun pos hpos => ?_
    cases pos with
    | nil => exact absurd hpos hnil
    | cons step rest => simp [messageAt, unlisted, ruleAt]
  have hcheck : checkValue v (.default d) path = if isValue v d then [] else
      [path ++ " " ++ shown v ++ " is not supported, only " ++ d] := by
    cases v <;> simp only [checkValue]
  rw [hpositions, List.filterMap_cons, hbelow, hcheck]
  simp only [messageAt, unlisted, ruleAt, at?, Bool.false_eq_true, if_false, pathText]
  split <;> rfl

/-- Where nothing is checked, nothing is reported of any node. -/
theorem checkValue_silent {v : Json} {rule : Rule} {path : String}
    (hcheck : checkValue v rule path = [])
    (hnone : ∀ pos ∈ v.positions, messageAt v rule path pos = none) :
    checkValue v rule path = v.positions.filterMap (messageAt v rule path) := by
  rw [hcheck, List.filterMap_eq_nil_iff.mpr hnone]

theorem checkValue_skipped (v : Json) {rule : Rule} (h : rule = .any ∨ rule = .ignore)
    (path : String) : checkValue v rule path = v.positions.filterMap (messageAt v rule path) := by
  refine checkValue_silent ?_ fun pos _ => messageAt_skipped v path ⟨[], List.nil_prefix, ?_⟩
  · rcases h with rfl | rfl <;> cases v <;> simp [checkValue]
  · rcases h with rfl | rfl <;> simp [ruleAt]

theorem checkEach_eq (members : List (String × Json)) (rules : Rules) (path : String) :
    checkEach members rules path = members.flatMap fun m => checkMember m rules path := by
  induction members with
  | nil => rfl
  | cons m rest ih => rw [checkEach, ih, List.flatMap_cons]

theorem checkEntries_eq (items : List Json) (rules : Rules) (path : String) :
    checkEntries items rules path = items.flatMap fun v => checkValue v (.node rules) path := by
  induction items with
  | nil => rfl
  | cons v rest ih => rw [checkEntries, ih, List.flatMap_cons]

/-- Reports at a member of an object are those of the value that the member has. -/
theorem messageAt_member {members : List (String × Json)} {rules : Rules} {k : String} {w : Json}
    {r : Rule} (hw : members.lookup k = some w) (hr : rules.lookup k = some r) (path : String)
    (rest : List Step) :
    messageAt (.object members) (.node rules) path (.key k :: rest) =
      messageAt w r (childPath path k) rest := by
  simp only [messageAt, unlisted, hr, ruleAt, at?, hw, Option.bind_some, pathText]

theorem messageAt_item {items : List Json} {rules : Rules} {n : Nat} {w : Json}
    (hw : items[n]? = some w) (path : String) (rest : List Step) :
    messageAt (.array items) (.list rules) path (.index n :: rest) =
      messageAt w (.node rules) path rest := by
  simp only [messageAt, unlisted, ruleAt, at?, hw, Option.bind_some, pathText]

/-- `check_value` reports what there is to report of each node, in their order. -/
theorem checkValue_eq (v : Json) (h : v.Distinct) (rule : Rule) (path : String) :
    checkValue v rule path = v.positions.filterMap (messageAt v rule path) := by
  induction v using Json.induction generalizing rule path with
  | object members ih =>
    cases rule with
    | any => exact checkValue_skipped _ (Or.inl rfl) path
    | ignore => exact checkValue_skipped _ (Or.inr rfl) path
    | default d => exact checkValue_default _ d path
    | list rules =>
      refine checkValue_silent (by simp [checkValue]) fun pos hpos => ?_
      rcases pos with - | ⟨k | n, rest⟩
      · simp [messageAt, unlisted, ruleAt]
      · simp [messageAt, unlisted, ruleAt]
      · simp at hpos
    | node rules =>
      have hroot : messageAt (.object members) (.node rules) path [] = none := by
        simp [messageAt, unlisted, ruleAt]
      rw [checkValue, checkEach_eq, positions_object, List.filterMap_cons, hroot,
        List.filterMap_flatMap]
      refine List.flatMap_congr fun m hm => ?_
      have hw := (mem_iff_lookup h.keys m.1 m.2).mp hm
      rw [List.filterMap_map, checkMember]
      cases hr : rules.lookup m.1 with
      | none =>
        -- not listed: the member is reported, and nothing below it
        obtain ⟨below, hpositions, hnil⟩ := m.2.positions_eq_cons
        have hbelow : below.filterMap (messageAt (.object members) (.node rules) path ∘
            (Step.key m.1 :: ·)) = [] := by
          refine List.filterMap_eq_nil_iff.mpr fun rest hrest => ?_
          have hne : rest ≠ [] := fun heq => hnil (heq ▸ hrest)
          simp [messageAt, unlisted, ruleAt, hr, hne]
        rw [hpositions, List.filterMap_cons, hbelow]
        simp [messageAt, unlisted, hr, pathText]
      | some r =>
        simp only [ih m hm (h.member hw) r (childPath path m.1)]
        exact (List.filterMap_congr fun rest _ => (messageAt_member hw hr path rest)).symm
  | array items ih =>
    cases rule with
    | any => exact checkValue_skipped _ (Or.inl rfl) path
    | ignore => exact checkValue_skipped _ (Or.inr rfl) path
    | default d => exact checkValue_default _ d path
    | node rules =>
      refine checkValue_silent (by simp [checkValue]) fun pos hpos => ?_
      rcases pos with - | ⟨k | n, rest⟩
      · simp [messageAt, unlisted, ruleAt]
      · simp at hpos
      · simp [messageAt, unlisted, ruleAt]
    | list rules =>
      have hroot : messageAt (.array items) (.list rules) path [] = none := by
        simp [messageAt, unlisted, ruleAt]
      have hzip : items.flatMap (fun v => checkValue v (.node rules) path) =
          items.zipIdx.flatMap fun e => checkValue e.1 (.node rules) path := by
        conv_lhs => rw [← List.zipIdx_map_fst 0 items, List.flatMap_map]
      rw [checkValue, checkEntries_eq, positions_array, List.filterMap_cons, hroot,
        List.filterMap_flatMap, hzip]
      refine List.flatMap_congr fun e he => ?_
      have hw := List.mem_zipIdx_iff_getElem?.mp he
      rw [List.filterMap_map, ih e.1 (List.mem_of_getElem? hw) (h.item hw)]
      exact (List.filterMap_congr fun rest _ => (messageAt_item hw path rest)).symm
  | _ =>
    cases rule with
    | any => exact checkValue_skipped _ (Or.inl rfl) path
    | ignore => exact checkValue_skipped _ (Or.inr rfl) path
    | default d => exact checkValue_default _ d path
    | _ =>
      refine checkValue_silent (by simp [checkValue]) fun pos hpos => ?_
      obtain rfl : pos = [] := by simpa [positions] using hpos
      simp [messageAt, unlisted, ruleAt]

end Messages

section Trees

/-- A subtree that is checked: an interface entry, or a top-level container. -/
inductive Root where
  | interface (n : Nat)
  | top (key : String)
  deriving DecidableEq, Repr

/-- How a subtree is checked: the interface its errors name, the path they start with,
its rule and its value. -/
structure Checked where
  name : String
  path : String
  rule : Rule
  value : Json

def Checked.ofInterface (entry : Json) : Checked :=
  ⟨interfaceName entry, "", .node interface, entry⟩

def Checked.ofTop (key : String) (rule : Rule) (value : Json) : Checked :=
  ⟨"", unprefixed key, rule, value⟩

/-- The subtree at a root, if the tree has it. -/
def rootAt (tree : Json) : Root → Option Checked
  | .interface n => (interfaces tree)[n]?.map Checked.ofInterface
  | .top key => (top.lookup key).bind fun rule => (tree.get key).map (Checked.ofTop key rule)

/-- A node of a checked subtree. -/
abbrev Node := Root × List Step

def IsNode (tree : Json) (node : Node) : Prop :=
  ∃ c, rootAt tree node.1 = some c ∧ (c.value.at? node.2).isSome = true

/-- What is reported of a node. -/
def errorAt (tree : Json) (node : Node) : Option Error :=
  (rootAt tree node.1).bind fun c =>
    (messageAt c.value c.rule c.path node.2).map (Error.mk c.name)

/-- The checked subtrees in the order of `check`. -/
def roots (tree : Json) : List (Root × Checked) :=
  (interfaces tree).zipIdx.map (fun e => (.interface e.2, .ofInterface e.1)) ++
    top.filterMap fun e => (tree.get e.1).map fun value => (.top e.1, .ofTop e.1 e.2 value)

theorem top_keys_nodup : (top.map Prod.fst).Nodup := by decide +kernel

theorem mem_roots (tree : Json) (root : Root) (c : Checked) :
    (root, c) ∈ roots tree ↔ rootAt tree root = some c := by
  rw [roots, List.mem_append, List.mem_map, List.mem_filterMap]
  cases root with
  | interface n =>
    simp only [Prod.mk.injEq, Root.interface.injEq, Option.map_eq_some_iff, reduceCtorEq, false_and,
      and_false, exists_false, or_false, rootAt]
    constructor
    · rintro ⟨e, he, rfl, rfl⟩
      exact ⟨e.1, List.mem_zipIdx_iff_getElem?.mp he, rfl⟩
    · rintro ⟨entry, hentry, rfl⟩
      exact ⟨(entry, n), List.mem_zipIdx_iff_getElem?.mpr hentry, rfl, rfl⟩
  | top key =>
    simp only [Prod.mk.injEq, reduceCtorEq, false_and, and_false, exists_false, false_or,
      Root.top.injEq, Option.map_eq_some_iff, Prod.exists, rootAt, Option.bind_eq_some_iff,
      ← mem_iff_lookup top_keys_nodup]
    constructor
    · rintro ⟨k, rule, hin, value, hvalue, rfl, rfl⟩
      exact ⟨rule, hin, value, hvalue, rfl⟩
    · rintro ⟨rule, hin, value, hvalue, rfl⟩
      exact ⟨key, rule, hin, value, hvalue, rfl, rfl⟩

theorem nodup_roots (tree : Json) : ((roots tree).map Prod.fst).Nodup := by
  have hinterfaces : (((interfaces tree).zipIdx.map fun e =>
      ((.interface e.2, .ofInterface e.1) : Root × Checked)).map Prod.fst) =
      (List.range' 0 (interfaces tree).length).map Root.interface := by
    rw [List.map_map, ← List.zipIdx_map_snd, List.map_map]
    rfl
  have htop : ((top.filterMap fun e => (tree.get e.1).map fun value =>
      ((.top e.1, .ofTop e.1 e.2 value) : Root × Checked)).map Prod.fst).Sublist
      ((top.map Prod.fst).map Root.top) := by
    induction top with
    | nil => simp
    | cons e rest ih =>
      rw [List.filterMap_cons, List.map_cons, List.map_cons]
      cases tree.get e.1 with
      | none => exact ih.trans (List.sublist_cons_self _ _)
      | some value => exact ih.cons_cons _
  rw [roots, List.map_append, hinterfaces, List.nodup_append]
  refine ⟨List.Nodup.map (fun a b => Root.interface.inj) List.nodup_range',
    htop.nodup (top_keys_nodup.map fun a b => Root.top.inj), fun a ha b hb => ?_⟩
  obtain ⟨n, -, rfl⟩ := List.mem_map.mp ha
  obtain ⟨key, -, rfl⟩ := List.mem_map.mp (htop.subset hb)
  exact nofun

/-- All nodes of the checked subtrees. -/
def nodes (tree : Json) : List Node :=
  (roots tree).flatMap fun r => r.2.value.positions.map fun pos => (r.1, pos)

/-- The keys of the checked subtrees are those of the tree. -/
theorem rootAt_distinct {tree : Json} (h : tree.Distinct) {root : Root} {c : Checked}
    (hc : rootAt tree root = some c) : c.value.Distinct := by
  cases root with
  | interface n =>
    obtain ⟨entry, hentry, rfl⟩ := Option.map_eq_some_iff.mp hc
    unfold interfaces at hentry
    cases hi : tree.get "openconfig-interfaces:interfaces" with
    | none => simp [hi] at hentry
    | some container =>
      cases hl : container.get "interface" with
      | none => simp [hi, hl] at hentry
      | some list =>
        cases list with
        | array items =>
          have hitem : items[n]? = some entry := by simpa [hi, hl, asArray] using hentry
          exact ((h.get hi).get hl).item hitem
        | _ => simp [hi, hl, asArray] at hentry
  | top key =>
    obtain ⟨rule, -, hmap⟩ := Option.bind_eq_some_iff.mp hc
    obtain ⟨value, hvalue, rfl⟩ := Option.map_eq_some_iff.mp hmap
    exact h.get hvalue

theorem mem_nodes {tree : Json} (h : tree.Distinct) (node : Node) :
    node ∈ nodes tree ↔ IsNode tree node := by
  obtain ⟨root, pos⟩ := node
  simp only [nodes, List.mem_flatMap, List.mem_map, Prod.mk.injEq, Prod.exists, mem_roots, IsNode]
  constructor
  · rintro ⟨root', c, hc, pos', hpos, rfl, rfl⟩
    exact ⟨c, hc, (mem_positions c.value (rootAt_distinct h hc) pos').mp hpos⟩
  · rintro ⟨c, hc, hpos⟩
    exact ⟨root, c, hc, pos, (mem_positions c.value (rootAt_distinct h hc) pos).mpr hpos, rfl, rfl⟩

theorem nodup_nodes {tree : Json} (h : tree.Distinct) : (nodes tree).Nodup := by
  rw [nodes, List.nodup_flatMap]
  refine ⟨fun r hr => ?_, (List.pairwise_map.mp (nodup_roots tree)).imp fun hne => ?_⟩
  · have hc := (mem_roots tree r.1 r.2).mp hr
    exact (nodup_positions r.2.value (rootAt_distinct h hc)).map fun a b hab =>
      (Prod.mk.inj hab).2
  · intro node hnode hnode'
    obtain ⟨a, -, rfl⟩ := List.mem_map.mp hnode
    obtain ⟨b, -, hb⟩ := List.mem_map.mp hnode'
    exact hne (Prod.mk.inj hb).1.symm

/-- `check` reports what there is to report of each node. -/
theorem check_eq {tree : Json} (h : tree.Distinct) :
    check tree = (nodes tree).filterMap (errorAt tree) := by
  have hroots : check tree = (roots tree).flatMap fun r =>
      (checkValue r.2.value r.2.rule r.2.path).map (Error.mk r.2.name) := by
    rw [check, roots, List.flatMap_append, List.flatMap_map]
    congr 1
    · conv_lhs => rw [← List.zipIdx_map_fst 0 (interfaces tree), List.flatMap_map]
      rfl
    · induction top with
      | nil => rfl
      | cons e rest ih =>
        rw [List.flatMap_cons, List.filterMap_cons, ih]
        cases tree.get e.1 <;> rfl
  rw [hroots, nodes, List.filterMap_flatMap]
  refine List.flatMap_congr fun r hr => ?_
  have hc := (mem_roots tree r.1 r.2).mp hr
  rw [checkValue_eq _ (rootAt_distinct h hc), List.filterMap_map, List.map_filterMap]
  refine List.filterMap_congr fun pos _ => ?_
  simp [errorAt, hc]

end Trees

section Accepted

/-- Containers are objects and lists are arrays, as YANG has it; the entries of a list
are containers. -/
def Shaped (tree : Json) : Prop :=
  ∀ root c pos v, rootAt tree root = some c → c.value.at? pos = some v →
    (∀ rules, ruleAt c.rule pos = some (.node rules) → ∃ members, v = .object members) ∧
    ∀ rules, ruleAt c.rule pos = some (.list rules) → ∃ items, v = .array items

/-- `Shaped` at one node. -/
def shapedAt (c : Checked) (pos : List Step) : Bool :=
  match ruleAt c.rule pos, c.value.at? pos with
  | some (.node _), some (.object _) => true
  | some (.node _), some _ => false
  | some (.list _), some (.array _) => true
  | some (.list _), some _ => false
  | _, _ => true

theorem object_of_shapedAt {c : Checked} {pos : List Step} {v : Json}
    {rules : List (String × Rule)} (h : shapedAt c pos = true)
    (hrule : ruleAt c.rule pos = some (.node rules)) (hv : c.value.at? pos = some v) :
    ∃ members, v = .object members := by
  rw [shapedAt, hrule, hv] at h
  cases v with
  | object members => exact ⟨members, rfl⟩
  | _ => cases h

theorem array_of_shapedAt {c : Checked} {pos : List Step} {v : Json}
    {rules : List (String × Rule)} (h : shapedAt c pos = true)
    (hrule : ruleAt c.rule pos = some (.list rules)) (hv : c.value.at? pos = some v) :
    ∃ items, v = .array items := by
  rw [shapedAt, hrule, hv] at h
  cases v with
  | array items => exact ⟨items, rfl⟩
  | _ => cases h

theorem shaped_of_roots {tree : Json} (h : tree.Distinct)
    (hall : ∀ r ∈ roots tree, ∀ pos ∈ r.2.value.positions, shapedAt r.2 pos = true) :
    Shaped tree := by
  intro root c pos v hc hv
  have hpos : pos ∈ c.value.positions :=
    (mem_positions c.value (rootAt_distinct h hc) pos).mpr (by rw [hv]; rfl)
  have hshaped := hall (root, c) ((mem_roots tree root c).mpr hc) pos hpos
  exact ⟨fun _ hrule => object_of_shapedAt hshaped hrule hv,
    fun _ hrule => array_of_shapedAt hshaped hrule hv⟩

/-- The tables list the node, or it is in a subtree that they leave open. -/
def Listed (rule : Rule) (pos : List Step) : Prop :=
  (ruleAt rule pos).isSome = true ∨ Skipped rule pos

theorem isValue_leaf {v : Json} {d : String} (h : isValue v d = true) (step : Step)
    (rest : List Step) : v.at? (step :: rest) = none := by
  cases v <;> cases step <;> simp_all [isValue, at?]

theorem Skipped.append {rule : Rule} {pos : List Step} (h : Skipped rule pos) (q : List Step) :
    Skipped rule (pos ++ q) := by
  obtain ⟨p, hp, hrule⟩ := h
  exact ⟨p, hp.trans (List.prefix_append pos q), hrule⟩

/-- Without errors every node is listed, from its parent on down. -/
theorem listed_of_clean {tree : Json} (h : tree.Distinct) (shaped : Shaped tree)
    (clean : check tree = []) {root : Root} {c : Checked} (hc : rootAt tree root = some c)
    (pos : List Step) (hpos : (c.value.at? pos).isSome = true) : Listed c.rule pos := by
  have hnone : ∀ p, (c.value.at? p).isSome = true →
      ¬ Unlisted c.rule p ∧ ∀ d leaf, ruleAt c.rule p = some (.default d) →
        c.value.at? p = some leaf → isValue leaf d = true := by
    intro p hp
    have herror : errorAt tree (root, p) = none := by
      rw [check_eq h, List.filterMap_eq_nil_iff] at clean
      exact clean (root, p) ((mem_nodes h (root, p)).mpr ⟨c, hc, hp⟩)
    have hmessage : messageAt c.value c.rule c.path p = none := by
      simpa [errorAt, hc] using herror
    exact messageAt_eq_none_iff.mp hmessage
  induction pos using List.reverseRecOn with
  | nil => exact Or.inl rfl
  | append_singleton parent step ih =>
    obtain ⟨child, hchild⟩ := Option.isSome_iff_exists.mp hpos
    rw [at?_append, Option.bind_eq_some_iff] at hchild
    obtain ⟨v, hv, hstep⟩ := hchild
    rcases ih (by rw [hv]; rfl) with hrule | hskipped
    · obtain ⟨rule, hrule⟩ := Option.isSome_iff_exists.mp hrule
      obtain ⟨hobject, harray⟩ := shaped root c parent v hc hv
      cases rule with
      | any => exact Or.inr (Skipped.append ⟨parent, List.prefix_rfl, Or.inl hrule⟩ _)
      | ignore => exact Or.inr (Skipped.append ⟨parent, List.prefix_rfl, Or.inr hrule⟩ _)
      | default d =>
        have hleaf := (hnone parent (by rw [hv]; rfl)).2 d v hrule hv
        rw [isValue_leaf hleaf step []] at hstep
        cases hstep
      | node rules =>
        obtain ⟨members, rfl⟩ := hobject rules hrule
        cases step with
        | index n => simp [at?] at hstep
        | key k =>
          cases hl : rules.lookup k with
          | none => exact absurd ⟨parent, k, rules, rfl, hrule, hl⟩ (hnone _ hpos).1
          | some r => exact Or.inl (by simp [ruleAt_append, hrule, ruleAt, hl])
      | list rules =>
        obtain ⟨items, rfl⟩ := harray rules hrule
        cases step with
        | key k => simp [at?] at hstep
        | index n => exact Or.inl (by simp [ruleAt_append, hrule, ruleAt])
    · exact Or.inr (hskipped.append _)

end Accepted

/-- What `check` does with a tree, and what its acceptance means. -/
structure ChecksNodes (tree : Json) : Prop where
  /-- Each node is reported at most once, and nothing else is. -/
  each : ∃ ns : List Node, ns.Nodup ∧ (∀ node, node ∈ ns ↔ IsNode tree node) ∧
    check tree = ns.filterMap (errorAt tree)
  unlisted : ∀ root pos c, rootAt tree root = some c → Unlisted c.rule pos →
    errorAt tree (root, pos) = some ⟨c.name, pathText c.path pos ++ " is not supported"⟩
  /-- Other errors are about leaves that must have their default. -/
  others : ∀ root pos c, rootAt tree root = some c → ¬ Unlisted c.rule pos →
    ∀ e, errorAt tree (root, pos) = some e → ∃ d leaf, ruleAt c.rule pos = some (.default d) ∧
      c.value.at? pos = some leaf ∧ isValue leaf d = false
  skipped : ∀ root pos c, rootAt tree root = some c → Skipped c.rule pos →
    errorAt tree (root, pos) = none
  accepted : ∀ switchPorts state, validate tree switchPorts = .ok state →
    ∀ root pos c, rootAt tree root = some c → (c.value.at? pos).isSome = true → Listed c.rule pos

theorem check_reports_unlisted (tree : Json) (distinct : tree.Distinct) (shaped : Shaped tree) :
    ChecksNodes tree where
  each := ⟨nodes tree, nodup_nodes distinct, mem_nodes distinct, check_eq distinct⟩
  unlisted root pos c hc h := by
    rw [errorAt, hc, Option.bind_some, messageAt_unlisted c.value c.path h]
    rfl
  others root pos c hc h e he := by
    rw [errorAt, hc, Option.bind_some, Option.map_eq_some_iff] at he
    obtain ⟨message, hmessage, -⟩ := he
    by_contra hno
    have hnone : messageAt c.value c.rule c.path pos = none := by
      refine messageAt_eq_none_iff.mpr ⟨h, fun d leaf hrule hleaf => ?_⟩
      by_contra hvalue
      exact hno ⟨d, leaf, hrule, hleaf, by simpa using hvalue⟩
    rw [hnone] at hmessage
    cases hmessage
  skipped root pos c hc h := by
    rw [errorAt, hc, Option.bind_some, messageAt_skipped c.value c.path h]
    rfl
  accepted switchPorts state haccepted root pos c hc hpos :=
    listed_of_clean distinct shaped (validate_ok.mp haccepted).1 hc pos hpos

/-- A port with a leaf that is not implemented, and one that has not its default. -/
def loopbackTree : Json :=
  .object
    [("clixon-switch:switch", .object [("config", .object [("vlan-mode", .string "DOT1Q")])]),
     ("openconfig-interfaces:interfaces", .object
      [("interface", .array
        [.object
          [("config", .object
            [("loopback-mode", .string "FACILITY"), ("name", .string "lan1"),
             ("tx-power", .number (.unsigned 3))]),
           ("name", .string "lan1")]])])]

theorem loopbackTree_distinct : loopbackTree.Distinct :=
  distinct_of_keysDistinct _ (by decide +kernel)

theorem check_reports_unlisted_loopback :
    check loopbackTree =
      [⟨"lan1", "config/loopback-mode FACILITY is not supported, only NONE"⟩,
       ⟨"lan1", "config/tx-power is not supported"⟩] ∧
    ChecksNodes loopbackTree :=
  ⟨by decide +kernel,
    check_reports_unlisted loopbackTree loopbackTree_distinct
      (shaped_of_roots loopbackTree_distinct (by decide +kernel))⟩

/-- The configuration of a module that the tables leave out. -/
def nacmTree : Json :=
  .object [("ietf-netconf-acm:nacm", .object [("enable-nacm", .bool true)])]

/-- Top-level modules without a table are accepted unchecked. -/
theorem nacm_accepted_unlisted :
    nacmTree.Distinct ∧ Shaped nacmTree ∧ (validate nacmTree ∅).isOk = true ∧
    (nacmTree.at? [.key "ietf-netconf-acm:nacm"]).isSome = true ∧
    top.lookup "ietf-netconf-acm:nacm" = none :=
  have distinct : nacmTree.Distinct := distinct_of_keysDistinct _ (by decide +kernel)
  ⟨distinct, shaped_of_roots distinct (by decide +kernel), by decide +kernel, by decide +kernel,
    by decide +kernel⟩

end ClixonSwitch.Guarantees
