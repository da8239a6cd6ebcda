import ClixonSwitch.Guarantees.StpSound
import ClixonSwitch.Lib.NumberList
import ClixonSwitch.Source.SwitchNet.Mstpctl

/-!
# The VLAN to MSTI mapping that mstpd is given

From the `vlan` entries of the `mst-instance` lists to the tables that the words of
`setvid2fid` and `setfid2mstid` describe, as mstpd reads them: a VLAN is in the MSTI
whose instance names it, and in the CIST if none does.
-/
namespace ClixonSwitch.Guarantees
open Std Lib Lib.NumberList
open Source.SwitchModel Source.SwitchNet

section Runs

/-- A range of VLAN ids contains `v`. -/
def InRanges (ranges : List (UInt16 × UInt16)) (v : UInt16) : Prop :=
  ∃ r ∈ ranges, r.1 ≤ v ∧ v ≤ r.2

theorem inRanges_append (as bs : List (UInt16 × UInt16)) (v : UInt16) :
    InRanges (as ++ bs) v ↔ InRanges as v ∨ InRanges bs v := by
  simp only [InRanges, List.mem_append, or_and_right, exists_or]

theorem inRanges_singleton (r : UInt16 × UInt16) (v : UInt16) :
    InRanges [r] v ↔ r.1 ≤ v ∧ v ≤ r.2 := by
  simp [InRanges]

/-- What the runs so far say of the ids so far: they contain exactly these, and the
last one ends at the last id. -/
structure RunsOf (done : List UInt16) (ranges : List (UInt16 × UInt16)) : Prop where
  contains : ∀ v, InRanges ranges v ↔ v ∈ done
  last : ranges.getLast?.map Prod.snd = done.getLast?
  ordered : ∀ r ∈ ranges, r.1 ≤ r.2

/-- The id after the last run, which the next one is compared with. -/
theorem RunsOf.next {done : List UInt16} {front : List (UInt16 × UInt16)} {low high vlan : UInt16}
    (h : RunsOf done (front ++ [(low, high)])) (above : ∀ v ∈ done, v < vlan) :
    low.toNat ≤ high.toNat ∧ high.toNat < vlan.toNat ∧ (high + 1).toNat = high.toNat + 1 := by
  have hlast : done.getLast? = some high := by simpa using h.last.symm
  have hlt : high.toNat < vlan.toNat :=
    UInt16.lt_iff_toNat_lt.mp (above high (List.mem_of_getLast? hlast))
  have hbound := vlan.toNat_lt
  refine ⟨UInt16.le_iff_toNat_le.mp (h.ordered (low, high) (by simp)), hlt, ?_⟩
  rw [UInt16.toNat_add]
  exact Nat.mod_eq_of_lt (by simp; omega)

theorem addToRanges_runs {done : List UInt16} {ranges : List (UInt16 × UInt16)} {vlan : UInt16}
    (h : RunsOf done ranges) (above : ∀ v ∈ done, v < vlan) :
    RunsOf (done ++ [vlan]) (addToRanges ranges vlan) := by
  rcases List.eq_nil_or_concat' ranges with rfl | ⟨front, ⟨low, high⟩, rfl⟩
  · have hnil : done = [] := by simpa using h.last.symm
    subst hnil
    refine ⟨fun v => ?_, rfl, ?_⟩
    · rw [addToRanges, List.getLast?_nil, inRanges_singleton, List.nil_append, List.mem_singleton]
      exact ⟨fun hv => UInt16.le_antisymm hv.2 hv.1, fun hv => by simp [hv]⟩
    · simp [addToRanges]
  · obtain ⟨hle, hlt, hnext⟩ := h.next above
    have hcontains := h.contains
    simp only [inRanges_append, inRanges_singleton] at hcontains
    simp only [addToRanges, List.getLast?_append, List.getLast?_singleton, Option.some_or]
    split
    · next hadjacent =>
      rw [List.dropLast_concat]
      have hvlan : vlan.toNat = high.toNat + 1 := by rw [← hadjacent, hnext]
      refine ⟨fun v => ?_, by simp, fun r hr => ?_⟩
      · rw [inRanges_append, inRanges_singleton, List.mem_append, List.mem_singleton,
          ← hcontains v]
        simp only [UInt16.le_iff_toNat_le, ← UInt16.toNat_inj]
        constructor
        · rintro (hv | hv)
          · exact Or.inl (Or.inl hv)
          · by_cases htop : v.toNat = vlan.toNat
            · exact Or.inr htop
            · exact Or.inl (Or.inr (by omega))
        · rintro ((hv | hv) | hv)
          · exact Or.inl hv
          · exact Or.inr (by omega)
          · exact Or.inr (by omega)
      · rcases List.mem_append.mp hr with hr | hr
        · exact h.ordered r (by simp [hr])
        · rw [List.mem_singleton.mp hr]
          rw [UInt16.le_iff_toNat_le]
          show low.toNat ≤ vlan.toNat
          omega
    · refine ⟨fun v => ?_, by simp, fun r hr => ?_⟩
      · rw [inRanges_append, h.contains v, inRanges_singleton, List.mem_append,
          List.mem_singleton]
        exact or_congr_right ⟨fun hv => UInt16.le_antisymm hv.2 hv.1, fun hv => by simp [hv]⟩
      · rcases List.mem_append.mp hr with hr | hr
        · exact h.ordered r hr
        · rw [List.mem_singleton.mp hr]
          exact UInt16.le_refl vlan

/-- The runs of increasing ids, taken one by one. -/
theorem runs_of_sorted (ids : List UInt16) (sorted : ids.Pairwise (· < ·)) :
    RunsOf ids (ids.foldl addToRanges []) := by
  induction ids using List.reverseRecOn with
  | nil => exact ⟨by simp [InRanges], rfl, by simp⟩
  | append_singleton done vlan ih =>
    obtain ⟨hdone, -, habove⟩ := List.pairwise_append.mp sorted
    rw [List.foldl_append]
    exact addToRanges_runs (ih hdone) fun v hv => habove v hv vlan (by simp)

theorem sorted_toList (vlans : BTreeSet UInt16) : vlans.toList.Pairwise (· < ·) :=
  (ExtTreeSet.ordered_toList (t := vlans)).imp compare_eq_lt.mp

/-- The runs of a set contain its elements and no others. -/
theorem runs_of_set (vlans : BTreeSet UInt16) :
    RunsOf vlans.toList (vlans.toList.foldl addToRanges []) :=
  runs_of_sorted vlans.toList (sorted_toList vlans)

end Runs

section Words

def boundsOf (r : UInt16 × UInt16) : Range := (r.1.toNat, r.2.toNat)

theorem covers_boundsOf (ranges : List (UInt16 × UInt16)) (v : UInt16) :
    (∃ r ∈ ranges.map boundsOf, r.covers v.toNat) ↔ InRanges ranges v := by
  simp [InRanges, boundsOf, Range.covers, UInt16.le_iff_toNat_le]

theorem vlanRanges_text (sep : String) (vlans : BTreeSet UInt16) :
    (vlanRanges sep vlans).map String.toList =
      ((vlans.toList.foldl addToRanges []).map boundsOf).map (rangeText sep.toList) := by
  have htext : ∀ v : UInt16, (toString v).toList = Nat.toDigits 10 v.toNat := fun v =>
    Nat.toList_repr
  rw [vlanRanges, List.map_map, List.map_map]
  refine List.map_congr_left fun r _ => ?_
  simp only [Function.comp, rangeText, boundsOf, UInt16.toNat_inj]
  split <;> simp [htext]

/-- The ranges written with ".." and rewritten to "-", as `commands` does it, are those
written with "-". -/
theorem vlanRanges_replace (vlans : BTreeSet UInt16) :
    ((vlanRanges ".." vlans).map String.toList).map (Text.replaceAll ['.', '.'] ['-']) =
      (vlanRanges "-" vlans).map String.toList := by
  rw [vlanRanges_text, vlanRanges_text, List.map_map]
  exact List.map_congr_left fun r _ => replaceAll_rangeText r

end Words

section Tables

/-- The tables of mstpd: the FID of each VLAN, and the MSTI of each FID. -/
structure MstTables where
  vid2fid : Nat → Nat
  fid2mstid : Nat → Nat

def MstTables.mstiOf (t : MstTables) (vid : Nat) : Nat := t.fid2mstid (t.vid2fid vid)

/-- The arguments `fid:list` of a mapping command, left to right. -/
def readTable (table : Nat → Nat) (args : List String) : Option (Nat → Nat) :=
  (args.mapM fun arg => readAssignment arg.toList).map (assignAll table)

/-- What a command line does to the tables; only the two mapping commands change them. -/
def MstTables.exec (t : MstTables) (words : List String) : Option MstTables :=
  if words.head? = some "setvid2fid" then
    (readTable t.vid2fid (words.drop 2)).map fun table => { t with vid2fid := table }
  else if words.head? = some "setfid2mstid" then
    (readTable t.fid2mstid (words.drop 2)).map fun table => { t with fid2mstid := table }
  else some t

def MstTables.run (t : MstTables) (lines : List (List String)) : Option MstTables :=
  lines.foldlM MstTables.exec t

theorem MstTables.run_append (t : MstTables) (as bs : List (List String)) :
    t.run (as ++ bs) = (t.run as).bind fun u => u.run bs :=
  List.foldlM_append

/-- A command that sets no table. -/
def Unmapped (c : Command) : Prop :=
  c.word ≠ .bridge .vid2fid ∧ c.word ≠ .bridge .fid2mstid

theorem exec_of_unmapped {c : Command} (h : Unmapped c) (br : String) (t : MstTables) :
    t.exec (c.words br) = some t := by
  have hne : ∀ w : BridgeSetting, c.word ≠ .bridge w → (c.words br).head? ≠ some w.word := by
    intro w hw heq
    rw [c.words_head br] at heq
    exact hw (Word.text_injective _ (.bridge w) (Option.some.inj heq))
  have hvid : (c.words br).head? ≠ some "setvid2fid" := hne .vid2fid h.1
  have hfid : (c.words br).head? ≠ some "setfid2mstid" := hne .fid2mstid h.2
  rw [MstTables.exec, if_neg hvid, if_neg hfid]

theorem run_of_unmapped {cs : List Command} (h : ∀ c ∈ cs, Unmapped c) (br : String)
    (t : MstTables) : t.run (cs.map (Command.words br)) = some t := by
  induction cs with
  | nil => rfl
  | cons c rest ih =>
    rw [List.map_cons, MstTables.run, List.foldlM_cons, exec_of_unmapped (h c (by simp))]
    exact ih fun d hd => h d (by simp [hd])

/-- The assignment of an MSTI's VLANs to its FID. -/
def vidAssignment (e : UInt16 × Msti) : Assignment :=
  (e.1.toNat, (e.2.vlans.toList.foldl addToRanges []).map boundsOf)

theorem vidAssignment_covers (e : UInt16 × Msti) (v : UInt16) :
    (vidAssignment e).covers v.toNat ↔ v ∈ e.2.vlans := by
  rw [Assignment.covers, vidAssignment, covers_boundsOf, (runs_of_set e.2.vlans).contains,
    ExtTreeSet.mem_toList]

theorem readAssignment_vid {e : UInt16 × Msti} (h : e.2.vlans.isEmpty = false) :
    readAssignment (toString e.1 ++ ":" ++ String.intercalate "," (vlanRanges "-" e.2.vlans)).toList
      = some (vidAssignment e) := by
  have htext : (toString e.1 ++ ":" ++
      String.intercalate "," (vlanRanges "-" e.2.vlans)).toList =
      assignmentText (vidAssignment e) := by
    rw [String.toList_append, String.toList_append, String.toList_intercalate, vlanRanges_text]
    exact congrArg (· ++ _ ++ _) Nat.toList_repr
  rw [htext, readAssignment_assignmentText]
  intro hnil
  obtain ⟨v, hv⟩ : ∃ v, v ∈ e.2.vlans := by
    by_contra hnone
    rw [ExtTreeSet.isEmpty_eq_false_iff, ExtTreeSet.eq_empty_iff_forall_not_mem] at h
    exact h fun v hv => hnone ⟨v, hv⟩
  obtain ⟨r, hr, -⟩ := (vidAssignment_covers e v).mpr hv
  rw [hnil] at hr
  cases hr

/-- The arguments of `setvid2fid` after the first one. -/
theorem mapM_vid2fidArgs (mstis : BTreeMap UInt16 Msti) :
    (vid2fidArgs mstis).mapM (fun arg => readAssignment arg.toList) =
      some ((mstis.toList.filter fun e => !e.2.vlans.isEmpty).map vidAssignment) := by
  rw [vid2fidArgs]
  induction mstis.toList with
  | nil => rfl
  | cons e rest ih =>
    cases he : e.2.vlans.isEmpty with
    | true =>
      simp only [List.filterMap_cons, List.filter_cons, he, if_true, Bool.not_true,
        Bool.false_eq_true, if_false]
      exact ih
    | false =>
      simp only [List.filterMap_cons, List.filter_cons, he, Bool.false_eq_true, if_false,
        Bool.not_false, if_true, List.mapM_cons, readAssignment_vid he, ih]
      rfl

def fidAssignment (id : UInt16) : Assignment := (id.toNat, [(id.toNat, id.toNat)])

theorem fidAssignment_covers (id : UInt16) (n : Nat) :
    (fidAssignment id).covers n ↔ n = id.toNat := by
  simp only [Assignment.covers, fidAssignment, List.mem_singleton, exists_eq_left, Range.covers]
  omega

theorem mapM_fid2mstidArgs (ids : List UInt16) :
    (ids.map fun id => toString id ++ ":" ++ toString id).mapM
      (fun arg => readAssignment arg.toList) = some (ids.map fidAssignment) := by
  have hread : ∀ id : UInt16, readAssignment (toString id ++ ":" ++ toString id).toList =
      some (fidAssignment id) := by
    intro id
    have htext : (toString id ++ ":" ++ toString id).toList = assignmentText (fidAssignment id) := by
      have hdigits : (toString id).toList = Nat.toDigits 10 id.toNat := Nat.toList_repr
      simp [assignmentText, fidAssignment, rangeText, hdigits]
    rw [htext, readAssignment_assignmentText (by simp [fidAssignment])]
  induction ids with
  | nil => rfl
  | cons id rest ih =>
    rw [List.map_cons, List.mapM_cons, hread id, ih]
    rfl

/-- The tables that a spanning tree configuration describes. -/
def mappedTables (t : MstTables) (mstis : BTreeMap UInt16 Msti) : MstTables where
  vid2fid := assignAll t.vid2fid ((0, [(1, 4094)]) ::
    (mstis.toList.filter fun e => !e.2.vlans.isEmpty).map vidAssignment)
  fid2mstid := assignAll t.fid2mstid ((0, [(0, 4095)]) :: mstis.keys.map fidAssignment)

theorem run_mappingCommands (stp : Stp) (br : String) (t : MstTables) :
    t.run ((mappingCommands stp).map (Command.words br)) = some (mappedTables t stp.mstis) := by
  have hvid : readAssignment "0:1-4094".toList = some (0, [(1, 4094)]) := by decide +kernel
  have hfid : readAssignment "0:0-4095".toList = some (0, [(0, 4095)]) := by decide +kernel
  have hcreate : ∀ c ∈ stp.mstis.keys.map Command.createTree, Unmapped c := by
    intro c hc
    obtain ⟨id, -, rfl⟩ := List.mem_map.mp hc
    exact ⟨nofun, nofun⟩
  rw [mappingCommands, List.map_append, MstTables.run_append, run_of_unmapped hcreate]
  simp only [Option.bind_some, List.map_cons, List.map_nil, Command.words, Setting.words,
    BridgeSetting.word, MstTables.run, List.foldlM_cons, List.foldlM_nil, MstTables.exec,
    List.cons_append, List.nil_append, List.head?_cons, if_true, List.drop_succ_cons,
    List.drop_zero, readTable, List.mapM_cons, hvid, hfid, mapM_vid2fidArgs, mapM_fid2mstidArgs]
  rfl

/-- Of all the commands of a configuration only the mapping commands set the tables. -/
theorem run_commands (stp : Stp) (bridgeMac br : String) (t : MstTables) :
    t.run ((commands stp bridgeMac).map (Command.words br)) = some (mappedTables t stp.mstis) := by
  have hbridge : ∀ c ∈ bridgeCommands stp bridgeMac, Unmapped c := by
    simp [bridgeCommands, Unmapped, Command.word, Setting.word]
  have htrees : ∀ c ∈ (trees stp).map treeCommand, Unmapped c := by
    intro c hc
    obtain ⟨e, -, rfl⟩ := List.mem_map.mp hc
    simp [treeCommand, Unmapped, Command.word, Setting.word]
  have hports : ∀ c ∈ stp.ports.toList.flatMap (fun e => portCommands stp e.1 e.2),
      Unmapped c := by
    have hport : ∀ (p : String) (f : PortFeatures), ∀ c ∈ portCommands stp p f, Unmapped c := by
      simp [portCommands, Unmapped, Command.word, Setting.word]
    intro c hc
    obtain ⟨e, -, hin⟩ := List.mem_flatMap.mp hc
    exact hport e.1 e.2 c hin
  have htreePorts : ∀ c ∈ (trees stp).flatMap fun e =>
      e.2.ports.toList.flatMap fun p => treePortCommands e.1 p.1 p.2, Unmapped c := by
    have hport : ∀ (id : UInt16) (p : String) (port : TreePort),
        ∀ c ∈ treePortCommands id p port, Unmapped c := by
      simp [treePortCommands, Unmapped, Command.word, Setting.word]
    intro c hc
    obtain ⟨e, -, he⟩ := List.mem_flatMap.mp hc
    obtain ⟨p, -, hin⟩ := List.mem_flatMap.mp he
    exact hport e.1 p.1 p.2 c hin
  simp only [commands, List.map_append, MstTables.run_append, run_of_unmapped hbridge,
    run_of_unmapped htrees, run_of_unmapped hports, run_of_unmapped htreePorts,
    run_mappingCommands, Option.bind_some]

/-- The FID of a VLAN is the MSTI that has it, and 0 if none has it. -/
theorem mappedTables_vid2fid (t : MstTables) (mstis : BTreeMap UInt16 Msti) {v : UInt16}
    (low : 1 ≤ v) (high : v ≤ 4094) :
    (∃ (id : UInt16) (msti : Msti), mstis[id]? = some msti ∧ v ∈ msti.vlans ∧
      (mappedTables t mstis).vid2fid v.toNat = id.toNat) ∨
    (∀ (id : UInt16) (msti : Msti), mstis[id]? = some msti → v ∉ msti.vlans) ∧
      (mappedTables t mstis).vid2fid v.toNat = 0 := by
  have hbase : assign (0, [(1, 4094)]) t.vid2fid v.toNat = 0 := by
    refine if_pos ⟨(1, 4094), by simp, ?_⟩
    exact ⟨UInt16.le_iff_toNat_le.mp low, UInt16.le_iff_toNat_le.mp high⟩
  rcases assignAll_cases (assign (0, [(1, 4094)]) t.vid2fid)
      ((mstis.toList.filter fun e => !e.2.vlans.isEmpty).map vidAssignment) v.toNat with
    ⟨a, hin, hcovers, hvalue⟩ | ⟨hnone, hvalue⟩
  · obtain ⟨e, he, rfl⟩ := List.mem_map.mp hin
    refine Or.inl ⟨e.1, e.2, ?_, (vidAssignment_covers e v).mp hcovers, hvalue⟩
    exact ExtTreeMap.mem_toList_iff_getElem?_eq_some.mp (List.mem_filter.mp he).1
  · refine Or.inr ⟨fun id msti hm hv => ?_, hvalue.trans hbase⟩
    have hnonempty : msti.vlans.isEmpty = false := by
      rw [ExtTreeSet.isEmpty_eq_false_iff]
      rintro hempty
      simp [hempty] at hv
    refine hnone (vidAssignment (id, msti)) (List.mem_map.mpr ⟨(id, msti), ?_, rfl⟩)
      ((vidAssignment_covers (id, msti) v).mpr hv)
    rw [List.mem_filter]
    exact ⟨ExtTreeMap.mem_toList_iff_getElem?_eq_some.mpr hm, by simp [hnonempty]⟩

/-- FID and MSTID are the same for the MSTIs that there are, and for the CIST. -/
theorem mappedTables_fid2mstid (t : MstTables) (mstis : BTreeMap UInt16 Msti) {n : Nat}
    (bound : n ≤ 4095) (h : n = 0 ∨ ∃ id ∈ mstis, n = id.toNat) :
    (mappedTables t mstis).fid2mstid n = n := by
  have hbase : assign (0, [(0, 4095)]) t.fid2mstid n = 0 :=
    if_pos ⟨(0, 4095), by simp, Nat.zero_le n, bound⟩
  rcases assignAll_cases (assign (0, [(0, 4095)]) t.fid2mstid) (mstis.keys.map fidAssignment) n
    with ⟨a, hin, hcovers, hvalue⟩ | ⟨hnone, hvalue⟩
  · obtain ⟨id, -, rfl⟩ := List.mem_map.mp hin
    rw [(fidAssignment_covers id n).mp hcovers] at hvalue ⊢
    exact hvalue
  · rcases h with rfl | ⟨id, hid, rfl⟩
    · exact hvalue.trans hbase
    · exact absurd ((fidAssignment_covers id _).mpr rfl)
        (hnone _ (List.mem_map.mpr ⟨id, ExtTreeMap.mem_keys.mpr hid, rfl⟩))

end Tables

section Mapping
variable {config : Config} {switchPorts : BTreeSet String} {state : DesiredState}

/-- A `vlan` entry of the instance is `v`, or a range that contains it. -/
def Names (inst : MstInstance) (v : UInt16) : Prop := ∃ entry ∈ inst.config.vlan, entry.covers v

/-- Each VLAN in an MSTI is named by the instance of that id, and with distinct ids the
other way around. -/
theorem mem_msti_iff {ports : BTreeSet String} {mstis : BTreeMap UInt16 Msti}
    {instances : List MstInstance} (h : MstisAccepted instances ports mstis)
    (distinct : (instances.map MstInstance.id).Nodup) (id v : UInt16) :
    (∃ msti, mstis[id]? = some msti ∧ v ∈ msti.vlans) ↔
      ∃ inst ∈ instances, inst.id = some id ∧ Names inst v := by
  constructor
  · rintro ⟨msti, hm, hv⟩
    obtain ⟨inst, hin, hid, accepted⟩ := h.configured id msti hm
    exact ⟨inst, hin, hid, (accepted.vlans v).mp hv⟩
  · rintro ⟨inst, hin, hid, hnames⟩
    obtain ⟨msti, hm, accepted⟩ := h.of_nodup distinct hin hid
    exact ⟨msti, hm, (accepted.vlans v).mpr hnames⟩

/-- The words of the commands map each VLAN to the MSTI whose instance names it, and to
the CIST if none does, whatever the tables were before. -/
theorem commands_map_vlans (config : Config) (switchPorts : BTreeSet String)
    (state : DesiredState) (accepted : desiredState config switchPorts = .ok state)
    (enabled : ∃ identity ∈ config.stpConfig.identities, protocolOf identity = some .mstp)
    (range : ∀ inst ∈ instancesOf config.stpConfig, ∀ id, inst.id = some id → 1 ≤ id ∧ id ≤ 4094)
    (distinct : ((instancesOf config.stpConfig).map MstInstance.id).Nodup) :
    ∃ s, state.stp = some s ∧ ∀ (bridgeMac br : String) (t : MstTables),
      ∃ u, t.run ((commands s bridgeMac).map (Command.words br)) = some u ∧
        ∀ v : UInt16, 1 ≤ v → v ≤ 4094 →
          (∀ m : UInt16, m ≠ 0 → (u.mstiOf v.toNat = m.toNat ↔
            ∃ inst ∈ instancesOf config.stpConfig, inst.id = some m ∧ Names inst v)) ∧
          (u.mstiOf v.toNat = 0 ↔ ∀ inst ∈ instancesOf config.stpConfig, ¬ Names inst v) := by
  obtain ⟨s, hs, hmstis⟩ := desiredState_mstp accepted enabled
  refine ⟨s, hs, fun bridgeMac br t => ⟨_, run_commands s bridgeMac br t, fun v low high => ?_⟩⟩
  have hids : ∀ id : UInt16, id ∈ s.mstis → 1 ≤ id.toNat ∧ id.toNat ≤ 4094 := by
    intro id hid
    obtain ⟨msti, hm⟩ := (BTreeMap.mem_iff _ _).mp hid
    obtain ⟨inst, hinst, hkey, -⟩ := hmstis.configured id msti hm
    obtain ⟨h1, h2⟩ := range inst hinst id hkey
    exact ⟨UInt16.le_iff_toNat_le.mp h1, UInt16.le_iff_toNat_le.mp h2⟩
  have hnamed := fun m => mem_msti_iff hmstis distinct m v
  rcases mappedTables_vid2fid t s.mstis low high with ⟨id, msti, hm, hv, hfid⟩ | ⟨hnone, hfid⟩
  · -- the VLAN is in the MSTI `id`, and in no other
    have hid : id ∈ s.mstis := (BTreeMap.mem_iff _ _).mpr ⟨msti, hm⟩
    obtain ⟨hlow, hhigh⟩ := hids id hid
    have hvalue : (mappedTables t s.mstis).mstiOf v.toNat = id.toNat := by
      rw [MstTables.mstiOf, hfid]
      exact mappedTables_fid2mstid t s.mstis (by omega) (Or.inr ⟨id, hid, rfl⟩)
    rw [hvalue]
    refine ⟨fun m _ => ?_, ?_⟩
    · rw [UInt16.toNat_inj, ← hnamed m]
      constructor
      · rintro rfl
        exact ⟨msti, hm, hv⟩
      · rintro ⟨other, hother, hvo⟩
        exact hmstis.disjoint id m msti other v hm hother hv hvo
    · refine ⟨fun hzero => absurd hzero (by omega), fun hnot => ?_⟩
      obtain ⟨inst, hinst, -, hnames⟩ := (hnamed id).mp ⟨msti, hm, hv⟩
      exact absurd hnames (hnot inst hinst)
  · -- no MSTI has the VLAN
    have hvalue : (mappedTables t s.mstis).mstiOf v.toNat = 0 := by
      rw [MstTables.mstiOf, hfid]
      exact mappedTables_fid2mstid t s.mstis (by omega) (Or.inl rfl)
    rw [hvalue]
    refine ⟨fun m hm => ⟨fun hzero => absurd (UInt16.toNat_inj.mp hzero.symm) hm, fun hex => ?_⟩,
      fun _ inst hinst hnames => ?_, fun _ => rfl⟩
    · obtain ⟨msti, hmsti, hv⟩ := (hnamed m).mpr hex
      exact absurd hv (hnone m msti hmsti)
    · obtain ⟨id, hkey, -⟩ := hmstis.present inst hinst
      obtain ⟨msti, hmsti, hv⟩ := (hnamed id).mpr ⟨inst, hinst, hkey, hnames⟩
      exact hnone id msti hmsti hv

theorem commands_map_vlans_region :
    desiredState regionConfig oneSwitchPort = .ok regionState ∧
    ∃ s, regionState.stp = some s ∧ ∀ (bridgeMac br : String) (t : MstTables),
      ∃ u, t.run ((commands s bridgeMac).map (Command.words br)) = some u ∧
        ∀ v : UInt16, 1 ≤ v → v ≤ 4094 →
          (∀ m : UInt16, m ≠ 0 → (u.mstiOf v.toNat = m.toNat ↔
            ∃ inst ∈ instancesOf regionConfig.stpConfig, inst.id = some m ∧ Names inst v)) ∧
          (u.mstiOf v.toNat = 0 ↔ ∀ inst ∈ instancesOf regionConfig.stpConfig, ¬ Names inst v) := by
  have accepted : desiredState regionConfig oneSwitchPort = .ok regionState := by decide +kernel
  have hids : (instancesOf regionConfig.stpConfig).map MstInstance.id = [some 1, some 2] := by
    decide +kernel
  refine ⟨accepted, commands_map_vlans regionConfig oneSwitchPort regionState accepted
    (by decide +kernel) (fun inst hin id hid => ?_) (by rw [hids]; decide)⟩
  have hmem : some id ∈ (instancesOf regionConfig.stpConfig).map MstInstance.id :=
    List.mem_map.mpr ⟨inst, hin, hid⟩
  rw [hids] at hmem
  simp only [List.mem_cons, Option.some.injEq, List.not_mem_nil, or_false] at hmem
  rcases hmem with rfl | rfl <;> decide

end Mapping

end ClixonSwitch.Guarantees
