import ClixonSwitch.Guarantees.Rounds
import ClixonSwitch.Guarantees.ValidationSound
import ClixonSwitch.Guarantees.VlanLeak

/-!
# Whole runs of `reconcile` on the kernel model

From a well-formed state, `reconcile` is refused an operation exactly if its first
round deletes a default entry that ConfigureBridge drops in the same round. Without
a refused operation it needs one round, or two if it reconfigures the bridge, so it
never runs out of rounds.
-/
namespace ClixonSwitch.Guarantees
open Lib Source.SwitchModel Source.SwitchNet

/-- An apply call did what it was asked. -/
def succeeded {σ : Type} : Event σ → Prop
  | .observed _ => True
  | .applied _ result _ => result = .ok ()

section Errors

theorem head?_append {a b : String} {c : Char} (h : a.toList.head? = some c) :
    (a ++ b).toList.head? = some c := by
  rw [String.toList_append, List.head?_append, h]
  rfl

/-- Every operation is shown as an `ip` or a `bridge` command. -/
theorem display_head (op : Op) :
    op.display.toList.head? = some 'i' ∨ op.display.toList.head? = some 'b' := by
  unfold Op.display
  split
  case h_9 => exact Or.inr (by repeat (first | decide | apply head?_append))
  case h_10 => exact Or.inr (by repeat (first | decide | apply head?_append))
  all_goals exact Or.inl (by repeat (first | decide | apply head?_append))

theorem opError_ne_notConverged (op : Op) (e : NetError) : opError op e ≠ notConverged := by
  intro h
  have hk : notConverged.message.toList.head? = some 'k' := by decide
  rw [← h, opError] at hk
  rcases display_head op with hd | hd
  · rw [head?_append (head?_append hd)] at hk
    cases hk
  · rw [head?_append (head?_append hd)] at hk
    cases hk

end Errors

section Runs
variable {desired : DesiredState} {s u : ActualState} {removed : List String}

theorem RoundEnd.not_staleDefault (done : RoundEnd desired s u removed) :
    ¬ StaleDefault desired u := by
  rintro ⟨dev, hdropped, -⟩
  exact hdropped done.droppedPvid_eq

variable (start : RoundStart desired s)
include start

theorem roundEvents_succ (rounds : Nat) : roundEvents fakeNet desired (rounds + 1) s =
      .observed (.ok s) :: if (opsOfRound desired s).isEmpty then []
        else (trail fakeApply (opsOfRound desired s) s).map applyEvent ++
          match runAll fakeApply (opsOfRound desired s) s with
          | (.ok (), s') => roundEvents fakeNet desired rounds s'
          | (.error _, _) => [] := by
  have hops : roundOps s (planBridgeSection desired s ++ planDeviceSection desired s) =
      opsOfRound desired s := rfl
  simp only [roundEvents, fakeNet, plan_of_noForeign start.foreign, hops]
  cases runAll fakeApply (opsOfRound desired s) s with
  | mk result s' => cases result <;> rfl

theorem reconcileRounds_succ (rounds : Nat) (applied : List Op) :
    reconcileRounds fakeNet desired (rounds + 1) applied s =
      if (opsOfRound desired s).isEmpty then (.ok applied, s)
      else match runAll fakeApply (opsOfRound desired s) s with
        | (.ok (), s') => reconcileRounds fakeNet desired rounds (applied ++ opsOfRound desired s) s'
        | (.error e, s') => (.error (opError e.1 e.2), s') := by
  have hops : s.platformOps ++ (planBridgeSection desired s ++ planDeviceSection desired s) =
      opsOfRound desired s := rfl
  simp only [reconcileRounds, fakeNet, plan_of_noForeign start.foreign, applyOps_eq_runAll, hops]
  cases runAll fakeApply (opsOfRound desired s) s with
  | mk result s' => cases result <;> rfl

theorem opsOfRound_eq_nil : opsOfRound desired s = [] ↔ Matches desired s := by
  rw [← plan_nil_iff_matches, plan_of_noForeign start.foreign, opsOfRound]
  simp only [List.append_eq_nil_iff, Except.ok.injEq]
  tauto

/-- Without a stale default entry no operation is refused, in any round. -/
theorem roundEvents_succeeded (fresh : ¬ StaleDefault desired s)
    (rounds : Nat) : ∀ e ∈ roundEvents fakeNet desired rounds s, succeeded e := by
  induction rounds generalizing s with
  | zero => simp [roundEvents]
  | succ rounds ih =>
    obtain ⟨u, removed, hrun, done⟩ := (round_run start).2 fresh
    intro e he
    rw [roundEvents_succ start, hrun] at he
    rcases List.mem_cons.mp he with rfl | he
    · trivial
    · split at he
      · cases he
      · rcases List.mem_append.mp he with he | he
        · obtain ⟨t, ht, rfl⟩ := List.mem_map.mp he
          exact (runAll_ok_iff_trail _ s).mp (by rw [hrun]) t ht
        · exact ih done.next done.not_staleDefault e he

/-- With one, an operation of the first round is refused. -/
theorem roundEvents_refused (stale : StaleDefault desired s)
    (rounds : Nat) : ∃ e ∈ roundEvents fakeNet desired (rounds + 1) s, ¬ succeeded e := by
  obtain ⟨e, u, hrun⟩ := (round_run start).1 stale
  have hfail : ¬ ∀ t ∈ trail fakeApply (opsOfRound desired s) s, t.2.1 = .ok () := by
    rw [← runAll_ok_iff_trail, hrun]
    simp
  simp only [not_forall] at hfail
  obtain ⟨t, ht, hbad⟩ := hfail
  refine ⟨applyEvent t, ?_, hbad⟩
  have hne : (opsOfRound desired s).isEmpty = false := by
    cases hops : opsOfRound desired s with
    | nil =>
      rw [hops] at ht
      cases ht
    | cons op ops => rfl
  rw [roundEvents_succ start, hne]
  refine List.mem_cons_of_mem _ ?_
  simp only [Bool.false_eq_true, if_false]
  exact List.mem_append_left _ (List.mem_map_of_mem ht)

/-- From a matching state there is nothing to do. -/
theorem reconcileRounds_matching (h : Matches desired s) (rounds : Nat) (applied : List Op) :
    reconcileRounds fakeNet desired (rounds + 1) applied s = (.ok applied, s) := by
  rw [reconcileRounds_succ start, (opsOfRound_eq_nil start).mpr h]
  rfl

/-- One successful round leaves one round less to do. -/
theorem reconcileRounds_step (fresh : ¬ StaleDefault desired s)
    (rounds : Nat) (applied : List Op) : ∃ u removed, RoundEnd desired s u removed ∧
      runAll fakeApply (opsOfRound desired s) s = (.ok (), u) ∧
      (reconcileRounds fakeNet desired (rounds + 1) applied s = (.ok applied, s) ∨
        reconcileRounds fakeNet desired (rounds + 1) applied s =
          reconcileRounds fakeNet desired rounds (applied ++ opsOfRound desired s) u) := by
  obtain ⟨u, removed, hrun, done⟩ := (round_run start).2 fresh
  refine ⟨u, removed, done, hrun, ?_⟩
  rw [reconcileRounds_succ start, hrun]
  split
  · exact Or.inl rfl
  · exact Or.inr rfl

/-- Three rounds are enough: the work, what ConfigureBridge left, and nothing. -/
theorem reconcile_ok_of_fresh (free : PlatformFree desired s)
    (fresh : ¬ StaleDefault desired s) : ∃ ops, (reconcile fakeNet desired s).1 = .ok ops := by
  unfold reconcile maxRounds
  obtain ⟨u, removed, done, -, hstep | hstep⟩ := reconcileRounds_step start fresh 2 []
  · exact ⟨_, by rw [hstep]⟩
  obtain ⟨w, removed', done', -, hstep' | hstep'⟩ :=
    reconcileRounds_step done.next done.not_staleDefault 1 ([] ++ opsOfRound desired s)
  · exact ⟨_, by rw [hstep, hstep']⟩
  · have hmatch := done'.matching (done.platformFree free) done.droppedPvid_eq
    exact ⟨_, by rw [hstep, hstep', reconcileRounds_matching done'.next hmatch]⟩

theorem reconcile_refused (stale : StaleDefault desired s) :
    ∃ op e, (reconcile fakeNet desired s).1 = .error (opError op e) := by
  obtain ⟨e, u, hrun⟩ := (round_run start).1 stale
  have hne : (opsOfRound desired s).isEmpty = false := by
    cases hops : opsOfRound desired s with
    | nil =>
      rw [hops] at hrun
      cases hrun
    | cons op ops => rfl
  unfold reconcile maxRounds
  rw [reconcileRounds_succ start, hrun, hne]
  exact ⟨e.1, e.2, rfl⟩

end Runs

section Accepted
variable {config : Config} {switchPorts : BTreeSet String} {desired : DesiredState}
  {s : ActualState}

theorem roundStart_of_accepted (accepted : desiredState config switchPorts = .ok desired)
    (wf : WellFormed s) (foreign : NoForeign desired s) : RoundStart desired s where
  coherent := wf.toCoherent
  safe b up master hl hc dev vid hin := by
    have hpos := (wf.ids dev vid hin).1
    rintro rfl
    exact absurd hpos (by decide)
  foreign := foreign
  bridge := by
    obtain ⟨domain, h⟩ := desiredState_ok accepted
    intro hin
    obtain ⟨svi, hs⟩ := (BTreeMap.mem_iff _ _).mp hin
    exact (svi_sound h hs).notBridge rfl

end Accepted

/-- Every operation is accepted, in every round, exactly if no port of the bridge has
an unchanged default entry that ConfigureBridge drops and the plan deletes as well. -/
theorem reconcile_operations_accepted_iff (config : Config) (switchPorts : BTreeSet String)
    (desired : DesiredState) (s : ActualState)
    (accepted : desiredState config switchPorts = .ok desired) (wf : WellFormed s)
    (foreign : NoForeign desired s) :
    (∀ e ∈ reconcileTrace fakeNet desired s, succeeded e) ↔ ¬ StaleDefault desired s := by
  have start := roundStart_of_accepted accepted wf foreign
  rw [reconcileTrace_eq]
  constructor
  · intro h stale
    obtain ⟨e, he, hbad⟩ := roundEvents_refused start stale 2
    exact hbad (h e he)
  · exact fun fresh => roundEvents_succeeded start fresh maxRounds

/-- An access port on VLAN 20. -/
def accessConfig : Config where
  interfaces := some { interface :=
    [{ name := "lan1"
       config := { ifType := some "iana-if-type:ethernetCsmacd" }
       ethernet := some { switchedVlan := some { config :=
         { interfaceMode := some "ACCESS", accessVlan := some 20 } } } }] }
  vlans := some { vlan := [{ vlanId := some 20 }] }

theorem accessConfig_accepted :
    desiredState accessConfig onePortBoot.switchPorts = .ok accessPort20 := by decide +kernel

theorem onePortBoot_wellFormed : WellFormed onePortBoot := wellFormed_of_check (by decide +kernel)

theorem onePortBoot_noForeign : NoForeign accessPort20 onePortBoot :=
  (takenSviName_eq_none _ _).mp (by decide +kernel)

/-- On a freshly booted switch there is nothing to drop. -/
theorem reconcile_operations_accepted_iff_boot :
    desiredState accessConfig onePortBoot.switchPorts = .ok accessPort20 ∧
      ∀ e ∈ reconcileTrace fakeNet accessPort20 onePortBoot, succeeded e := by
  refine ⟨accessConfig_accepted, (reconcile_operations_accepted_iff accessConfig _ accessPort20
    onePortBoot accessConfig_accepted onePortBoot_wellFormed onePortBoot_noForeign).mpr ?_⟩
  rintro ⟨dev, hdropped, -⟩
  exact hdropped (by decide +kernel)

/-- A plain bridge with the kernel's default entry on its port: ConfigureBridge drops
the entry, and the plan's own deletion of it is refused. -/
theorem default_entry_refused :
    desiredState accessConfig plainBridge.switchPorts = .ok accessPort20 ∧
      WellFormed plainBridge ∧ NoForeign accessPort20 plainBridge ∧
      plan accessPort20 plainBridge = .ok [.configureBridge "br-lan",
        .addBridgeVlan "lan1" 20 access, .delBridgeVlan "lan1" 1] ∧
      ∃ e ∈ reconcileTrace fakeNet accessPort20 plainBridge, ¬ succeeded e := by
  refine ⟨by decide +kernel, wellFormed_of_check (by decide +kernel),
    (takenSviName_eq_none _ _).mp (by decide +kernel), by decide +kernel,
    .applied (.delBridgeVlan "lan1" 1) (.error ⟨"No such VLAN entry"⟩)
      (reconcile fakeNet accessPort20 plainBridge).2, by decide +kernel, ?_⟩
  simp [succeeded]

/-- A round of `reconcile` on the kernel model in which no operation fails. -/
def Round (desired : DesiredState) (s u : ActualState) : Prop :=
  ∃ planned, plan desired s = .ok planned ∧ runAll fakeApply (roundOps s planned) s = (.ok (), u)

/-- `plan` and `platform_ops` have nothing to do. -/
def Settled (desired : DesiredState) (s : ActualState) : Prop :=
  plan desired s = .ok [] ∧ s.platformOps = []

theorem roundEnd_of_round {desired : DesiredState} {s u : ActualState}
    (start : RoundStart desired s) (h : Round desired s u) :
    ∃ removed, RoundEnd desired s u removed := by
  obtain ⟨planned, hplan, hrun⟩ := h
  rw [plan_of_noForeign start.foreign] at hplan
  obtain rfl := Except.ok.inj hplan
  have fresh : ¬ StaleDefault desired s := by
    intro stale
    obtain ⟨e, u', hfail⟩ := (round_run start).1 stale
    rw [show roundOps s _ = opsOfRound desired s from rfl, hfail] at hrun
    cases hrun
  obtain ⟨u', removed, hok, done⟩ := (round_run start).2 fresh
  rw [show roundOps s _ = opsOfRound desired s from rfl, hok] at hrun
  cases hrun
  exact ⟨removed, done⟩

/-- A plan without ConfigureBridge drops no default entries. -/
theorem droppedPvid_of_no_configure {desired : DesiredState} {s : ActualState}
    (foreign : NoForeign desired s)
    (h : ∀ planned, plan desired s = .ok planned → ∀ name, .configureBridge name ∉ planned) :
    droppedPvid s = 0 := by
  by_contra hdropped
  refine absurd ?_ (h _ (plan_of_noForeign foreign) bridgeName)
  simp [planBridgeSection, (reconfigured_of_dropped hdropped).1]

/-- One round reaches the desired state unless it reconfigures the bridge, two rounds
reach it in any case, and `reconcile` never runs out of rounds. -/
theorem reconcile_converges (config : Config) (switchPorts : BTreeSet String)
    (desired : DesiredState) (s : ActualState)
    (accepted : desiredState config switchPorts = .ok desired) (wf : WellFormed s)
    (foreign : NoForeign desired s) (free : PlatformFree desired s) :
    (∀ s₁, Round desired s s₁ →
      ((∀ planned, plan desired s = .ok planned → ∀ name, .configureBridge name ∉ planned) →
        Settled desired s₁) ∧
      ∀ s₂, Round desired s₁ s₂ → Settled desired s₂) ∧
    ((∀ e ∈ reconcileTrace fakeNet desired s, succeeded e) →
      ∃ ops, (reconcile fakeNet desired s).1 = .ok ops) ∧
    (reconcile fakeNet desired s).1 ≠ .error notConverged := by
  have start := roundStart_of_accepted accepted wf foreign
  refine ⟨fun s₁ hround => ?_, fun hall => ?_, fun hfail => ?_⟩
  · obtain ⟨removed, done⟩ := roundEnd_of_round start hround
    refine ⟨fun hno => ?_, fun s₂ hround₂ => ?_⟩
    · exact (plan_nil_iff_matches desired s₁).mpr
        (done.matching free (droppedPvid_of_no_configure foreign hno))
    · obtain ⟨removed₂, done₂⟩ := roundEnd_of_round done.next hround₂
      exact (plan_nil_iff_matches desired s₂).mpr
        (done₂.matching (done.platformFree free) done.droppedPvid_eq)
  · refine reconcile_ok_of_fresh start free fun stale => ?_
    obtain ⟨e, he, hbad⟩ := roundEvents_refused start stale 2
    exact hbad (hall e (by rw [reconcileTrace_eq]; exact he))
  · by_cases stale : StaleDefault desired s
    · obtain ⟨op, e, herr⟩ := reconcile_refused start stale
      rw [herr] at hfail
      exact opError_ne_notConverged op e (Except.error.inj hfail)
    · obtain ⟨ops, hok⟩ := reconcile_ok_of_fresh start free stale
      rw [hok] at hfail
      cases hfail

/-- `PlatformFree` as a computation. -/
def platformFreeCheck (desired : DesiredState) (s : ActualState) : Bool :=
  s.platformNames.toList.all fun name =>
    name != bridgeName && !s.switchPorts.contains name && !desired.svis.contains name &&
      !s.links[name]?.any fun link => link.kind.isBridgeVlan

theorem platformFree_of_check {desired : DesiredState} {s : ActualState}
    (h : platformFreeCheck desired s = true) : PlatformFree desired s := by
  simp only [platformFreeCheck, List.all_eq_true, Std.ExtTreeSet.mem_toList] at h
  intro name hp howned
  have hname := h name ((mem_platformNames s name).mpr hp)
  simp only [Bool.and_eq_true, bne_iff_ne, Bool.not_eq_true', BTreeSet.contains_eq_false,
    BTreeMap.contains_eq_false] at hname
  obtain ⟨⟨⟨hbr, hport⟩, hsvi⟩, hvlan⟩ := hname
  rcases howned with heq | hin | hin | ⟨link, hl, hv⟩
  · exact hbr heq
  · exact hport hin
  · exact hsvi hin
  · simp [hl, hv] at hvlan

theorem reconcile_converges_boot :
    (reconcile fakeNet accessPort20 onePortBoot).1 ≠ .error notConverged ∧
      ∃ s₁, Round accessPort20 onePortBoot s₁ ∧ Settled accessPort20 s₁ := by
  have free : PlatformFree accessPort20 onePortBoot := platformFree_of_check (by decide +kernel)
  have hplan : plan accessPort20 onePortBoot = .ok [.createBridge "br-lan", .setUp "br-lan" true,
      .setMaster "lan1" (some "br-lan"), .addBridgeVlan "lan1" 20 access, .setUp "lan1" true] := by
    decide +kernel
  have hround : Round accessPort20 onePortBoot (reconcile fakeNet accessPort20 onePortBoot).2 :=
    ⟨_, hplan, by decide +kernel⟩
  obtain ⟨hrounds, -, hne⟩ := reconcile_converges accessConfig _ accessPort20 onePortBoot
    accessConfig_accepted onePortBoot_wellFormed onePortBoot_noForeign free
  refine ⟨hne, _, hround, (hrounds _ hround).1 fun planned h name => ?_⟩
  obtain rfl := Except.ok.inj (hplan.symm.trans h)
  simp

end ClixonSwitch.Guarantees
