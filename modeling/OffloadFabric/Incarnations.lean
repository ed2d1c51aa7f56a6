import OffloadFabric.Redelivery

/-!
Incarnations of a target. A registration is checked against the record that is there when it
comes. A retirement erases that record, and so does a process without a store when it starts
over. In a run in which no registration that finds no record comes with an incarnation older
than one accepted before it, the incarnations of a name never go back.
-/
namespace OffloadFabric

open Fabric (Op Moment)

/-! ### Registered incarnations -/

/-- The target is registered at no older incarnation, if at all. -/
def State.NotBelow (name : TargetName) (incarnation : TargetIncarnation) (state : State) : Prop :=
  ∀ record, state.targets.find? name = some record → incarnation ≤ record.incarnation

section NotBelow

variable {config : FabricConfig} {name : TargetName} {incarnation : TargetIncarnation}
  {state state' : State} {history : List Change} {fabric : Fabric} {op : Op} {commit : Commit}
  {record : TargetRecord}

theorem State.NotBelow.of_targets (h : state.NotBelow name incarnation)
    (htargets : state'.targets = state.targets) : state'.NotBelow name incarnation := by
  unfold State.NotBelow
  rw [htargets]
  exact h

/-- Only the record of an older incarnation takes the registered one back. -/
theorem State.NotBelow.apply (h : state.NotBelow name incarnation) (change : Change)
    (hchange : ∀ record, change = .targetUpserted record → record.name = name →
      incarnation ≤ record.incarnation) :
    (Change.apply state change).NotBelow name incarnation := by
  cases change with
  | targetUpserted record =>
    intro found hfound
    change (state.targets.insert record.name record).find? name = some found at hfound
    rw [OrderedMap.find?_insert] at hfound
    by_cases hname : name = record.name
    · rw [if_pos hname] at hfound
      cases hfound
      exact hchange record rfl hname.symm
    · rw [if_neg hname] at hfound
      exact h found hfound
  | targetRetired target =>
    intro found hfound
    change (state.targets.erase target).find? name = some found at hfound
    rw [OrderedMap.find?_erase] at hfound
    by_cases hname : name = target
    · rw [if_pos hname] at hfound
      cases hfound
    · rw [if_neg hname] at hfound
      exact h found hfound
  | serviceWithdrawn service =>
    refine h.of_targets ?_
    unfold Change.apply
    dsimp only
    split <;> rfl
  | _ => exact h

theorem State.NotBelow.replayed_append {changes : List Change}
    (h : (replayed config history).NotBelow name incarnation)
    (hchanges : ∀ record, .targetUpserted record ∈ changes → record.name = name →
      incarnation ≤ record.incarnation) :
    (replayed config (history ++ changes)).NotBelow name incarnation := by
  rw [OffloadFabric.replayed_append]
  generalize replayed config history = state at h ⊢
  induction changes generalizing state with
  | nil => exact h
  | cons change rest ih =>
    refine ih (fun record hmem => hchanges record (List.mem_cons_of_mem _ hmem)) _
      (h.apply change fun record heq => hchanges record ?_)
    rw [heq]
    exact List.mem_cons_self

/-- Only a registration records a target. -/
theorem Fabric.Caused.registers (h : fabric.Caused op commit)
    (hchange : commit.change = .targetUpserted record) : ∃ target registrar,
    op = .registerTarget target registrar ∧ record.name = target.name ∧
      record.incarnation = target.incarnation ∧ fabric.checkAdoption target = .ok () ∧
      ∃ proposal, fabric.checkRegisterTarget target registrar = .ok proposal := by
  cases h with
  | @ingested _ _ proposal _ hop hok hwrites =>
    have hingested := ingested_of_ok hop hok
    rw [hwrites.change] at hchange
    generalize Fabric.Proposal.update _ = update at hingested
    rw [hchange] at hingested
    cases hingested with
    | targetRegistered _ _ hadoption =>
      exact ⟨_, _, rfl, rfl, rfl, hadoption, proposal, (Option.some.inj hop).trans hok⟩
  | moved _ _ _ hmoves =>
    cases hmoves with
    | intro => cases hchange
  | denied _ _ _ hwrites | confirmed _ _ _ hwrites | acknowledged _ _ hwrites
  | reported _ _ _ _ hwrites =>
    rw [hwrites.change] at hchange
    cases hchange

/-- A target that a call adds to the history was adopted by an open runtime. -/
theorem Fabric.Adds.registers {added : List Change} (h : fabric.Adds op added)
    (hmem : .targetUpserted record ∈ added) : fabric.opened = true ∧ ∃ target registrar,
    op = .registerTarget target registrar ∧ record.name = target.name ∧
      record.incarnation = target.incarnation ∧ fabric.entered.checkAdoption target = .ok () ∧
      ∃ proposal, fabric.entered.checkRegisterTarget target registrar = .ok proposal := by
  cases h with
  | opensQuietly | closes => cases hmem
  | opensAgain => cases List.mem_singleton.mp hmem
  | performs _ _ _ hperforms _ hopened =>
    obtain ⟨commit, hcommit, hchange⟩ := List.mem_map.mp hmem
    refine ⟨hopened (List.ne_nil_of_mem hcommit), ?_⟩
    cases hperforms with
    | nothing => cases hcommit
    | once hcaused =>
      obtain rfl := List.mem_singleton.mp hcommit
      exact hcaused.registers hchange
    | twice hop _ hfirst _ _ _ hsecond =>
      rcases List.mem_pair.mp hcommit with rfl | rfl
      · exact hfirst.registers hchange
      · obtain ⟨_, _, hop, -⟩ := hsecond.registers hchange
        cases hop

theorem Fabric.Records.registers {event : Fabric.Event} {added : List Change}
    (h : fabric.Records event added) (hmem : .targetUpserted record ∈ added) :
    fabric.opened = true ∧ ∃ target registrar, event.op = .registerTarget target registrar ∧
      record.name = target.name ∧ record.incarnation = target.incarnation ∧
      fabric.entered.checkAdoption target = .ok () ∧
      ∃ proposal, fabric.entered.checkRegisterTarget target registrar = .ok proposal := by
  cases event with
  | call => exact Fabric.Adds.registers h hmem
  | crash =>
    obtain ⟨added, hadds, hkept⟩ := h
    exact hadds.registers (hkept.subset hmem)

/-- A target that is adopted over a registered one is of a newer incarnation. -/
theorem le_of_checkAdoption {target existing : TargetRecord}
    (h : fabric.checkAdoption target = .ok ())
    (hfind : fabric.state.targets.find? target.name = some existing) :
    existing.incarnation ≤ target.incarnation := by
  unfold Fabric.checkAdoption at h
  simp only [hfind, require_bind_ok] at h
  exact not_lt.mp h.1

end NotBelow

/-! ### Runs -/

/-- The call registered the target, and was answered with a code of acceptance. -/
def Fabric.Moment.Adopts (moment : Moment) (target : TargetRecord) : Prop :=
  ∃ registrar code explanation,
    moment.event = .call (.registerTarget target registrar) (.explained code explanation) ∧
      code.isAccept = true

/-- A registration of a name that was accepted before, which passes its checks without finding
the name registered, is not of an older incarnation. -/
def Remembers (moments : List Moment) : Prop :=
  ∀ earlier moment later prior target registrar, moments = earlier ++ moment :: later →
    (∃ before ∈ earlier, before.Adopts prior) → prior.name = target.name →
    moment.event.op = .registerTarget target registrar →
    moment.before.state.targets.find? target.name = none →
    (∃ proposal, moment.before.entered.checkRegisterTarget target registrar = .ok proposal) →
    prior.incarnation ≤ target.incarnation

/-- The durable history of the process keeps the name from going below the incarnation. -/
def Upholds (config : FabricConfig) (name : TargetName) (incarnation : TargetIncarnation)
    (fabric : Fabric) : Prop :=
  ∃ history memory,
    Chronicled config (fun _ _ => True) (Grounds config fun _ _ => True) history memory fabric ∧
      (replayed config history).NotBelow name incarnation

section Runs

variable {config : FabricConfig} {moments earlier between later : List Moment}
  {first second : Moment} {fabric fabric' : Fabric} {target next : TargetRecord}

theorem Remembers.front (h : Remembers (earlier ++ later)) : Remembers earlier := by
  intro past moment rest prior target registrar hsplit
  exact h past moment (rest ++ later) prior target registrar (by simp [hsplit])

/-- An accepted registration leaves its target registered at its incarnation. -/
theorem Fabric.Moment.Adopts.registered (h : first.Adopts target)
    (hstep : Fabric.Step first.before first.event fabric') :
    fabric'.opened = true ∧ ∃ record, fabric'.state.targets.find? target.name = some record ∧
      record.incarnation = target.incarnation := by
  obtain ⟨before, event⟩ := first
  obtain ⟨registrar, code, explanation, hevent, haccept⟩ := h
  change Fabric.Step before event fabric' at hstep
  change event = _ at hevent
  cases hstep with
  | crash => cases hevent
  | call op =>
    obtain ⟨rfl, hreply⟩ := Fabric.Event.call.inj hevent
    have hop : before.entered.ingestion (.registerTarget target registrar) =
      some (before.entered.checkRegisterTarget target registrar) := rfl
    rcases Fabric.ingestion_of_accept hop hreply haccept with
      ⟨refused, herror, hduplicate⟩ | ⟨proposal, middle, hok, -, hafter⟩
    · obtain ⟨hopened, hfind⟩ :=
        Fabric.recorded_of_duplicate target registrar refused herror hduplicate
      have hturned : before.entered.TurnsDown (.registerTarget target registrar)
        .acceptDuplicateIdempotent := ⟨_, hop, refused, herror, hduplicate⟩
      rw [hturned.call.2]
      exact ⟨hopened, target, hfind, rfl⟩
    · have hopened : before.entered.opened = true := Fabric.opened_of_ingestion hop hok
      have hclose : Op.registerTarget target registrar ≠ .closeFabric := nofun
      obtain ⟨-, -, stamp, -, -, hupdate⟩ := Fabric.checkRegisterTarget_ok hok
      rw [hupdate] at hafter
      have hfind := congrArg (fun state => state.targets.find? target.name) hafter
      exact ⟨(Fabric.call_passes hopened hclose).1, _,
        hfind.trans (OrderedMap.find?_insert_self _ _ _), rfl⟩

/-- What a step adds to the history of a name that was accepted is no older than before. -/
theorem notBelow_step {name : TargetName} {incarnation : TargetIncarnation}
    {history memory added : List Change} {event : Fabric.Event}
    (h : Chronicled config (fun _ _ => True) (Grounds config fun _ _ => True) history memory fabric)
    (hnotBelow : (replayed config history).NotBelow name incarnation)
    (hforgotten : ∀ target registrar, event.op = .registerTarget target registrar →
      target.name = name → fabric.state.targets.find? name = none →
      (∃ proposal, fabric.entered.checkRegisterTarget target registrar = .ok proposal) →
      incarnation ≤ target.incarnation)
    (hrecords : fabric.Records event added) :
    (replayed config (history ++ added)).NotBelow name incarnation := by
  refine hnotBelow.replayed_append fun record hmem hname => ?_
  obtain ⟨hopened, target, registrar, hop, hnamed, hsame, hadoption, hok⟩ :=
    hrecords.registers hmem
  have htarget : target.name = name := hnamed.symm.trans hname
  rw [hsame]
  cases hfind : fabric.state.targets.find? name with
  | none => exact hforgotten target registrar hop htarget hfind hok
  | some existing =>
    have hcore : fabric.state.core = (replayed config history).core :=
      (h.running hopened).2.1.explains.core
    have hreplayed : (replayed config history).targets.find? name = some existing :=
      (congrArg (fun core => core.targets.find? name) hcore).symm.trans hfind
    exact (hnotBelow existing hreplayed).trans
      (le_of_checkAdoption hadoption (htarget ▸ hfind))

/-- After its first accepted registration the name is registered at no older incarnation. -/
theorem Fabric.Run.notBelow (hrun : Fabric.Run config moments fabric)
    (hremembers : Remembers moments) (hsplit : moments = earlier ++ first :: later)
    (hadopts : first.Adopts target) : Upholds config target.name target.incarnation fabric := by
  have hstable := (preserved_true config fun _ _ => True).stable
  subst hsplit
  refine hrun.onward (P := fun between fabric => Remembers (earlier ++ first :: between) →
    Upholds config target.name target.incarnation fabric) rfl ?_ ?_ hremembers
  · intro fabric' hearlier hstep _
    obtain ⟨history, memory, -, hchronicled⟩ :=
      (hearlier.step hstep).chronicled hstable fun _ _ => trivial
    refine ⟨history, memory, hchronicled, fun record hfind => ?_⟩
    obtain ⟨hopened, found, hfound, hsame⟩ := hadopts.registered hstep
    have hcore : fabric'.state.core = (replayed config history).core :=
      (hchronicled.running hopened).2.1.explains.core
    have hreplayed : (replayed config history).targets.find? target.name = some found :=
      (congrArg (fun core => core.targets.find? target.name) hcore).symm.trans hfound
    obtain rfl := Option.some.inj (hfind.symm.trans hreplayed)
    exact hsame.ge
  · intro between fabric event fabric' hbetween hstep ih hremembers
    have hsplit : earlier ++ first :: (between ++ [{ before := fabric, event }]) =
      (earlier ++ first :: between) ++ [{ before := fabric, event }] := by simp
    have hfront : Remembers (earlier ++ first :: between) := (hsplit ▸ hremembers).front
    obtain ⟨history, memory, hchronicled, hnotBelow⟩ := ih hfront
    obtain ⟨history', memory', hchronicled', hnext⟩ := hchronicled.step hstable trivial hstep
    refine ⟨history', memory', hchronicled', ?_⟩
    rcases hnext with ⟨added, hrecords, rfl⟩ | ⟨-, rfl⟩
    · refine notBelow_step hchronicled hnotBelow ?_ hrecords
      intro next registrar hop hname hnone hok
      exact hremembers _ _ _ target next registrar hsplit ⟨first, by simp, hadopts⟩ hname.symm hop
        (hname ▸ hnone) hok
    · intro record hfind
      cases hfind

/-- In a run in which no accepted name is registered anew at an older incarnation after its record
was lost, the accepted incarnations of a name never go back. -/
theorem incarnations_never_regress (hrun : Fabric.Run config moments fabric)
    (hremembers : Remembers moments)
    (hsplit : moments = earlier ++ first :: (between ++ second :: later))
    (hfirst : first.Adopts target) (hsecond : second.Adopts next)
    (hname : next.name = target.name) : target.incarnation ≤ next.incarnation := by
  have hfront : moments = (earlier ++ first :: between) ++ second :: later := by simp [hsplit]
  obtain ⟨hbefore, fabric', hstep⟩ := hrun.front hfront
  have hall : moments = (earlier ++ first :: (between ++ [second])) ++ later := by simp [hsplit]
  have hthrough : Fabric.Run config (earlier ++ first :: (between ++ [second])) fabric' := by
    simpa using hbefore.step hstep
  obtain ⟨history, memory, hchronicled, hnotBelow⟩ :=
    hthrough.notBelow (hall ▸ hremembers).front rfl hfirst
  obtain ⟨hopened, record, hfind, hsame⟩ := hsecond.registered hstep
  have hcore : fabric'.state.core = (replayed config history).core :=
    (hchronicled.running hopened).2.1.explains.core
  have hreplayed : (replayed config history).targets.find? next.name = some record :=
    (congrArg (fun core => core.targets.find? next.name) hcore).symm.trans hfind
  rw [← hsame]
  exact hnotBelow record (hname ▸ hreplayed)

/-- A split of the moments of some calls is a split of the calls. -/
theorem Fabric.split_momentsOf {ops : List Op}
    (h : fabric.momentsOf ops = earlier ++ first :: later) : ∃ front op back,
    ops = front ++ op :: back ∧ earlier = fabric.momentsOf front ∧
      first.before = fabric.after front ∧ first.event.op = op := by
  induction ops generalizing fabric earlier with
  | nil =>
    have hlength := congrArg List.length h
    simp [Fabric.momentsOf] at hlength
  | cons op ops ih =>
    cases earlier with
    | nil =>
      obtain ⟨hfirst, -⟩ := List.cons.inj h
      exact ⟨[], op, ops, rfl, rfl, hfirst ▸ rfl, hfirst ▸ rfl⟩
    | cons moment earlier =>
      obtain ⟨hmoment, hrest⟩ := List.cons.inj h
      obtain ⟨front, op', back, rfl, rfl, hbefore, hop⟩ := ih hrest
      exact ⟨op :: front, op', back, rfl, by rw [← hmoment]; rfl, hbefore, hop⟩

/-- Calls remember when no registration is older than one of the same name before it. -/
theorem remembers_momentsOf {ops : List Op}
    (h : ∀ front target registrar back, ops = front ++ .registerTarget target registrar :: back →
      ∀ prior registrar', .registerTarget prior registrar' ∈ front → prior.name = target.name →
        prior.incarnation ≤ target.incarnation) :
    Remembers (fabric.momentsOf ops) := by
  intro earlier moment later prior target registrar hsplit hprior hname hop _ _
  obtain ⟨front, op, back, rfl, rfl, -, rfl⟩ := Fabric.split_momentsOf hsplit
  rw [hop] at h
  obtain ⟨before, hmem, registrar', code, explanation, hevent, -⟩ := hprior
  obtain ⟨past, rest, hpast⟩ := List.append_of_mem hmem
  obtain ⟨front', op', back', rfl, -, -, hop'⟩ := Fabric.split_momentsOf hpast
  rw [hevent] at hop'
  exact h _ target registrar back rfl prior registrar' (by rw [← hop']; simp [Fabric.Event.op])
    hname

/-- The moments of some calls, seen from two of them. -/
theorem Fabric.momentsOf_split_twice (fabric : Fabric) (front : List Op) (op : Op) (mid : List Op)
    (op' : Op) (back : List Op) :
    fabric.momentsOf (front ++ op :: (mid ++ op' :: back)) = fabric.momentsOf front ++
      { before := fabric.after front, event := .call op ((fabric.after front).call op).1 } ::
        (((fabric.after front).call op).2.momentsOf mid ++
          { before := fabric.after (front ++ op :: mid)
            event := .call op' ((fabric.after (front ++ op :: mid)).call op').1 } ::
              ((fabric.after (front ++ op :: mid)).call op').2.momentsOf back) := by
  rw [Fabric.momentsOf_split, Fabric.momentsOf_split]
  simp only [Fabric.after, List.foldl_append, List.foldl_cons]

theorem adopts_of_explains {registrar : SourceName} {code : Reason}
    (h : fabric.explains (.registerTarget target registrar) = some code)
    (haccept : code.isAccept = true) :
    Moment.Adopts
      { before := fabric
        event := .call (.registerTarget target registrar)
          (fabric.call (.registerTarget target registrar)).1 } target := by
  obtain ⟨explanation, hreply⟩ := Fabric.exists_explained_of_explains h
  exact ⟨registrar, code, explanation, by rw [hreply], haccept⟩

end Runs

/-! ### Targets that come back -/

namespace Fleet

/-- The record that the fleet registers for a target. -/
def recordOf (target : TargetRef) : TargetRecord :=
  { name := target.target, host := ⟨[104], valid_host⟩, device := ⟨[100], valid_device⟩, scope
    incarnation := target.incarnation }

end Fleet

/-- A target that is adopted again at a newer incarnation, after it was retired. -/
theorem incarnations_never_regress_readopted : ∃ (moments earlier between later : List Moment)
    (first second : Moment) (fabric : Fabric) (target next : TargetRecord),
    Fabric.Run {} moments fabric ∧ moments = earlier ++ first :: (between ++ second :: later) ∧
    Remembers moments ∧ first.Adopts target ∧ second.Adopts next ∧
    second.before.state.targets.find? next.name = none ∧ next.name = target.name ∧
    target.incarnation ≤ next.incarnation := by
  have hfirst : (Fleet.running Fleet.opening).explains
      (Fleet.register (Fleet.booted Fleet.primary 1)) = some .acceptTargetRegistered := by
    decide +kernel
  have hsecond : ((Fleet.running (Fleet.opening ++ Fleet.register (Fleet.booted Fleet.primary 1) ::
      [.retireTarget Fleet.primary Fleet.operator])).explains
      (Fleet.register (Fleet.booted Fleet.primary 2)),
      (Fleet.running (Fleet.opening ++ Fleet.register (Fleet.booted Fleet.primary 1) ::
        [.retireTarget Fleet.primary Fleet.operator])).state.targets.find? Fleet.primary) =
      (some .acceptTargetRegistered, none) := by
    decide +kernel
  obtain ⟨hsecond, hretired⟩ := Prod.mk.inj hsecond
  have hremembers : Remembers ((Fabric.create {} {}).momentsOf (Fleet.opening ++
      Fleet.register (Fleet.booted Fleet.primary 1) ::
        ([.retireTarget Fleet.primary Fleet.operator] ++
          [Fleet.register (Fleet.booted Fleet.primary 2)]))) := by
    refine remembers_momentsOf fun front target _ _ hsplit prior _ hprior _ => ?_
    simp only [Fleet.opening, Fleet.register, List.cons_append, List.nil_append,
      List.cons_eq_append_iff, List.nil_eq, List.append_eq_nil_iff, List.cons.injEq, reduceCtorEq,
      false_and, and_false, or_false, false_or, exists_const] at hsplit
    -- the first target that is registered has none before it, the second has the first
    obtain ⟨_, rfl, _, rfl, _, rfl, _, rfl, ⟨rfl, -, -⟩ | ⟨_, rfl, _, rfl, rfl, htarget, -⟩⟩ :=
      hsplit
    · simp at hprior
    · obtain ⟨rfl, -⟩ := Op.registerTarget.inj htarget
      simp at hprior
      obtain ⟨rfl, -⟩ := hprior
      decide
  have hsplit := Fabric.momentsOf_split_twice (Fabric.create {} {}) Fleet.opening
    (Fleet.register (Fleet.booted Fleet.primary 1)) [.retireTarget Fleet.primary Fleet.operator]
    (Fleet.register (Fleet.booted Fleet.primary 2)) []
  have hadopted := adopts_of_explains hfirst rfl
  have hreadopted := adopts_of_explains hsecond rfl
  exact ⟨_, _, _, _, _, _, _, Fleet.recordOf (Fleet.booted Fleet.primary 1),
    Fleet.recordOf (Fleet.booted Fleet.primary 2), Fleet.run_running _, hsplit, hremembers,
    hadopted, hreadopted, hretired, rfl,
    incarnations_never_regress (Fleet.run_running _) hremembers hsplit hadopted hreadopted rfl⟩

/-- After its retirement a target is registered at an older incarnation. -/
theorem not_incarnations_never_regress : ∃ (moments earlier between later : List Moment)
    (first second : Moment) (fabric : Fabric) (target next : TargetRecord),
    Fabric.Run {} moments fabric ∧ moments = earlier ++ first :: (between ++ second :: later) ∧
    first.Adopts target ∧ second.Adopts next ∧ next.name = target.name ∧
    next.incarnation < target.incarnation := by
  have hfirst : (Fleet.running Fleet.opening).explains
      (Fleet.register (Fleet.booted Fleet.primary 2)) = some .acceptTargetRegistered := by
    decide +kernel
  have hsecond : (Fleet.running (Fleet.opening ++ Fleet.register (Fleet.booted Fleet.primary 2) ::
      [.retireTarget Fleet.primary Fleet.operator])).explains
      (Fleet.register (Fleet.booted Fleet.primary 1)) = some .acceptTargetRegistered := by
    decide +kernel
  exact ⟨_, _, _, _, _, _, _, Fleet.recordOf (Fleet.booted Fleet.primary 2),
    Fleet.recordOf (Fleet.booted Fleet.primary 1), Fleet.run_running _,
    Fabric.momentsOf_split_twice _ _ _ _ _ [], adopts_of_explains hfirst rfl,
    adopts_of_explains hsecond rfl, rfl, by decide⟩

end OffloadFabric
