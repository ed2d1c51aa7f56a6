import OffloadFabric.Reopening
import OffloadFabric.Succession
import OffloadFabric.Transitions

/-!
Counters of the coordinator that only go up. The fence token, the failover generation and
the lease term of a service are always one number, which a commit takes one up and a
resumption repeats. The generations of topology and policy, the epoch and the boot never go
back along a durable history, and an open that recovers anything starts a new epoch.
-/
namespace OffloadFabric

open Fabric (Op Moment)

/-! ### The numbers of a service -/

/-- The fence token, the failover generation and the lease term of a service, nought as long
as it has none. -/
structure Numbers where
  fence : Nat
  generation : Nat
  term : Nat
  deriving DecidableEq

def State.numbers (state : State) (service : ServiceName) : Numbers :=
  let runtime := state.services.find? service
  { fence := (state.fenceTokenOf service).value.toNat
    generation := (runtime.map fun runtime => runtime.generation.value.toNat).getD 0
    term := ((runtime.bind ServiceRuntime.lease).map fun lease => lease.term.value.toNat).getD 0 }

/-- Each of the numbers one higher. -/
def Numbers.raised (numbers : Numbers) : Numbers :=
  { fence := numbers.fence + 1, generation := numbers.generation + 1, term := numbers.term + 1 }

/-- All three are the number of the token. -/
def Numbers.ofToken (token : Nat) : Numbers :=
  { fence := token, generation := token, term := token }

section Numbers

variable {config : FabricConfig} {state : State} {service : ServiceName}

theorem State.numbers_eq (hsound : state.core.Sound config) :
    state.numbers service = .ofToken (state.fenceTokenOf service).value.toNat := by
  unfold State.numbers Numbers.ofToken
  cases hfind : state.services.find? service with
  | none =>
    have hfence : state.fences.find? service = none := by
      by_contra hsome
      obtain ⟨held, hheld⟩ := Option.ne_none_iff_exists'.mp hsome
      obtain ⟨-, runtime, hruntime⟩ := hsound.fences service held hheld
      rw [State.core_service, hfind] at hruntime
      cases hruntime
    have htoken : (state.fenceTokenOf service).value.toNat = 0 := by
      unfold State.fenceTokenOf
      rw [hfence]
      rfl
    rw [htoken]
    rfl
  | some runtime =>
    rcases shape_of_sound hsound hfind with hvacant | ⟨held, hgoverned⟩
    · have htoken : (state.fenceTokenOf service).value.toNat = 0 := by
        unfold State.fenceTokenOf
        rw [hvacant.unfenced]
        rfl
      simp [htoken, hvacant.lease, hvacant.generation]
    · obtain ⟨lease, hlease, -, hterm⟩ := hgoverned.lease
      have htoken : (state.fenceTokenOf service).value = runtime.generation.value := by
        unfold State.fenceTokenOf
        rw [hgoverned.fenced]
        exact hgoverned.generation
      simp [htoken, hlease, hterm]

theorem Numbers.raised_ofToken (token : Nat) :
    (Numbers.ofToken token).raised = .ofToken (token + 1) := rfl

end Numbers

/-! ### Generations along a history -/

/-- A change advances the generation that it sets. -/
def Rises (core : Core) : Change → Prop
  | .topologyGenerationSet generation => core.topologyGeneration < generation
  | .policySet policy => core.policyGeneration < policy.generation
  | .epochAdvanced epoch boot => epoch = advance core.epoch ∧ boot = advance core.boot
  | _ => True

/-- No counter has decreased from the one state to the other. -/
structure Precedes (state state' : State) : Prop where
  fence : ∀ service, (state.numbers service).fence ≤ (state'.numbers service).fence
  generation : ∀ service, (state.numbers service).generation ≤ (state'.numbers service).generation
  term : ∀ service, (state.numbers service).term ≤ (state'.numbers service).term
  topology : state.topologyGeneration ≤ state'.topologyGeneration
  policy : state.policyGeneration ≤ state'.policyGeneration

/-- An open of this process reads back an epoch and a boot that can still be advanced. -/
def Fabric.Unexhausted (fabric : Fabric) : Prop :=
  ∀ old, fabric.Rereads old → old.epoch.value ≠ u64Max ∧ old.boot.value ≠ u64Max

/-- The restarts in the history found an epoch and a boot that could be advanced. -/
def NeverExhausted (config : FabricConfig) (history : List Change) : Prop :=
  ∀ past epoch boot, past ++ [.epochAdvanced epoch boot] <+: history →
    (replayed config past).epoch.value ≠ u64Max ∧ (replayed config past).boot.value ≠ u64Max

section Histories

variable {config : FabricConfig} {allowed : Fabric → Op → Prop} {P : Invariant}
  {history past : List Change} {state : State} {change : Change}

theorem Fabric.Ingested.rises {fabric : Fabric} {op : Op} {update : State → State}
    (h : fabric.Ingested op change update) : Rises fabric.state.core change := by
  cases h with
  | topologySet _ hforward => exact hforward
  | policySet _ _ hforward => exact hforward
  | _ => trivial

theorem Fabric.Caused.rises {fabric : Fabric} {op : Op} {commit : Commit}
    (h : fabric.Caused op commit) : Rises fabric.state.core commit.change := by
  cases h with
  | ingested hop hok hwrites =>
    rw [hwrites.change]
    exact (ingested_of_ok hop hok).rises
  | moved _ _ _ hmoves =>
    cases hmoves with
    | intro => trivial
  | denied _ _ _ hwrites | confirmed _ _ _ hwrites | acknowledged _ _ hwrites
  | reported _ _ _ _ hwrites =>
    rw [hwrites.change]
    trivial

/-- No call starts a new epoch, except an open. -/
theorem Fabric.Caused.change_ne {fabric : Fabric} {op : Op} {commit : Commit}
    (h : fabric.Caused op commit) (epoch : CoordinatorEpoch) (boot : BootId) :
    commit.change ≠ .epochAdvanced epoch boot := by
  cases h with
  | ingested hop hok hwrites =>
    have hingested := ingested_of_ok hop hok
    rw [hwrites.change]
    generalize Fabric.Proposal.change _ = change at hingested
    generalize Fabric.Proposal.update _ = update at hingested
    cases hingested <;> exact Change.noConfusion
  | moved _ _ _ hmoves =>
    cases hmoves with
    | intro => exact Change.noConfusion
  | denied _ _ _ hwrites | confirmed _ _ _ hwrites | acknowledged _ _ hwrites
  | reported _ _ _ _ hwrites =>
    rw [hwrites.change]
    exact Change.noConfusion

/-- Every change of a durable history rises above the generations it found. -/
theorem rises_along (htrail : Trail config allowed (Grounds config P) history) :
    Along config Rises history := by
  refine htrail.along fun past change _ _ hwarrant => ?_
  cases hwarrant with
  | made _ _ _ _ hactor hcaused _ =>
    rw [← hactor.1.explains.core]
    exact hcaused.rises
  | restarted _ hstate =>
    rw [← hstate.1.explains.core]
    exact ⟨rfl, rfl⟩

/-- No restart exhausts the history when no open is allowed to. -/
theorem neverExhausted_of_trail (htrail : Trail config allowed (Grounds config P) history)
    (hroom : ∀ caller : Fabric, caller.opened = false → allowed caller .openFabric →
      caller.Unexhausted) : NeverExhausted config history := by
  intro past epoch boot hfront
  have hwarrant := htrail past _ hfront
  generalize hchange : Change.epochAdvanced epoch boot = change at hwarrant
  cases hwarrant with
  | made _ _ _ _ _ hcaused _ => exact absurd hchange.symm (hcaused.change_ne epoch boot)
  | restarted hread hstate =>
    obtain ⟨caller, -, hclosed, hallowed, hrereads⟩ := hread
    obtain ⟨hepoch, hboot⟩ := hroom caller hclosed hallowed _ hrereads
    have hcore := hstate.1.explains.core
    have hsame : _ = (replayed config past).epoch := congrArg Core.epoch hcore
    have hsame' : _ = (replayed config past).boot := congrArg Core.boot hcore
    rw [← hsame, ← hsame']
    exact ⟨hepoch, hboot⟩

theorem generations_le (h : Along config Rises history) (hfront : past <+: history) :
    (replayed config past).topologyGeneration ≤ (replayed config history).topologyGeneration ∧
      (replayed config past).policyGeneration ≤ (replayed config history).policyGeneration := by
  refine h.preserves (P := fun state =>
    (replayed config past).topologyGeneration ≤ state.topologyGeneration ∧
      (replayed config past).policyGeneration ≤ state.policyGeneration) hfront
    ⟨le_rfl, le_rfl⟩ fun earlier next _ _ hle hrises => ?_
  cases next with
  | topologyGenerationSet generation => exact ⟨hle.1.trans hrises.le, hle.2⟩
  | policySet policy => exact ⟨hle.1, hle.2.trans hrises.le⟩
  | serviceWithdrawn name =>
    have hcore := Change.core_serviceWithdrawn (replayed config earlier) name
    exact ⟨hle.1.trans (congrArg Core.topologyGeneration hcore).ge,
      hle.2.trans (congrArg Core.policyGeneration hcore).ge⟩
  | _ => exact hle

theorem advance_toNat {tag : GenTag} {gen : Gen tag} (hroom : gen.value ≠ u64Max) :
    (advance gen).value.toNat = gen.value.toNat + 1 := by
  have hsuccessor : gen.successor = some ⟨gen.value + 1⟩ := by
    rw [Gen.successor, if_neg hroom]
  rw [advance, hsuccessor]
  exact Gen.successor_toNat hsuccessor

/-- While they are not exhausted, epoch and boot never go back. -/
theorem epoch_le (h : Along config Rises history) (hroom : NeverExhausted config history)
    (hfront : past <+: history) :
    (replayed config past).epoch ≤ (replayed config history).epoch ∧
      (replayed config past).boot ≤ (replayed config history).boot := by
  refine h.preserves (P := fun state =>
    (replayed config past).epoch ≤ state.epoch ∧ (replayed config past).boot ≤ state.boot) hfront
    ⟨le_rfl, le_rfl⟩ fun earlier next _ hnext hle hrises => ?_
  cases next with
  | epochAdvanced epoch boot =>
    obtain ⟨rfl, rfl⟩ := hrises
    obtain ⟨hepoch, hboot⟩ := hroom earlier _ _ hnext
    have hepoch' := advance_toNat hepoch
    have hboot' := advance_toNat hboot
    have hle' := hle
    rw [Gen.le_iff, Gen.le_iff] at hle'
    constructor
    · show (replayed config past).epoch.value.toNat ≤
        (advance (replayed config earlier).epoch).value.toNat
      omega
    · show (replayed config past).boot.value.toNat ≤
        (advance (replayed config earlier).boot).value.toNat
      omega
  | serviceWithdrawn name =>
    have hcore := Change.core_serviceWithdrawn (replayed config earlier) name
    exact ⟨hle.1.trans (congrArg Core.epoch hcore).ge,
      hle.2.trans (congrArg Core.boot hcore).ge⟩
  | _ => exact hle

theorem fenceTokenOf_congr {added : List Change} {service : ServiceName}
    (h : ∀ change ∈ added, change.holding service = none) :
    (replayed config (past ++ added)).fenceTokenOf service =
      (replayed config past).fenceTokenOf service := by
  induction added using List.reverseRecOn with
  | nil => rw [List.append_nil]
  | append_singleton earlier last ih =>
    rw [← List.append_assoc, replayed_snoc, fenceTokenOf_apply, h last (by simp)]
    exact ih fun change hchange => h change (List.mem_append_left _ hchange)

end Histories

/-! ### Accepted moves -/

/-- The call that issues an interrupted attempt again. -/
def Fabric.Op.resumes : Op → Bool
  | .resumeRecovery _ => true
  | _ => false

section Moves

variable {config : FabricConfig} {fabric : Fabric} {op : Op} {decision : RecoveryDecision}
  {history : List Change} {commits : List Commit}

/-- Only a resumption moves in the mode of a resumption. -/
theorem mode_of_moving {service : ServiceName} {check : ServiceRuntime → Check Qualified}
    {runtime : ServiceRuntime} {qualified : Qualified}
    (hop : fabric.moving op = some (service, check)) (hok : check runtime = .ok qualified) :
    qualified.move.mode = .resume ↔ op.resumes = true := by
  cases op with
  | establishPlacement request =>
    cases hop
    obtain ⟨-, -, -, target, -, -, -, hmove⟩ := Fabric.checkPlacement_ok hok
    simp [hmove, Fabric.Op.resumes]
  | requestFailover request =>
    cases hop
    obtain ⟨-, -, -, -, -, -, evidence, target, -, -, hmove⟩ := Fabric.checkFailover_ok hok
    simp [hmove, Fabric.Op.resumes]
  | resumeRecovery request =>
    cases hop
    obtain ⟨-, -, -, previous, target, -, -, -, -, hmove⟩ := Fabric.checkResume_ok hok
    simp [hmove, Fabric.Op.resumes]
  | requestFailback request =>
    cases hop
    obtain ⟨-, -, -, -, original, record, slot, -, -, -, -, -, -, -, -, hmove⟩ :=
      Fabric.checkFailback_ok hok
    simp [hmove, Fabric.Op.resumes]
  | _ => cases hop

theorem Fabric.Acts.resumes {actor : Fabric} {op' : Op} (h : fabric.Acts op actor op') :
    op'.resumes = op.resumes := by
  cases h with
  | direct => rfl
  | confirmed => rfl

/-- The record of a move says whether its call resumes. -/
theorem Fabric.Moves.resumes {service : ServiceName} {check : ServiceRuntime → Check Qualified}
    {runtime : ServiceRuntime} {qualified : Qualified} {commit : Commit}
    (h : fabric.Moves qualified.move decision commit)
    (hop : fabric.moving op = some (service, check)) (hok : check runtime = .ok qualified) :
    commit.change.resumes = op.resumes := by
  cases h with
  | intro =>
    rw [Bool.eq_iff_iff, ← mode_of_moving hop hok]
    unfold Move.change Change.resumes
    by_cases hmode : qualified.move.mode = .resume <;> simp [hmode]

/-- What an accepted move makes durable takes the token of its service one up, or leaves it
when it resumes. -/
theorem Fabric.Relocates.token (h : fabric.Relocates op decision commits)
    (hlawful : Along config (Legit config) (history ++ commits.map Commit.change)) :
    ∃ intent, decision.intent = some intent ∧
      ((replayed config (history ++ commits.map Commit.change)).fenceTokenOf
        intent.service).value.toNat =
        ((replayed config history).fenceTokenOf intent.service).value.toNat +
          if op.resumes then 0 else 1 := by
  cases h with
  | @intro actor op' service check runtime qualified promotions commit hpromotions hacts hop hfind
      hok hmoves =>
    obtain ⟨intent, hintent, hservice, -⟩ := hmoves.leads
    refine ⟨intent, hintent, ?_⟩
    rw [List.map_append, ← List.append_assoc] at hlawful ⊢
    have hnone : ∀ change ∈ promotions.map Commit.change,
        change.holding intent.service = none := by
      intro change hchange
      obtain ⟨promotion, hpromotion, rfl⟩ := List.mem_map.mp hchange
      obtain ⟨evidence, hevidence⟩ := hpromotions promotion hpromotion
      rw [hevidence]
      rfl
    have hpromoted : (replayed config (history ++ promotions.map Commit.change)).fenceTokenOf
        intent.service = (replayed config history).fenceTokenOf intent.service :=
      fenceTokenOf_congr hnone
    have hlegit := hlawful.last
    have hsound := soundReplayed (hlawful.of_front (List.prefix_append _ _))
    have hresumes := hmoves.resumes hop hok
    rw [List.map_singleton, replayed_snoc, fenceTokenOf_apply, ← hpromoted, ← hacts.resumes]
    cases hmoves with
    | @intro prior grant pushed before hprior hprepare hbefore haccepted hduplicate hplan hemits =>
      have hholding : (qualified.move.change grant prior.config prior.state).holding
          intent.service = some (qualified.move.fenceRecord grant prior.state) := by
        rw [hservice]
        exact if_pos rfl
      rw [hholding, ← hresumes]
      exact hlegit.token_eq hsound hholding

end Moves

/-! ### Runs -/

/-- An open of this directory finds a snapshot or a record. -/
def Fabric.Recovers (fabric : Fabric) : Prop :=
  ∃ found, Store.open (Fabric.storeOptions fabric.config) fabric.disk = .ok found ∧
    (found.snapshot ≠ [] ∨ found.records ≠ [])

section Runs

variable {config : FabricConfig} {allowed : Fabric → Op → Prop} {P : Invariant}
  {moments : List Moment} {fabric fabric' : Fabric} {op : Op} {decision : RecoveryDecision}
  {history past memory memory' : List Change} {state state' : State}

theorem Grounded.numbers (h : Grounded config history state) (service : ServiceName) :
    state.numbers service =
      .ofToken ((replayed config history).fenceTokenOf service).value.toNat := by
  rw [State.numbers_eq h.sound, fenceTokenOf_core h.explains.core]

/-- Of two memories whose histories follow each other, no counter has decreased. -/
theorem Grounded.precedes (h : Grounded config past state) (h' : Grounded config history state')
    (hfront : past <+: history) (hrises : Along config Rises history) :
    Precedes state state' := by
  have htoken := token_le_of_front h'.lawful hfront
  obtain ⟨htopology, hpolicy⟩ := generations_le hrises hfront
  have hbefore := h.explains.core
  have hafter := h'.explains.core
  exact
    { fence := fun service => by
        rw [h.numbers, h'.numbers]
        exact htoken service
      generation := fun service => by
        rw [h.numbers, h'.numbers]
        exact htoken service
      term := fun service => by
        rw [h.numbers, h'.numbers]
        exact htoken service
      topology := by
        have hsame : state.topologyGeneration = _ := congrArg Core.topologyGeneration hbefore
        have hsame' : state'.topologyGeneration = _ := congrArg Core.topologyGeneration hafter
        rw [hsame, hsame']
        exact htopology
      policy := by
        have hsame : state.policyGeneration = _ := congrArg Core.policyGeneration hbefore
        have hsame' : state'.policyGeneration = _ := congrArg Core.policyGeneration hafter
        rw [hsame, hsame']
        exact hpolicy }

/-- An accepted move takes the numbers of its service one up, and a resumption leaves them. -/
theorem Chronicled.numbers_of_accepts
    (h : Chronicled config allowed (Grounds config P) history memory fabric)
    (hstable : Stable config allowed (Grounds config P)) (hallowed : allowed fabric.entered op)
    (haccepts : fabric.Accepts op decision) (hmoves : op.moves = true) :
    ∃ intent, decision.intent = some intent ∧
      (fabric.call op).2.state.numbers intent.service =
        if op.resumes then fabric.state.numbers intent.service
        else (fabric.state.numbers intent.service).raised := by
  obtain ⟨hopened, -⟩ := haccepts.relocates hmoves
  have hclose : op ≠ .closeFabric := by
    rintro rfl
    cases hmoves
  have hopened' := (Fabric.call_passes hopened hclose).1
  obtain ⟨history', memory', h', hadds⟩ := h.step_call hstable hallowed
  rcases hadds with ⟨added, hadds, rfl⟩ | ⟨⟨-, rfl, -⟩, -⟩
  swap
  · cases hmoves
  obtain ⟨commits, hrelocates, rfl⟩ := haccepts.adds hmoves hadds
  obtain ⟨-, hgrounded, -⟩ := h.running hopened
  obtain ⟨-, hgrounded', -⟩ := h'.running hopened'
  obtain ⟨intent, hintent, htoken⟩ := hrelocates.token hgrounded'.lawful
  refine ⟨intent, hintent, ?_⟩
  rw [hgrounded.numbers, hgrounded'.numbers, htoken]
  by_cases hresumes : op.resumes = true
  · rw [if_pos hresumes, if_pos hresumes, Nat.add_zero]
  · rw [if_neg hresumes, if_neg hresumes, Numbers.raised_ofToken]

/-- An open that recovers anything advances the epoch and the boot that it reads back. -/
theorem Chronicled.reopens
    (h : Chronicled config allowed (Grounds config P) history memory fabric)
    (hstable : Stable config allowed (Grounds config P)) (hstore : config.storeDirectory = true)
    (hclosed : fabric.opened = false) (hrecovers : fabric.Recovers)
    (hopened : (fabric.call .openFabric).2.opened = true) : ∃ old, fabric.Rereads old ∧
      old.core = (replayed config history).core ∧
      (fabric.call .openFabric).2.state.epoch = advance old.epoch ∧
      (fabric.call .openFabric).2.state.boot = advance old.boot := by
  obtain ⟨found, hopen, hsome⟩ := hrecovers
  obtain ⟨base, old, hload, hreplay, -, hkeeps⟩ :=
    Fabric.open_restarts hclosed (h.configured ▸ hstore) hopen hsome hopened
  have hread : fabric.Rereads old := ⟨found, base, hopen, hload, hreplay⟩
  have hafter := hkeeps.core
  exact ⟨old, hread, (h.readBack hstable hstore hread).1.explains.core,
    congrArg Core.epoch hafter, congrArg Core.boot hafter⟩

/-- An open that recovers anything leaves every epoch and boot of the run behind, as long as no
open of the run found them at their maximum. -/
theorem Fabric.Run.epoch_lt (hrun : Fabric.Run config moments fabric)
    (hstore : config.storeDirectory = true) (hclosed : fabric.opened = false)
    (hroom : ∀ moment ∈ moments, moment.event.op = .openFabric → moment.before.opened = false →
      moment.before.Unexhausted) (hlast : fabric.Unexhausted) (hrecovers : fabric.Recovers)
    (hopened : (fabric.call .openFabric).2.opened = true) :
    ∀ moment ∈ moments, moment.before.opened = true →
      moment.before.state.epoch < (fabric.call .openFabric).2.state.epoch ∧
      moment.before.state.boot < (fabric.call .openFabric).2.state.boot := by
  have hstable := (preserved_true config fun caller op =>
    op = .openFabric → caller.opened = false → caller.Unexhausted).stable
  obtain ⟨history, memory, -, hchronicled, hstaged⟩ := hrun.staged hstable hroom
  have hnever := neverExhausted_of_trail hchronicled.trail fun caller hshut hallowed =>
    hallowed rfl hshut
  intro moment hmoment hbefore
  obtain ⟨old, hread, hcore, hepoch, hboot⟩ :=
    hchronicled.reopens hstable hstore hclosed hrecovers hopened
  obtain ⟨earlier, later, hsplit⟩ := List.append_of_mem hmoment
  obtain ⟨past, memory', hpast⟩ := hstaged earlier moment later hsplit
  obtain ⟨added, -, hfront⟩ := hpast.kept fun next _ hforgets => by
    cases hevent : next.event with
    | call => rw [hevent] at hforgets; simp [Fabric.Forgets, hstore] at hforgets
    | crash => rw [hevent] at hforgets; simp [Fabric.Forgets, hstore] at hforgets
  obtain ⟨-, hgrounded, -⟩ := hpast.chronicled.running hbefore
  obtain ⟨hepoch', hboot'⟩ := epoch_le (rises_along hchronicled.trail) hnever
    ((List.prefix_append _ _).trans hfront)
  have hthen : moment.before.state.epoch = (replayed config past).epoch :=
    congrArg Core.epoch hgrounded.explains.core
  have hthen' : moment.before.state.boot = (replayed config past).boot :=
    congrArg Core.boot hgrounded.explains.core
  have hnow : old.epoch = (replayed config history).epoch := congrArg Core.epoch hcore
  have hnow' : old.boot = (replayed config history).boot := congrArg Core.boot hcore
  obtain ⟨hroom, hroom'⟩ := hlast old hread
  have hnext := advance_toNat hroom
  have hnext' := advance_toNat hroom'
  rw [← hnow, ← hthen, Gen.le_iff] at hepoch'
  rw [← hnow', ← hthen', Gen.le_iff] at hboot'
  rw [hepoch, hboot, Gen.lt_iff, Gen.lt_iff]
  constructor <;> omega

/-- At the points of a run at which the coordinator is open no counter of it has decreased, as
long as no process without a store starts over; every accepted move takes the numbers of its
service one up unless it resumes; and an open that recovers anything leaves every epoch and
boot before it behind, as long as no open of the run, nor this one, reads them back at their
maximum. -/
theorem generations_monotone (hrun : Fabric.Run config moments fabric) :
    (fabric.opened = true → ∀ earlier moment later, moments = earlier ++ moment :: later →
      (∀ next ∈ moment :: later, ¬next.before.Forgets config next.event) →
      moment.before.opened = true → Precedes moment.before.state fabric.state) ∧
    (∀ op decision, op.moves = true → fabric.Accepts op decision →
      ∃ intent, decision.intent = some intent ∧
        (fabric.call op).2.state.numbers intent.service =
          if op.resumes then fabric.state.numbers intent.service
          else (fabric.state.numbers intent.service).raised) ∧
    (config.storeDirectory = true → fabric.opened = false →
      (∀ moment ∈ moments, moment.event.op = .openFabric → moment.before.opened = false →
        moment.before.Unexhausted) → fabric.Unexhausted →
      fabric.Recovers → (fabric.call .openFabric).2.opened = true →
      ∀ moment ∈ moments, moment.before.opened = true →
        moment.before.state.epoch < (fabric.call .openFabric).2.state.epoch ∧
        moment.before.state.boot < (fabric.call .openFabric).2.state.boot) := by
  have hstable := (preserved_true config fun _ _ => True).stable
  obtain ⟨history, memory, -, hchronicled, hstaged⟩ := hrun.staged hstable fun _ _ => trivial
  refine ⟨?_, ?_, fun hstore hclosed hroom hlast => hrun.epoch_lt hstore hclosed hroom hlast⟩
  · intro hopened earlier moment later hsplit hnone hbefore
    obtain ⟨past, memory', hpast⟩ := hstaged earlier moment later hsplit
    obtain ⟨added, -, hfront⟩ := hpast.kept hnone
    obtain ⟨-, hgrounded, -⟩ := hchronicled.running hopened
    obtain ⟨-, hgrounded', -⟩ := hpast.chronicled.running hbefore
    exact hgrounded'.precedes hgrounded ((List.prefix_append _ _).trans hfront)
      (rises_along hchronicled.trail)
  · intro op decision hmoves haccepts
    exact hchronicled.numbers_of_accepts hstable trivial haccepts hmoves

theorem Fabric.unexhausted_empty (hdisk : fabric.disk = {}) : fabric.Unexhausted := by
  rintro old ⟨found, base, hopen, hload, hreplay⟩
  obtain ⟨hrecords, hbase⟩ := Fabric.found_empty hdisk hopen
  rw [hrecords, hbase base hload] at hreplay
  obtain rfl : initialState fabric.config = old := congrArg Prod.fst hreplay
  exact ⟨(by decide : (1 : UInt64) ≠ u64Max), (by decide : (1 : UInt64) ≠ u64Max)⟩

/-- The epoch and the boot that a new process reads back from the frames of a running store,
if there are any. -/
def Fabric.rereading (fabric : Fabric) : Option (CoordinatorEpoch × BootId) := do
  let found ← Store.reading (storeOptions fabric.config) fabric.disk
  let base ← (loadBase fabric.config found.snapshot).toOption
  if found.records.isEmpty then none
  else
    let old := (replay fabric.config base found.records).1
    some (old.epoch, old.boot)

theorem Fabric.Run.rereading (hrun : Fabric.Run config moments fabric)
    (hopened : fabric.opened = true) (hstore : fabric.config.storeDirectory = true)
    {epoch : CoordinatorEpoch} {boot : BootId} (h : fabric.rereading = some (epoch, boot)) :
    (Fabric.create fabric.config fabric.disk).Recovers ∧
      ∀ old, (Fabric.create fabric.config fabric.disk).Rereads old →
        old.epoch = epoch ∧ old.boot = boot := by
  obtain ⟨found, hread, h⟩ := Option.bind_eq_some_iff.mp h
  obtain ⟨base, hbase, h⟩ := Option.bind_eq_some_iff.mp h
  split at h
  · cases h
  rename_i hsome
  obtain ⟨store, snapshot, frames, hattached⟩ := hrun.attached hopened hstore
  refine ⟨⟨found, Store.open_of_reading hattached hread, Or.inr ?_⟩, fun old hrereads => ?_⟩
  · rintro hnil
    exact hsome (by rw [hnil]; rfl)
  · obtain ⟨base', hload, hreplay⟩ :=
      (hrun.rereads_reading hopened hstore hread rfl rfl).mp hrereads
    rw [hload] at hbase
    obtain rfl := Option.some.inj hbase
    rw [hreplay] at h
    exact Prod.mk.inj (Option.some.inj h)

/-- A service is placed and then failed over: its numbers go from one to two. A process that
dies leaves its epoch and its boot behind to the next. -/
theorem generations_monotone_placed :
    (∃ decision intent, (Fleet.running Fleet.placed).Accepts (Fleet.moveOn 2) decision ∧
      decision.intent = some intent ∧
      ((Fleet.running Fleet.placed).call (Fleet.moveOn 2)).2.state.numbers intent.service =
        ((Fleet.running Fleet.placed).state.numbers intent.service).raised) ∧
    ∃ reopened, (Fleet.keeping Fleet.opening).rebooting = some reopened ∧
      (Fleet.keeping Fleet.opening).state.epoch < reopened.state.epoch ∧
      (Fleet.keeping Fleet.opening).state.boot < reopened.state.boot := by
  have haccepted : (Fleet.running Fleet.placed).accepted (Fleet.moveOn 2) = true := by
    simp only [Fleet.running, Fabric.after_eq_drafted, Fabric.accepted, Fabric.call_eq_drafted]
    decide +kernel
  obtain ⟨decision, haccepts⟩ := Fabric.exists_accepts_of_accepted haccepted
  obtain ⟨-, hnumbers, -⟩ := generations_monotone (Fleet.run_running Fleet.placed)
  obtain ⟨intent, hintent, hraised⟩ := hnumbers _ decision rfl haccepts
  refine ⟨⟨decision, intent, haccepts, hintent, hraised⟩, ?_⟩
  have hrun := Fleet.run_keeping Fleet.opening
  have hfacts : (Fleet.keeping Fleet.opening).opened = true ∧
      (Fleet.keeping Fleet.opening).rereading = some (⟨1⟩, ⟨1⟩) ∧
      (Fleet.keeping Fleet.opening).rebooting.any Fabric.opened = true := by
    simp only [Fleet.keeping, Fabric.after_eq_drafted]
    decide +kernel
  -- Only the first of the calls opens the coordinator, on an empty directory.
  have hroom : ∀ moment ∈ (Fabric.create { storeDirectory := true } {}).momentsOf Fleet.opening,
      moment.event.op = .openFabric → moment.before.Unexhausted := by
    intro moment hmoment hop
    rcases List.mem_cons.mp hmoment with rfl | hmoment
    · exact Fabric.unexhausted_empty rfl
    · refine absurd hop (Fabric.forall_momentsOf (P := fun _ op => op ≠ .openFabric) ?_ moment
        hmoment)
      simp
  generalize Fleet.keeping Fleet.opening = fabric at hfacts hrun ⊢
  obtain ⟨hopened, hreading, hany⟩ := hfacts
  obtain ⟨reopened, hreopened, hagain⟩ := (Option.any_eq_true _ _).mp hany
  have hopens := hrun.after_rebooting hreopened []
  obtain ⟨hrecovers, hnumbers⟩ :=
    hrun.rereading hopened (by rw [hrun.configured]) hreading
  obtain ⟨-, -, hlater⟩ := generations_monotone hrun.dies
  have hopens : ((Fabric.create fabric.config fabric.disk).call .openFabric).2 = reopened := hopens
  rw [hopens] at hlater
  refine ⟨reopened, hreopened, hlater rfl rfl ?_ ?_ hrecovers hagain
    { before := fabric, event := .crash .waitForIntent } (by simp) hopened⟩
  · intro moment hmoment hop _
    rcases List.mem_append.mp hmoment with hmoment | hmoment
    · exact hroom moment hmoment hop
    · obtain rfl := List.mem_singleton.mp hmoment
      cases hop
  · intro old hread
    obtain ⟨hepoch, hboot⟩ := hnumbers old hread
    rw [hepoch, hboot]
    decide

/-- Without a store the counters of an open coordinator start over when it is opened again, and
with one those of a process are nought from a crash until it is opened. -/
theorem not_generations_monotone :
    (¬∀ moments fabric, Fabric.Run {} moments fabric → fabric.opened = true →
      ∀ earlier moment later, moments = earlier ++ moment :: later →
        moment.before.opened = true → Precedes moment.before.state fabric.state) ∧
    ¬∀ moments fabric, Fabric.Run { storeDirectory := true } moments fabric →
      ∀ earlier moment later, moments = earlier ++ moment :: later →
        Precedes moment.before.state fabric.state := by
  constructor
  · intro hmonotone
    have hplaced : ((Fabric.create {} {}).after Fleet.placed).opened = true := by
      simp only [Fabric.after_eq_drafted]
      decide +kernel
    have hreopened :
        (Fleet.running (Fleet.placed ++ [.closeFabric, .openFabric])).opened = true := by
      simp only [Fleet.running, Fabric.after_eq_drafted]
      decide +kernel
    have hrun := Fleet.run_running (Fleet.placed ++ [.closeFabric, .openFabric])
    have hsplit := Fabric.momentsOf_split (Fabric.create {} {}) Fleet.placed .closeFabric
      [.openFabric]
    have hfence := (hmonotone _ _ hrun hreopened _ _ _ hsplit hplaced).fence Fleet.service
    revert hfence
    simp only [Fleet.running, Fabric.after_eq_drafted]
    decide +kernel
  · intro hmonotone
    have hrun := Fabric.Run.of_calls { storeDirectory := true } Fleet.opening
    have hcrash := hrun.step (.crash _ .takeIntent _ (Or.inl rfl))
    have hprecedes := hmonotone _ _ hcrash _ _ [] rfl
    exact absurd hprecedes.topology (by decide +kernel)

end Runs

end OffloadFabric
