import OffloadFabric.Boots

/-!
A coordinator that is not open. The observers have no gate of their own: they read the fences
and the intents that the process has in memory. No call on a closed coordinator changes the
fences, or queues an intent; a close leaves both as they were, an open starts over with the
fences, but not with the intents, before it can still refuse.
-/
namespace OffloadFabric

open Fabric (Op Event Moment)

/-- The intents that a reply hands out. -/
def Fabric.Reply.handed : Reply → List FailoverIntent
  | .intent taken => taken.toList
  | _ => []

def Fabric.Event.handed : Event → List FailoverIntent
  | .call _ reply => reply.handed
  | .crash _ => []

namespace Fabric

/-! ### Pending intents -/

section Pending

variable {fabric fabric' : Fabric}

@[simp] theorem intents_recordExplanation (fabric : Fabric) (explanation : Explanation) :
    (fabric.recordExplanation explanation).intents = fabric.intents := rfl

@[simp] theorem intents_accept (fabric : Fabric) (decision : RecoveryDecision) :
    (fabric.accept decision).2.intents = fabric.intents := rfl

@[simp] theorem intents_replayCached (fabric : Fabric) (entry : RequestCacheEntry)
    (service : ServiceName) (key : RequestKey) :
    (fabric.replayCached entry service key).2.intents = fabric.intents := rfl

@[simp] theorem intents_refusal (fabric : Fabric) (explanation : Explanation) (code : Reason)
    (subject : Bytes) (detail : String) (value : UInt64) :
    (fabric.refusal explanation code subject detail value).2.intents = fabric.intents := by
  unfold refusal
  dsimp only
  split <;> rfl

@[simp] theorem intents_cancel (fabric : Fabric) (key : RequestKey) :
    (fabric.cancel key).2.intents = fabric.intents := by
  unfold cancel
  dsimp only
  split
  · rfl
  · split <;> rfl

theorem intents_recover (fabric : Fabric) (found : Store.Opened) :
    (fabric.recover found).2.intents = fabric.intents := by
  unfold recover
  dsimp only
  split
  · rfl
  · split
    · rfl
    · split
      · rfl
      · split
        · rfl
        · split <;>
          · rename_i htransact
            have hsame := (transact_sameSession htransact).intents
            exact hsame

/-- A refused check never gets to the queue. -/
theorem intents_ingest {service : ServiceName} {subject : Bytes} {checked : Check Proposal}
    {refused : Refusal} (h : checked = .error refused) :
    (fabric.ingest service subject checked).2.intents = fabric.intents := by
  rw [h]
  rfl

theorem intents_decided {service : ServiceName} {key : RequestKey}
    {decide : Explanation → RecoveryDecision × Fabric} (hclosed : fabric.opened = false) :
    (fabric.decided service key decide).2.intents = fabric.intents := by
  simp [decided, hclosed]

theorem intents_failover {request : FailoverRequest} {resume : Bool}
    (hclosed : fabric.opened = false) :
    (fabric.doRequestFailover request resume).2.intents = fabric.intents := by
  unfold doRequestFailover
  split <;> exact intents_decided hclosed

/-- A keyed request that finds the coordinator closed is never decided. -/
theorem intents_keyed {service : ServiceName} {key : RequestKey}
    {decide : Fabric → RecoveryDecision × Fabric}
    (hdecide : ∀ cancels, (decide { fabric with cancels }).2.intents = fabric.intents) :
    (fabric.keyed service key decide).2.intents = fabric.intents := by
  unfold keyed
  split
  · rfl
  · dsimp only
    split
    · exact intents_refusal _ _ _ _ _ _
    · exact hdecide _

end Pending

/-! ### Calls on a closed coordinator -/

section Closed

variable {fabric fabric' : Fabric} {op : Op} {commits : List Commit}

/-- The checks of an ingestion refuse a closed coordinator. -/
theorem exists_refused_of_closed {checked : Check Proposal}
    (hop : fabric.ingestion op = some checked) (hclosed : fabric.opened = false) :
    ∃ refused, checked = .error refused := by
  cases hchecked : checked with
  | error refused => exact ⟨refused, rfl⟩
  | ok proposal =>
    have hopened := opened_of_ingestion hop hchecked
    rw [hclosed] at hopened
    cases hopened

theorem intents_ingestion {checked : Check Proposal} (hop : fabric.ingestion op = some checked)
    (hclosed : fabric.opened = false) : (fabric.dispatch op).2.intents = fabric.intents := by
  obtain ⟨refused, hrefused⟩ := exists_refused_of_closed hop hclosed
  cases op with
  | enrollSource | registerService | registerTarget | setTopologyGeneration | setPolicy
  | withdrawService | retireTarget | ingestCapability | ingestFailure | ingestDependency =>
    obtain rfl := Option.some.inj hop
    exact intents_ingest hrefused
  | _ => cases hop

/-- An open leaves the pending intents where they are, whatever becomes of it. -/
theorem queue_open (fabric : Fabric) : fabric.open.2.intents.queue = fabric.intents.queue := by
  unfold «open»
  split
  · rfl
  · split
    · rfl
    · split
      · rfl
      · rw [intents_recover]
        rfl

/-- A call on a closed coordinator takes no more from the queue than it hands out, and adds
nothing to it. -/
theorem queue_call (op : Op) (hclosed : fabric.opened = false) :
    fabric.intents.queue = (fabric.call op).1.handed ++ (fabric.call op).2.intents.queue := by
  have hentered : fabric.entered.opened = false := hclosed
  have hsame {reply : Reply} {intents : IntentQueue} (hreply : reply.handed = [])
      (h : intents = fabric.entered.intents) :
      fabric.intents.queue = reply.handed ++ intents.queue := by
    rw [hreply, h]
    rfl
  cases op with
  | openFabric =>
    have hqueue := queue_open fabric.entered
    exact (show fabric.intents.queue = _ from hqueue.symm)
  | closeFabric =>
    refine hsame rfl ?_
    simp [call, dispatch, replyCode, close, hentered]
  | enrollSource | registerService | registerTarget | setTopologyGeneration | setPolicy
  | withdrawService | retireTarget | ingestCapability | ingestFailure | ingestDependency =>
    exact hsame rfl (intents_ingestion rfl hentered)
  | establishPlacement | resolveAmbiguity | requestFailback =>
    exact hsame rfl (intents_keyed fun _ => intents_decided hclosed)
  | requestFailover | resumeRecovery =>
    exact hsame rfl (intents_keyed fun _ => intents_failover hclosed)
  | acknowledgeIntent ack =>
    refine hsame rfl ?_
    simp [call, dispatch, replyDecided, doAcknowledgeIntent, hentered]
  | reportEffect report =>
    refine hsame rfl ?_
    simp [call, dispatch, replyDecided, doReportEffect, hentered]
  | cancel key => exact hsame rfl (intents_cancel _ _)
  | takeIntent | waitForIntent =>
    simp only [call, dispatch, replyIntent, takeIntent, waitForIntent, IntentQueue.tryPop]
    have hqueue : fabric.entered.intents.queue = fabric.intents.queue := rfl
    cases hpending : fabric.intents.queue with
    | nil => simp [hqueue, hpending, Reply.handed]
    | cons intent rest => simp [hqueue, hpending, Reply.handed, bump]

/-! ### Fence verification -/

theorem verifyFence_congr (hfences : fabric'.state.fences = fabric.state.fences)
    (hwitnesses : fabric'.state.witnesses = fabric.state.witnesses) (check : FenceCheck) :
    fabric'.verifyFence check = fabric.verifyFence check := by
  have hfence : fabric'.state.fences.find? check.service =
      fabric.state.fences.find? check.service := by rw [hfences]
  have hwitness : fabric'.state.witnessOf check.service check.holder.target =
      fabric.state.witnessOf check.service check.holder.target := by
    rw [State.witnessOf, hwitnesses, State.witnessOf]
  unfold verifyFence
  dsimp only
  rw [hfence, hwitness]

/-- Without a fence nothing is authorized. -/
theorem verifyFence_none (hfences : fabric.state.fences = .empty) (check : FenceCheck) :
    (fabric.verifyFence check).authorized = false := by
  simp only [verifyFence, hfences]
  cases fabric.state.witnessOf check.service check.holder.target <;> rfl

theorem verifyFence_keeps (h : fabric.Keeps fabric') (check : FenceCheck) :
    fabric'.verifyFence check = fabric.verifyFence check := by
  have hrecords := h.state.sameRecords
  exact verifyFence_congr (by rw [hrecords]) (by rw [hrecords]) check

/-- A call on a closed coordinator that does not open it changes no verdict. -/
theorem verifyFence_call (hclosed : fabric.opened = false) (hopen : op ≠ .openFabric)
    (check : FenceCheck) : (fabric.call op).2.verifyFence check = fabric.verifyFence check := by
  by_cases hclose : op = .closeFabric
  · subst hclose
    have hsame : (fabric.call .closeFabric).2 = fabric.entered := by
      have hclosed' : fabric.entered.opened = false := hclosed
      simp [call, dispatch, replyCode, close, hclosed']
    rw [hsame]
    rfl
  · obtain ⟨commits, hevolves, -⟩ := fabric.entered.dispatch_evolves hopen hclose
    exact verifyFence_keeps (hevolves.closed hclosed).2 check

/-- The close itself changes no verdict either, and drops no intent. -/
theorem close_dormant (hopened : fabric.opened = true) :
    (∀ check, (fabric.call .closeFabric).2.verifyFence check = fabric.verifyFence check) ∧
      (fabric.call .closeFabric).2.intents.queue = fabric.intents.queue := by
  have hopened' : fabric.entered.opened = true := hopened
  have hcall : (fabric.call .closeFabric).2 = { fabric.entered with
      opened := false, intents := { fabric.intents with closed := true }, store := none } := by
    simp only [call, dispatch, replyCode, close, hopened', Bool.not_true, Bool.false_eq_true,
      if_false]
    rfl
  rw [hcall]
  exact ⟨fun _ => rfl, rfl⟩

/-- The open was refused after it had taken over what the store held: the records could not
all be applied, or the restart could not be made durable. -/
def Abandons (fabric : Fabric) (op : Op) : Prop :=
  op = .openFabric ∧ fabric.opened = false ∧ (fabric.call .openFabric).2.opened = false ∧
    ∃ found base, Store.open (storeOptions fabric.config) fabric.disk = .ok found ∧
      loadBase fabric.config found.snapshot = .ok base

/-- An open that is refused before that leaves no fence. -/
theorem open_dormant (hclosed : fabric.opened = false)
    (hrefused : (fabric.call .openFabric).2.opened = false)
    (hkept : ¬fabric.Abandons .openFabric) :
    (fabric.call .openFabric).2.state.fences = .empty := by
  have hcall : (fabric.call .openFabric).2 = fabric.entered.open.2 := rfl
  by_cases hstore : fabric.config.storeDirectory = true
  · cases hopen : Store.open (storeOptions fabric.config) fabric.disk with
    | error report =>
      rw [hcall, open_error (by exact hclosed) (by exact hstore) (by exact hopen)]
      rfl
    | ok found =>
      cases hload : loadBase fabric.config found.snapshot with
      | error code =>
        rw [hcall, open_found (by exact hclosed) (by exact hstore) (by exact hopen), recover]
        have hload' : loadBase (fabric.entered.cleared.attach found).config found.snapshot =
            .error code := hload
        rw [hload']
        rfl
      | ok base => exact absurd ⟨rfl, hclosed, hrefused, found, base, hopen, hload⟩ hkept
  · have hclosed' : fabric.entered.opened = false := hclosed
    have hstore' : fabric.entered.config.storeDirectory = false := eq_false_of_ne_true hstore
    rw [hcall] at hrefused
    simp [«open», hclosed', hstore'] at hrefused

end Closed

/-! ### Lives -/

/-- The runs of a coordinator on any directory it may find. Others may change the directory
while the coordinator is not open. -/
inductive Life (config : FabricConfig) : List Moment → Fabric → Prop where
  | start (disk : Directory) : Life config [] (create config disk)
  | step {moments : List Moment} {fabric fabric' : Fabric} {event : Event} :
      Life config moments fabric → Step fabric event fabric' →
      Life config (moments ++ [{ before := fabric, event }]) fabric'
  | replaced {moments : List Moment} {fabric : Fabric} (disk : Directory) :
      Life config moments fabric → fabric.opened = false →
      Life config moments { fabric with disk }

/-- A close of an open coordinator. -/
def Moment.Closes (moment : Moment) : Prop :=
  moment.before.opened = true ∧ ∃ reply, moment.event = .call .closeFabric reply

/-- An open that is refused after it had taken something over. -/
def Moment.Abandons (moment : Moment) : Prop :=
  ∃ op reply, moment.event = .call op reply ∧ moment.before.Abandons op

/-- A call on a coordinator that is not open. -/
def Moment.Waits (moment : Moment) : Prop :=
  moment.before.opened = false ∧ ∃ op reply, moment.event = .call op reply

/-- A call on such a coordinator that does not try to open it. -/
def Moment.Rests (moment : Moment) : Prop :=
  moment.before.opened = false ∧ ∃ op reply, moment.event = .call op reply ∧ op ≠ .openFabric

/-- What a closed coordinator still authorizes: nothing, or what it did when it was closed. The
verdicts after an open that abandoned what it had taken over are left open. -/
inductive Verdicts (moments : List Moment) (fabric : Fabric) : Prop where
  | none : (∀ check, (fabric.verifyFence check).authorized = false) → Verdicts moments fabric
  | closed {earlier later : List Moment} {closing : Moment} :
      moments = earlier ++ closing :: later → closing.Closes → (∀ next ∈ later, next.Rests) →
      (∀ check, fabric.verifyFence check = closing.before.verifyFence check) →
      Verdicts moments fabric
  | abandoned {earlier later : List Moment} {opening : Moment} :
      moments = earlier ++ opening :: later → opening.Abandons → (∀ next ∈ later, next.Rests) →
      Verdicts moments fabric

/-- What a closed coordinator still has to hand out: nothing, or what was queued when it was
closed and was not handed out since. -/
inductive Pending (moments : List Moment) (fabric : Fabric) : Prop where
  | none : fabric.intents.queue = [] → Pending moments fabric
  | closed {earlier later : List Moment} {closing : Moment} :
      moments = earlier ++ closing :: later → closing.Closes → (∀ next ∈ later, next.Waits) →
      closing.before.intents.queue =
        later.flatMap (fun next => next.event.handed) ++ fabric.intents.queue →
      Pending moments fabric

section Lives

theorem append_split {α : Type} {items earlier later : List α} {item : α}
    (h : items = earlier ++ item :: later) (last : α) :
    items ++ [last] = earlier ++ item :: (later ++ [last]) := by
  simp [h]

variable {config : FabricConfig} {moments : List Moment} {fabric fabric' : Fabric} {op : Op}

theorem Verdicts.call (h : Verdicts moments fabric) (hclosed : fabric.opened = false)
    (hclosed' : (fabric.call op).2.opened = false) :
    Verdicts (moments ++ [{ before := fabric, event := .call op (fabric.call op).1 }])
      (fabric.call op).2 := by
  by_cases hopen : op = .openFabric
  · subst hopen
    by_cases habandons : fabric.Abandons .openFabric
    · exact .abandoned rfl ⟨_, _, rfl, habandons⟩ (by simp)
    · exact .none fun check => verifyFence_none (open_dormant hclosed hclosed' habandons) check
  · have hsame := verifyFence_call hclosed hopen
    have hrests : Moment.Rests { before := fabric, event := .call op (fabric.call op).1 } :=
      ⟨hclosed, _, _, rfl, hopen⟩
    have hlater {later : List Moment} (hrest : ∀ next ∈ later, next.Rests) :=
      List.forall_mem_append.mpr ⟨hrest, List.forall_mem_singleton.mpr hrests⟩
    cases h with
    | none hnone => exact .none fun check => hsame check ▸ hnone check
    | closed hsplit hcloses hrest hverdicts =>
      exact .closed (append_split hsplit _) hcloses (hlater hrest)
        fun check => (hsame check).trans (hverdicts check)
    | abandoned hsplit habandons hrest =>
      exact .abandoned (append_split hsplit _) habandons (hlater hrest)

theorem Pending.call (h : Pending moments fabric) (hclosed : fabric.opened = false) :
    Pending (moments ++ [{ before := fabric, event := .call op (fabric.call op).1 }])
      (fabric.call op).2 := by
  have hqueue := queue_call op hclosed
  cases h with
  | none hnone =>
    rw [hnone] at hqueue
    exact .none (List.append_eq_nil_iff.mp hqueue.symm).2
  | closed hsplit hcloses hwaits hpending =>
    have hwait : Moment.Waits { before := fabric, event := .call op (fabric.call op).1 } :=
      ⟨hclosed, _, _, rfl⟩
    refine .closed (append_split hsplit _) hcloses
      (List.forall_mem_append.mpr ⟨hwaits, List.forall_mem_singleton.mpr hwait⟩) ?_
    rw [hpending, hqueue]
    simp [Event.handed]

/-- The run lemma: what a coordinator that is not open authorizes and hands out. -/
theorem Life.dormant (h : Life config moments fabric) (hclosed : fabric.opened = false) :
    Verdicts moments fabric ∧ Pending moments fabric := by
  induction h with
  | start disk =>
    exact ⟨.none fun check => verifyFence_none rfl check, .none rfl⟩
  | replaced disk hlife hbefore ih =>
    obtain ⟨hverdicts, hpending⟩ := ih hbefore
    constructor
    · cases hverdicts with
      | none hnone => exact .none hnone
      | closed hsplit hcloses hrests hverdicts => exact .closed hsplit hcloses hrests hverdicts
      | abandoned hsplit habandons hrests => exact .abandoned hsplit habandons hrests
    · cases hpending with
      | none hnone => exact .none hnone
      | closed hsplit hcloses hwaits hqueue => exact .closed hsplit hcloses hwaits hqueue
  | @step moments fabric fabric' event hlife hstep ih =>
    cases hstep with
    | crash => exact ⟨.none fun check => verifyFence_none rfl check, .none rfl⟩
    | call op =>
      by_cases hopened : fabric.opened = true
      · -- Only a close leaves an open coordinator closed.
        have hclose : op = .closeFabric := by
          by_contra hother
          obtain ⟨hstays, -⟩ := call_passes hopened hother
          rw [hclosed] at hstays
          cases hstays
        subst hclose
        obtain ⟨hverdicts, hqueue⟩ := close_dormant hopened
        exact ⟨.closed rfl ⟨hopened, _, rfl⟩ (by simp) hverdicts,
          .closed rfl ⟨hopened, _, rfl⟩ (by simp) (by simpa using hqueue.symm)⟩
      · have hbefore : fabric.opened = false := by simpa using hopened
        obtain ⟨hverdicts, hpending⟩ := ih hbefore
        exact ⟨hverdicts.call hbefore hclosed, hpending.call hbefore⟩

theorem Run.life (h : Run config moments fabric) : Life config moments fabric := by
  induction h with
  | start => exact .start {}
  | step _ hstep ih => exact ih.step hstep

/-- A coordinator that is not open authorizes nothing, or exactly what it did when it was
closed; it hands out nothing but what was queued when it was closed, in order and once. Only
of the verdicts after an open that abandoned what it had taken over nothing is said. -/
theorem dormant_grants (hlife : Life config moments fabric) (hclosed : fabric.opened = false) :
    (∀ check, (fabric.verifyFence check).authorized = true →
      ∃ earlier last later, moments = earlier ++ last :: later ∧ (∀ next ∈ later, next.Rests) ∧
        (last.Abandons ∨ last.Closes ∧
          ∀ check, fabric.verifyFence check = last.before.verifyFence check)) ∧
    ∀ op intent, (fabric.call op).1 = .intent (some intent) →
      ∃ earlier closing later rest, moments = earlier ++ closing :: later ∧ closing.Closes ∧
        (∀ next ∈ later, next.Waits) ∧ closing.before.intents.queue =
          later.flatMap (fun next => next.event.handed) ++ intent :: rest := by
  obtain ⟨hverdicts, hpending⟩ := hlife.dormant hclosed
  constructor
  · intro check hauthorized
    cases hverdicts with
    | none hnone =>
      rw [hnone check] at hauthorized
      cases hauthorized
    | closed hsplit hcloses hrests hsame =>
      exact ⟨_, _, _, hsplit, hrests, Or.inr ⟨hcloses, hsame⟩⟩
    | abandoned hsplit habandons hrests => exact ⟨_, _, _, hsplit, hrests, Or.inl habandons⟩
  · intro op intent hreply
    have hqueue := queue_call op hclosed
    rw [hreply, Reply.handed] at hqueue
    cases hpending with
    | none hnone =>
      rw [hnone] at hqueue
      cases hqueue
    | closed hsplit hcloses hwaits hpending =>
      exact ⟨_, _, _, _, hsplit, hcloses, hwaits, hpending.trans (by rw [hqueue]; rfl)⟩

end Lives

end Fabric

/-- The first pending intent is handed out, whoever asks for it. -/
theorem Fabric.call_takeIntent (fabric : Fabric) :
    (fabric.call .takeIntent).1 = .intent fabric.intents.queue.head? ∧
      (fabric.call .waitForIntent).1 = .intent fabric.intents.queue.head? := by
  simp only [call, dispatch, replyIntent, takeIntent, waitForIntent, IntentQueue.tryPop]
  have hqueue : fabric.entered.intents.queue = fabric.intents.queue := rfl
  cases hpending : fabric.intents.queue with
  | nil => simp [hqueue, hpending]
  | cons intent rest => simp [hqueue, hpending]

/-- The service was placed, and the coordinator closed. -/
def Fleet.retired : List Op := placed ++ [.closeFabric]

/-- What the closed coordinator hands out was queued when it was closed. -/
theorem dormant_grants_retired : ∃ earlier closing later intent rest,
    (Fabric.create {} {}).momentsOf Fleet.retired = earlier ++ closing :: later ∧
    closing.Closes ∧ closing.before.intents.queue =
      later.flatMap (fun next => next.event.handed) ++ intent :: rest := by
  have hfacts : ((Fleet.running Fleet.retired).opened,
      (Fleet.running Fleet.retired).intents.queue.head?.isSome) = (false, true) := by
    simp only [Fleet.running, Fabric.after_eq_drafted]
    decide +kernel
  obtain ⟨hclosed, hpending⟩ := Prod.mk.inj hfacts
  obtain ⟨intent, hpending⟩ := Option.isSome_iff_exists.mp hpending
  obtain ⟨htaken, -⟩ := Fabric.call_takeIntent (Fleet.running Fleet.retired)
  obtain ⟨-, hhanded⟩ := Fabric.dormant_grants (Fleet.run_running Fleet.retired).life hclosed
  obtain ⟨earlier, closing, later, rest, hsplit, hcloses, -, hqueue⟩ :=
    hhanded .takeIntent intent (htaken.trans (congrArg Fabric.Reply.intent hpending))
  exact ⟨earlier, closing, later, intent, rest, hsplit, hcloses, hqueue⟩

/-- The check of the holder after the placement. -/
def Fleet.holding : Fabric.FenceCheck :=
  { service := Fleet.service, holder := booted primary 1, presented := ⟨1⟩ }

/-- A closed coordinator goes on authorizing the holder of a fence, and hands out the intent of
the placement. -/
theorem not_dormant_grants : ∃ moments intent,
    Fabric.Run {} moments (Fleet.running Fleet.retired) ∧
    (Fleet.running Fleet.retired).opened = false ∧
    ((Fleet.running Fleet.retired).verifyFence Fleet.holding).authorized = true ∧
    ((Fleet.running Fleet.retired).call .takeIntent).1 = .intent (some intent) ∧
    ((Fleet.running Fleet.retired).call .waitForIntent).1 = .intent (some intent) := by
  have hfacts : ((Fleet.running Fleet.retired).opened,
      ((Fleet.running Fleet.retired).verifyFence Fleet.holding).authorized,
      (Fleet.running Fleet.retired).intents.queue.head?.isSome) = (false, true, true) := by
    simp only [Fleet.running, Fabric.after_eq_drafted]
    decide +kernel
  obtain ⟨hclosed, hfacts⟩ := Prod.mk.inj hfacts
  obtain ⟨hauthorized, hpending⟩ := Prod.mk.inj hfacts
  obtain ⟨intent, hpending⟩ := Option.isSome_iff_exists.mp hpending
  obtain ⟨htaken, hwaited⟩ := Fabric.call_takeIntent (Fleet.running Fleet.retired)
  rw [hpending] at htaken hwaited
  exact ⟨_, intent, Fleet.run_running Fleet.retired, hclosed, hauthorized, htaken, hwaited⟩

end OffloadFabric
