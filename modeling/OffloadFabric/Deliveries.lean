import OffloadFabric.Aftermath
import OffloadFabric.Clock
import OffloadFabric.Generations
import OffloadFabric.Outbox

/-!
Intents from their commit to their delivery. In the first boot of a process the intents that
were handed out, followed by those that are pending, are the intents of the commits that found
room, in the order of their commits. Ticks tell these apart, and the fences of a service never
go back among them. What was counted agrees with it unless an intent was handed out to a caller
that waited.
-/
namespace OffloadFabric

open Fabric (Op Reply Event Moment)

/-! ### Intents of accepted moves -/

section Intents

variable {config : FabricConfig} {moments : List Moment} {fabric : Fabric} {op : Op}
  {decision : RecoveryDecision} {intent : FailoverIntent}

theorem fences_update (move : Move) (grant : Grant) (config : FabricConfig) (before : State)
    (pushed : Bool) (state : State) :
    (move.update grant config before pushed state).fences =
      state.fences.insert move.service (move.fenceRecord grant before) := by
  have hcore : (move.update grant config before pushed state).core.fences =
      state.fences.insert move.service (move.fenceRecord grant before) := by
    simp only [Move.update, State.core_remember, State.core_bump, State.core_bumpAll]
    rfl
  exact hcore

/-- A move leaves the fence that its intent carries. -/
theorem fenceTokenOf_update (move : Move) (grant : Grant) (config : FabricConfig)
    (before : State) (pushed : Bool) (state : State) :
    (move.update grant config before pushed state).fenceTokenOf
      (move.intent grant before).service = (move.intent grant before).fence := by
  have hservice : (move.intent grant before).service = move.service := rfl
  unfold State.fenceTokenOf
  rw [fences_update, hservice, OrderedMap.find?_insert_self]
  rfl

/-- The intent of an accepted move carries the tick and the fence that its call leaves. -/
theorem Fabric.Accepts.stamps (h : fabric.Accepts op decision) (hop : op.moves = true)
    (hintent : decision.intent = some intent) :
    fabric.state.tick < (fabric.call op).2.state.tick ∧
      intent.issued = (fabric.call op).2.state.tick ∧
      intent.fence = (fabric.call op).2.state.fenceTokenOf intent.service := by
  obtain ⟨hopened, -⟩ := h.relocates hop
  have hclose : op ≠ .closeFabric := by
    rintro rfl
    cases hop
  obtain ⟨-, -, commits, hpasses, hperforms, hanswers⟩ := Fabric.call_passes hopened hclose
  obtain ⟨-, hrelocates⟩ := h.relocated hop hanswers
  cases hrelocates with
  | @intro actor op' service check runtime qualified promotions commit _ _ _ _ _ hmoves =>
    obtain ⟨hbefore, hkeeps⟩ := hpasses.last
    have hticks := hperforms.tick
    have hfirst := hbefore.tick_le fun earlier hearlier =>
      hticks earlier (List.mem_append_left _ hearlier)
    have hlast := hticks commit (by simp)
    have hcore := fenceTokenOf_core hkeeps.core intent.service
    rw [hkeeps.tick, hcore]
    refine ⟨lt_of_le_of_lt hfirst hlast, ?_⟩
    cases hmoves with
    | intro _ _ _ _ _ _ hdecided =>
      obtain rfl := Option.some.inj (hintent.symm.trans hdecided)
      constructor
      · simp [Move.update, Move.intent]
      · exact (fenceTokenOf_update _ _ _ _ _ _).symm

/-- A call of an open coordinator takes no counter back. -/
theorem Fabric.Run.precedes_call (hrun : Fabric.Run config moments fabric)
    (hopened : fabric.opened = true) (hclose : op ≠ .closeFabric) :
    Precedes fabric.state (fabric.call op).2.state := by
  have hstable := (preserved_true config fun _ _ => True).stable
  obtain ⟨history, memory, -, hchronicled, -⟩ := hrun.staged hstable fun _ _ => trivial
  obtain ⟨history', memory', hchronicled', hadds⟩ :=
    @Chronicled.step_call _ _ _ _ _ _ op hchronicled hstable trivial
  obtain ⟨-, hgrounded, -⟩ := hchronicled.running hopened
  obtain ⟨-, hgrounded', -⟩ := hchronicled'.running (Fabric.call_passes hopened hclose).1
  rcases hadds with ⟨added, -, rfl⟩ | ⟨⟨-, -, hclosed⟩, -⟩
  · exact hgrounded.precedes hgrounded' (List.prefix_append _ _) (rises_along hchronicled'.trail)
  · rw [hopened] at hclosed
    cases hclosed

end Intents

/-! ### Ascending intents -/

/-- Intents in the order of their commits, none of them later than the state. -/
structure Ascending (state : State) (intents : List FailoverIntent) : Prop where
  ticks : intents.Pairwise fun earlier later => earlier.issued < later.issued
  fences : intents.Pairwise fun earlier later =>
    earlier.service = later.service → earlier.fence ≤ later.fence
  issued : ∀ intent ∈ intents, intent.issued ≤ state.tick
  fence : ∀ intent ∈ intents, intent.fence ≤ state.fenceTokenOf intent.service

section Ascending

variable {state state' : State} {intents : List FailoverIntent} {intent : FailoverIntent}

theorem Ascending.nil : Ascending state [] :=
  ⟨.nil, .nil, by simp, by simp⟩

/-- Neither the tick nor a fence goes back. -/
theorem Ascending.later (h : Ascending state intents) (htick : state.tick ≤ state'.tick)
    (hfence : ∀ service, state.fenceTokenOf service ≤ state'.fenceTokenOf service) :
    Ascending state' intents where
  ticks := h.ticks
  fences := h.fences
  issued := fun intent hintent => (h.issued intent hintent).trans htick
  fence := fun intent hintent => (h.fence intent hintent).trans (hfence _)

/-- The next intent carries the tick and the fence of the state that its commit leaves. -/
theorem Ascending.post (h : Ascending state intents) (htick : state.tick < state'.tick)
    (hfence : ∀ service, state.fenceTokenOf service ≤ state'.fenceTokenOf service)
    (hissued : intent.issued = state'.tick)
    (hcurrent : intent.fence = state'.fenceTokenOf intent.service) :
    Ascending state' (intents ++ [intent]) where
  ticks := by
    refine List.pairwise_append.mpr ⟨h.ticks, List.pairwise_singleton _ _, ?_⟩
    intro earlier hearlier later hlater
    rw [List.mem_singleton.mp hlater, hissued]
    exact lt_of_le_of_lt (h.issued earlier hearlier) htick
  fences := by
    refine List.pairwise_append.mpr ⟨h.fences, List.pairwise_singleton _ _, ?_⟩
    intro earlier hearlier later hlater hsame
    rw [List.mem_singleton.mp hlater] at hsame ⊢
    rw [hcurrent, ← hsame]
    exact (h.fence earlier hearlier).trans (hfence _)
  issued := by
    intro other hother
    rcases List.mem_append.mp hother with hother | hother
    · exact (h.issued other hother).trans htick.le
    · rw [List.mem_singleton.mp hother, hissued]
  fence := by
    intro other hother
    rcases List.mem_append.mp hother with hother | hother
    · exact (h.fence other hother).trans (hfence _)
    · rw [List.mem_singleton.mp hother, hcurrent]

/-- An earlier tick makes an intent a different one. -/
theorem Ascending.nodup (h : Ascending state intents) : intents.Nodup :=
  h.ticks.imp fun hlt hsame => by
    rw [hsame] at hlt
    exact lt_irrefl _ hlt

theorem Ascending.left {more : List FailoverIntent} (h : Ascending state (intents ++ more)) :
    Ascending state intents where
  ticks := (List.pairwise_append.mp h.ticks).1
  fences := (List.pairwise_append.mp h.fences).1
  issued := fun intent hintent => h.issued intent (List.mem_append_left _ hintent)
  fence := fun intent hintent => h.fence intent (List.mem_append_left _ hintent)

/-- The same holds of those that found room. -/
theorem Ascending.queued (outbox : Outbox) (act : Outbox.Act)
    (h : Ascending state (intents ++ Outbox.posted act)) :
    Ascending state (intents ++ outbox.queued act) := by
  unfold Outbox.queued
  split
  · exact h
  · rw [List.append_nil]
    exact h.left

end Ascending

/-! ### The first boot -/

namespace Fabric

/-- The calls on a process that has not been open yet. -/
inductive Idles (start : Fabric) : List Moment → Fabric → Prop where
  | start : Idles start [] start
  | call {moments : List Moment} {fabric : Fabric} {op : Op} : Idles start moments fabric →
      (fabric.call op).2.opened = false → Idles start
        (moments ++ [{ before := fabric, event := .call op (fabric.call op).1 }])
        (fabric.call op).2

/-- The first open of a process that succeeds, and the calls since. -/
structure FirstBoot (config : FabricConfig) (start : Fabric) (calls : List Moment)
    (fabric : Fabric) : Prop where
  constructed : ∃ moments disk waits before, Run config moments (create config disk) ∧
    (create config disk).Idles waits before ∧ start = (before.call .openFabric).2
  opened : start.opened = true
  served : start.Serves calls fabric

section FirstBoot

variable {config : FabricConfig} {moments calls waits : List Moment} {start fabric : Fabric}

/-- Nothing is pending before the first open. -/
theorem Idles.empty (h : start.Idles waits fabric) (hclosed : start.opened = false)
    (hqueue : start.intents.queue = []) :
    fabric.opened = false ∧ fabric.intents.queue = [] := by
  induction h with
  | start => exact ⟨hclosed, hqueue⟩
  | @call moments fabric op _ hstill ih =>
    have hcall := queue_call op ih.1
    rw [ih.2] at hcall
    exact ⟨hstill, (List.append_eq_nil_iff.mp hcall.symm).2⟩

theorem Idles.run (h : start.Idles waits fabric) (hrun : Run config moments start) :
    Run config (moments ++ waits) fabric := by
  induction h with
  | start => rwa [List.append_nil]
  | call _ _ ih =>
    rw [← List.append_assoc]
    exact .step ih (.call _ _)

theorem FirstBoot.begins (h : FirstBoot config start calls fabric) :
    start.intents.queue = [] ∧ ∃ moments, Run config moments start := by
  obtain ⟨moments, disk, waits, before, hrun, hidles, rfl⟩ := h.constructed
  obtain ⟨hclosed, hqueue⟩ := hidles.empty rfl rfl
  have hcall := queue_call .openFabric hclosed
  rw [hqueue] at hcall
  exact ⟨(List.append_eq_nil_iff.mp hcall.symm).2, _, .step (hidles.run hrun) (.call _ _)⟩

end FirstBoot

/-! ### What a boot does with intents -/

namespace Moment

variable (moment : Moment)

/-- The intent of a commit that found room. -/
def queued : List FailoverIntent := moment.before.outbox.queued moment.event.act

/-- The intent of a commit that found none. -/
def dropped : List FailoverIntent := moment.before.outbox.dropped moment.event.act

/-- The intent that is handed out. -/
def handed : List FailoverIntent := moment.event.handed

/-- The intent that is queued and not counted. -/
def unrecorded : List FailoverIntent := moment.before.outbox.unrecorded moment.event.act

/-- The intent that is handed out and not counted. -/
def unclaimed : List FailoverIntent := moment.before.outbox.unclaimed moment.event.act

end Moment

section Serves

variable {config : FabricConfig} {moments calls : List Moment} {start fabric : Fabric} {op : Op}

/-- A call keeps the intents of the commits so far ascending, and adds its own to them. -/
theorem ascending_call {intents : List FailoverIntent} (hrun : Run config moments fabric)
    (hopened : fabric.opened = true) (hclose : op ≠ .closeFabric)
    (h : Ascending fabric.state intents) :
    Ascending (fabric.call op).2.state
      (intents ++ Outbox.posted (Event.call op (fabric.call op).1).act) := by
  have hprecedes := hrun.precedes_call hopened hclose
  have hfence (service : ServiceName) :
      fabric.state.fenceTokenOf service ≤ (fabric.call op).2.state.fenceTokenOf service :=
    hprecedes.fence service
  obtain ⟨-, -, commits, hpasses, hperforms, -⟩ := call_passes hopened hclose
  have hlater := h.later (hpasses.tick_le hperforms.tick) hfence
  cases hact : (Event.call op (fabric.call op).1).act with
  | rest | take | wait => simpa [Outbox.posted] using hlater
  | post intent =>
    -- Only a move that is accepted now posts an intent.
    obtain ⟨decision, hreply, hfresh, hmoves, hintent⟩ : ∃ decision,
        (fabric.call op).1 = .decided decision ∧ decision.fresh = true ∧ op.moves = true ∧
          decision.intent = some intent := by
      unfold Event.act at hact
      split at hact
      · cases hact
      · cases hact
      · rename_i op' decision _ _ heq
        obtain ⟨rfl, hreply⟩ := Event.call.inj heq
        unfold RecoveryDecision.act at hact
        split at hact
        · rename_i hmoved
          rw [Bool.and_eq_true] at hmoved
          split at hact
          · rename_i hsome
            cases hact
            exact ⟨decision, hreply, hmoved.1, hmoved.2, hsome⟩
          · cases hact
        · cases hact
      · cases hact
    unfold RecoveryDecision.fresh at hfresh
    rw [Bool.and_eq_true, Bool.not_eq_true'] at hfresh
    have haccepts : fabric.Accepts op decision := ⟨hreply, hfresh.1, hfresh.2⟩
    obtain ⟨htick, hissued, hcurrent⟩ := haccepts.stamps hmoves hintent
    exact h.post htick hfence hissued hcurrent

/-- What one call does with intents, and what it counts of them. -/
theorem delivers_call (hopened : fabric.opened = true) (hclose : op ≠ .closeFabric)
    {moment : Moment}
    (hmoment : moment = { before := fabric, event := .call op (fabric.call op).1 }) :
    fabric.intents.queue ++ moment.queued = moment.handed ++ (fabric.call op).2.intents.queue ∧
      (fabric.call op).2.state.tallies.emitted.toNat + moment.unrecorded.length =
        fabric.state.tallies.emitted.toNat + moment.queued.length ∧
      (fabric.call op).2.state.tallies.consumed.toNat + moment.unclaimed.length =
        fabric.state.tallies.consumed.toNat + moment.handed.length ∧
      (fabric.call op).2.state.tallies.dropped.toNat =
        min (fabric.state.tallies.dropped.toNat + moment.dropped.length) u64Max.toNat := by
  subst hmoment
  have hstep := outbox_call hopened hclose
  have hhanded : Moment.handed { before := fabric, event := .call op (fabric.call op).1 } =
      fabric.outbox.handed (Event.call op (fabric.call op).1).act := handed_call fabric op
  have hqueue := congrArg (fun outbox => outbox.intents.queue) hstep
  have htallies : (fabric.call op).2.state.tallies = (fabric.outbox.step _).tallies :=
    congrArg Outbox.tallies hstep
  rw [hhanded, htallies]
  refine ⟨?_, Outbox.step_emitted, Outbox.step_consumed, Outbox.step_dropped⟩
  exact Outbox.step_queue.trans (congrArg _ hqueue.symm)

/-- The intents of a boot: those that found room are handed out or pending, and ascend. -/
theorem Serves.delivers (h : start.Serves calls fabric) (hrun : Run config moments start)
    (hopened : start.opened = true) (hqueue : start.intents.queue = []) :
    calls.flatMap Moment.handed ++ fabric.intents.queue = calls.flatMap Moment.queued ∧
      Ascending fabric.state (calls.flatMap Moment.queued) := by
  induction h with
  | start =>
    rw [hqueue]
    exact ⟨rfl, .nil⟩
  | @call calls fabric op hserves hclose ih =>
    obtain ⟨horder, hascending⟩ := ih
    have hbefore := (hserves.opened hopened).1
    obtain ⟨hmoved, -⟩ := delivers_call hbefore hclose rfl
    simp only [List.flatMap_append, List.flatMap_singleton]
    constructor
    · rw [List.append_assoc, ← hmoved, ← List.append_assoc, horder]
    · exact (ascending_call (hserves.run hrun) hbefore hclose hascending).queued _ _

end Serves

end Fabric

namespace Fleet

end Fleet

end OffloadFabric
