import OffloadFabric.Accounts
import OffloadFabric.RingLog

/-!
The log of explanations over a run. Each call that gives an account of itself leaves it in
the log, an open of a closed process and a new process empty it, and nothing else touches it.
So the log always shows the latest of what callers were told, and counts what it dropped.
-/
namespace OffloadFabric

/-! ### The log is a ring -/

namespace ExplanationLog

def ring (log : ExplanationLog) : RingLog Explanation :=
  ⟨log.capacity, log.evicted, log.next, log.entries⟩

theorem ring_record (log : ExplanationLog) (explanation : Explanation) :
    (log.record explanation).ring = log.ring.record explanation := by
  unfold record
  rw [apply_ite ring, apply_ite ring]
  rfl

end ExplanationLog

namespace Fabric

/-! ### What one call tells -/

/-- The account of itself that a call answers with. -/
def Reply.account : Reply → Option Explanation
  | .explained _ explanation => some explanation
  | .decided decision => some decision.explanation
  | _ => none

/-- The log with the account of a reply, if it has one. -/
def Reply.leaves (log : ExplanationLog) (reply : Reply) : ExplanationLog :=
  match reply.account with
  | some explanation => log.record explanation
  | none => log

section Calls

variable {fabric fabric' : Fabric} {op : Op}

/-- An ingestion is explained once, whatever becomes of it. -/
theorem explanations_ingest (fabric : Fabric) (service : ServiceName) (subject : Bytes)
    (checked : Check Proposal) :
    (fabric.ingest service subject checked).2.explanations =
      fabric.explanations.record (fabric.ingest service subject checked).1.2 := by
  unfold ingest
  dsimp only
  split
  · rfl
  · split
    all_goals
      rename_i htransact
      rw [← (transact_sameSession htransact).explanations]
      rfl

theorem explanations_cancel (fabric : Fabric) (key : RequestKey) :
    (fabric.cancel key).2.explanations = fabric.explanations.record (fabric.cancel key).1.2 := by
  unfold cancel
  dsimp only
  split
  · rfl
  · split <;> rfl

theorem explanations_close (fabric : Fabric) :
    fabric.close.2.explanations = fabric.explanations := by
  unfold close
  split <;> rfl

theorem explanations_takeIntent (fabric : Fabric) :
    fabric.takeIntent.2.explanations = fabric.explanations := by
  unfold takeIntent
  split <;> rfl

theorem explanations_waitForIntent (fabric : Fabric) :
    fabric.waitForIntent.2.explanations = fabric.explanations := by
  unfold waitForIntent
  split <;> rfl

/-- Every call but an open leaves in the log what it answers, and no more. -/
theorem explanations_call (hopen : op ≠ .openFabric) :
    (fabric.call op).2.explanations = (fabric.call op).1.leaves fabric.explanations := by
  have hlog : fabric.entered.explanations = fabric.explanations := rfl
  cases op with
  | openFabric => exact absurd rfl hopen
  | closeFabric => exact explanations_close fabric.entered
  | takeIntent => exact explanations_takeIntent fabric.entered
  | waitForIntent => exact explanations_waitForIntent fabric.entered
  | cancel key => exact explanations_cancel fabric.entered key
  | enrollSource | registerService | registerTarget | setTopologyGeneration | setPolicy
  | withdrawService | retireTarget | ingestCapability | ingestFailure | ingestDependency =>
    exact explanations_ingest fabric.entered _ _ _
  | establishPlacement request =>
    exact (told_keyed hlog fun _ h => told_decideMove h _ _ _ _).recorded
  | requestFailover request =>
    exact (told_keyed hlog fun _ h => told_doRequestFailover h _ _).recorded
  | resumeRecovery request =>
    exact (told_keyed hlog fun _ h => told_doRequestFailover h _ _).recorded
  | resolveAmbiguity resolution =>
    exact (told_keyed hlog fun _ h => told_doResolveAmbiguity h _).recorded
  | requestFailback request =>
    exact (told_keyed hlog fun _ h => told_decideMove h _ _ _ _).recorded
  | acknowledgeIntent ack => exact (told_doAcknowledgeIntent hlog ack).recorded
  | reportEffect report => exact (told_doReportEffect hlog report).recorded

theorem explanations_recover (fabric : Fabric) (found : Store.Opened) :
    (fabric.recover found).2.explanations = fabric.explanations := by
  unfold recover
  dsimp only
  split
  · rfl
  · split
    · rfl
    split
    · rfl
    split
    · rfl
    · split <;> rename_i htransact <;>
        exact (transact_sameSession htransact).explanations

/-- An open of a closed process empties the log, whether or not it succeeds. -/
theorem explanations_open (fabric : Fabric) :
    (fabric.call .openFabric).2.explanations =
      if fabric.opened then fabric.explanations else fabric.explanations.clear := by
  show fabric.entered.open.2.explanations = _
  unfold «open»
  rw [show fabric.entered.opened = fabric.opened from rfl]
  split
  · rfl
  · split
    · rfl
    · split
      · rfl
      · exact explanations_recover _ _

end Calls

/-! ### What a run tells -/

/-- What has been told by a moment, given what was told before: nothing survives the process,
or the open of a closed one. -/
def Moment.tells (told : List Explanation) (moment : Moment) : List Explanation :=
  match moment.event with
  | .call .openFabric _ => if moment.before.opened then told else []
  | .call _ reply => told ++ reply.account.toList
  | .crash _ => []

/-- The accounts that calls have answered with since the log was empty, oldest first. -/
def accounts (moments : List Moment) : List Explanation := moments.foldl Moment.tells []

theorem accounts_snoc (moments : List Moment) (moment : Moment) :
    accounts (moments ++ [moment]) = moment.tells (accounts moments) := by
  unfold accounts
  rw [List.foldl_append]
  rfl

section Runs

variable {config : FabricConfig} {moments : List Moment} {fabric fabric' : Fabric}

/-- The log of the process holds what was told, in as many slots as were configured. -/
structure Narrates (config : FabricConfig) (told : List Explanation) (fabric : Fabric) : Prop where
  configured : fabric.config = config
  capacity : fabric.explanations.capacity = config.maxExplanations
  holds : fabric.explanations.ring.Holds told

theorem narrates_create (config : FabricConfig) (disk : Directory) :
    (create config disk).Narrates config [] :=
  ⟨rfl, rfl, RingLog.holds_nil _⟩

theorem Narrates.record {told : List Explanation} {explanation : Explanation}
    (h : fabric.Narrates config told) (hconfig : fabric'.config = fabric.config)
    (hlog : fabric'.explanations = fabric.explanations.record explanation) :
    fabric'.Narrates config (told ++ [explanation]) := by
  have hring : fabric'.explanations.ring = fabric.explanations.ring.record explanation := by
    rw [hlog, ExplanationLog.ring_record]
  have hcapacity : fabric'.explanations.capacity = fabric.explanations.capacity :=
    (congrArg RingLog.capacity hring).trans (RingLog.capacity_record _ _)
  exact ⟨hconfig.trans h.configured, hcapacity.trans h.capacity, hring ▸ h.holds.record _⟩

theorem Narrates.keep {told : List Explanation} (h : fabric.Narrates config told)
    (hconfig : fabric'.config = fabric.config)
    (hlog : fabric'.explanations = fabric.explanations) : fabric'.Narrates config told :=
  ⟨hconfig.trans h.configured, hlog ▸ h.capacity, hlog ▸ h.holds⟩

theorem Narrates.call {told : List Explanation} {op : Op} (h : fabric.Narrates config told)
    (hconfig : (fabric.call op).2.config = fabric.config) :
    (fabric.call op).2.Narrates config
      (Moment.tells told { before := fabric, event := .call op (fabric.call op).1 }) := by
  by_cases hopen : op = .openFabric
  · subst hopen
    have hlog := explanations_open fabric
    dsimp only [Moment.tells]
    split
    · rename_i hopened
      rw [if_pos hopened] at hlog
      exact h.keep hconfig hlog
    · rename_i hclosed
      rw [if_neg hclosed] at hlog
      exact ⟨hconfig.trans h.configured, by rw [hlog]; exact h.capacity,
        hlog ▸ RingLog.holds_nil _⟩
  · have hlog := @explanations_call fabric op hopen
    have htells : Moment.tells told { before := fabric, event := .call op (fabric.call op).1 } =
        told ++ (fabric.call op).1.account.toList := by
      cases op with
      | openFabric => exact absurd rfl hopen
      | _ => rfl
    rw [htells]
    unfold Reply.leaves at hlog
    split at hlog
    · rename_i explanation haccount
      rw [haccount]
      exact h.record hconfig hlog
    · rename_i haccount
      rw [haccount, Option.toList_none, List.append_nil]
      exact h.keep hconfig hlog

theorem Run.narrates (h : Run config moments fabric) :
    fabric.Narrates config (accounts moments) := by
  induction h with
  | start => exact narrates_create config {}
  | @step moments fabric fabric' event hrun hstep ih =>
    rw [accounts_snoc]
    have hconfig : fabric'.config = fabric.config :=
      ((hrun.step hstep).configured).trans hrun.configured.symm
    cases hstep with
    | call op => exact ih.call hconfig
    | crash op disk _ =>
      rw [ih.configured]
      exact narrates_create config disk

end Runs

end Fabric

end OffloadFabric
