import OffloadFabric.Drafts
import OffloadFabric.Grounding

/-!
Who holds a service, along the whole history. The fence record of a service is that of the
last move of it that became durable. Tokens never go back, and every move that is not a
resumption takes a higher one, so a token that was overtaken is never authorized again.
-/
namespace OffloadFabric

open Fabric (Op Moment)

/-- The fence record that a change writes for the service. -/
def Change.holding (service : ServiceName) : Change → Option FenceRecord
  | .runtimeChanged _ change => if change.service = service then change.fence else none
  | _ => none

/-- Whether the change moves the service, and does not just resume its last move. -/
def Change.Supersedes (service : ServiceName) (change : Change) : Prop :=
  (∃ held, change.holding service = some held) ∧
    ∀ resumed, change ≠ .runtimeChanged .recoveryResumed resumed

/-- Whether the change resumes the last move of its service. -/
def Change.resumes : Change → Bool
  | .runtimeChanged .recoveryResumed _ => true
  | _ => false

theorem Change.Supersedes.not_resumes {service : ServiceName} {change : Change}
    (h : change.Supersedes service) : change.resumes = false := by
  unfold resumes
  split
  · exact absurd rfl (h.2 _)
  · rfl

/-! ### Fence records along a history -/

section Histories

variable {config : FabricConfig} {state : State} {history past : List Change} {change : Change}
  {service : ServiceName} {held : FenceRecord}

theorem find?_fences_apply (state : State) (change : Change) (service : ServiceName) :
    (Change.apply state change).fences.find? service =
      (change.holding service).or (state.fences.find? service) := by
  cases change with
  | runtimeChanged kind change =>
    have hfind := find?_fences_runtimeChanged state kind change service
    rw [show (Change.apply state (.runtimeChanged kind change)).fences.find? service = _ from hfind]
    by_cases hservice : service = change.service
    · subst hservice
      simp only [Change.holding, if_true, RuntimeChange.fenceAfter]
      cases change.fence <;> rfl
    · rw [if_neg hservice, Change.holding, if_neg (Ne.symm hservice)]
      rfl
  | serviceWithdrawn name =>
    have hfences : (Change.apply state (.serviceWithdrawn name)).fences = state.fences :=
      congrArg Core.fences (Change.core_serviceWithdrawn state name)
    rw [hfences]
    rfl
  | _ => rfl

/-- A fence record was written by the last change that wrote one for its service. -/
theorem exists_last_holding (h : (replayed config history).fences.find? service = some held) :
    ∃ past change later, history = past ++ change :: later ∧
      change.holding service = some held ∧ ∀ next ∈ later, next.holding service = none := by
  induction history using List.reverseRecOn with
  | nil => cases h
  | append_singleton past change ih =>
    rw [replayed_snoc, find?_fences_apply] at h
    cases hholding : change.holding service with
    | some written =>
      rw [hholding] at h
      obtain rfl := Option.some.inj h
      exact ⟨past, change, [], rfl, hholding, fun next hnext => by cases hnext⟩
    | none =>
      rw [hholding] at h
      obtain ⟨earlier, last, later, rfl, hlast, hlater⟩ := ih h
      refine ⟨earlier, last, later ++ [change], by simp, hlast, fun next hnext => ?_⟩
      rcases List.mem_append.mp hnext with hnext | hnext
      · exact hlater next hnext
      · rw [List.mem_singleton.mp hnext]
        exact hholding

/-- The last move of the service in the history took it to the target under the token. -/
def LastMove (config : FabricConfig) (history : List Change) (service : ServiceName)
    (target : TargetRef) (token : FenceToken) : Prop :=
  ∃ past later state move grant, history = past ++ move.change grant config state :: later ∧
    state.core = (replayed config past).core ∧ Minted state move grant ∧
    move.service = service ∧ move.destination = target ∧ grant.fence = token ∧
    ∀ next ∈ later, next.holding service = none

theorem Move.of_holding {move : Move} {grant : Grant}
    (h : (move.change grant config state).holding service = some held) :
    move.service = service ∧ held = move.fenceRecord grant state := by
  simp only [Move.change, Change.holding] at h
  split at h
  · rename_i hservice
    exact ⟨hservice, (Option.some.inj h).symm⟩
  · cases h

/-- Only moves write fence records. -/
theorem Legit.move_of_holding {core : Core} (h : Legit config core change)
    (hholding : change.holding service = some held) :
    ∃ (state : State) (move : Move) (grant : Grant), change = move.change grant config state ∧
      state.core = core ∧ Minted state move grant ∧ move.service = service ∧
      held = move.fenceRecord grant state := by
  cases h with
  | granted hcore _ hminted | renewed hcore _ hminted =>
    obtain ⟨hservice, hheld⟩ := Move.of_holding hholding
    exact ⟨_, _, _, rfl, hcore, hminted, hservice, hheld⟩
  | rewritten =>
    simp only [Change.holding, ite_self] at hholding
    cases hholding
  | _ => cases hholding

theorem lastMove_of_find? (hlawful : Along config (Legit config) history)
    (h : (replayed config history).fences.find? service = some held) :
    LastMove config history service held.holder held.token := by
  obtain ⟨past, change, later, rfl, hholding, hlater⟩ := exists_last_holding h
  obtain ⟨state, move, grant, rfl, hcore, hminted, hservice, rfl⟩ :=
    (hlawful past change (by simp)).move_of_holding hholding
  exact ⟨past, later, state, move, grant, rfl, hcore, hminted, hservice, rfl, rfl, hlater⟩

/-! ### Tokens -/

theorem fenceTokenOf_core {state state' : State} (h : state.core = state'.core)
    (service : ServiceName) : state.fenceTokenOf service = state'.fenceTokenOf service := by
  have hfences : state.fences = state'.fences := congrArg Core.fences h
  unfold State.fenceTokenOf
  rw [hfences]

theorem fenceTokenOf_apply (state : State) (change : Change) (service : ServiceName) :
    (Change.apply state change).fenceTokenOf service =
      match change.holding service with
      | some held => held.token
      | none => state.fenceTokenOf service := by
  unfold State.fenceTokenOf
  rw [find?_fences_apply]
  cases change.holding service <;> rfl

/-- A legitimate change that moves a service takes its token one up, or leaves it when it
resumes. -/
theorem Legit.token_eq (hsound : state.core.Sound config) (h : Legit config state.core change)
    (hholding : change.holding service = some held) : held.token.value.toNat =
      (state.fenceTokenOf service).value.toNat + if change.resumes then 0 else 1 := by
  cases h with
  | @granted found move grant name hcore hfind hminted hmode =>
    obtain ⟨rfl, hheld⟩ := Move.of_holding hholding
    have htoken := hminted.fence_toNat hmode
    rw [fenceTokenOf_core hcore] at htoken
    rw [hheld, Move.fenceRecord, htoken, Move.change, if_neg hmode]
    rfl
  | @renewed found move grant previous hcore hfind hminted hmode hprevious hsource htarget
      hincarnation =>
    obtain ⟨rfl, hheld⟩ := Move.of_holding hholding
    obtain ⟨-, hcoherent⟩ := hsound.moved hfind
    obtain ⟨hrecord, -⟩ := hsound.targets _ _ htarget
    obtain ⟨old, hold, -, htoken, -⟩ :=
      placed_of_renewed hcoherent hminted hmode hprevious hrecord hincarnation
    have hsame : state.fenceTokenOf move.service = grant.fence := by
      unfold State.fenceTokenOf
      rw [hold, htoken]
    rw [hheld, Move.fenceRecord, hsame, Move.change, if_pos hmode]
    rfl
  | rewritten =>
    simp only [Change.holding, ite_self] at hholding
    cases hholding
  | _ => cases hholding

/-- A legitimate change never takes a token back, and raises it unless it resumes. -/
theorem Legit.token (hsound : state.core.Sound config) (h : Legit config state.core change)
    (service : ServiceName) :
    (state.fenceTokenOf service).value.toNat ≤
        ((Change.apply state change).fenceTokenOf service).value.toNat ∧
      (change.Supersedes service → (state.fenceTokenOf service).value.toNat <
        ((Change.apply state change).fenceTokenOf service).value.toNat) := by
  rw [fenceTokenOf_apply]
  cases hholding : change.holding service with
  | none =>
    refine ⟨le_rfl, fun hsupersedes => ?_⟩
    obtain ⟨⟨held, hheld⟩, -⟩ := hsupersedes
    rw [hholding] at hheld
    cases hheld
  | some held =>
    have htoken := h.token_eq hsound hholding
    dsimp only
    refine ⟨by omega, fun hsupersedes => ?_⟩
    rw [hsupersedes.not_resumes] at htoken
    simp only [Bool.false_eq_true, if_false] at htoken
    omega

/-- Along a history tokens never go back. -/
theorem token_le_of_front (hlawful : Along config (Legit config) history)
    (hfront : past <+: history) (service : ServiceName) :
    ((replayed config past).fenceTokenOf service).value.toNat ≤
      ((replayed config history).fenceTokenOf service).value.toNat := by
  refine hlawful.preserves (P := fun state =>
    ((replayed config past).fenceTokenOf service).value.toNat ≤
      (state.fenceTokenOf service).value.toNat) hfront le_rfl ?_
  intro earlier next _ hnext hle hlegit
  have hsound := soundReplayed (hlawful.of_front ((List.prefix_append _ _).trans hnext))
  exact hle.trans (hlegit.token hsound service).1

/-- What is left behind by a later move is left behind at the end. -/
theorem token_lt_of_supersedes {added : List Change}
    (hlawful : Along config (Legit config) (past ++ added)) (hchange : change ∈ added)
    (hsupersedes : change.Supersedes service) :
    ((replayed config past).fenceTokenOf service).value.toNat <
      ((replayed config (past ++ added)).fenceTokenOf service).value.toNat := by
  obtain ⟨before, after, rfl⟩ := List.append_of_mem hchange
  have hearlier : past ++ before <+: past ++ (before ++ change :: after) := by
    rw [← List.append_assoc]
    exact List.prefix_append _ _
  have hlater : (past ++ before) ++ [change] <+: past ++ (before ++ change :: after) := by
    rw [List.append_assoc]
    simp
  have hstep := (hlawful _ _ hlater).token
    (soundReplayed (hlawful.of_front hearlier)) service
  have hstart := token_le_of_front (hlawful.of_front hearlier) (List.prefix_append past before)
    service
  have hend := token_le_of_front hlawful hlater service
  rw [replayed_snoc] at hend
  exact lt_of_le_of_lt hstart (lt_of_lt_of_le (hstep.2 hsupersedes) hend)

end Histories

/-! ### Authorization -/

namespace Fabric

/-- The fence check lets the target act for the service under the token. -/
def Verifies (fabric : Fabric) (service : ServiceName) (target : TargetRef) (token : FenceToken) :
    Prop :=
  (fabric.verifyFence { service, holder := target, presented := token }).authorized = true

theorem verifies_iff {fabric : Fabric} {service : ServiceName} {target : TargetRef}
    {token : FenceToken} : fabric.Verifies service target token ↔
      ∃ held, fabric.state.fences.find? service = some held ∧ held.holder = target ∧
        held.token = token ∧ ∀ witness ∈ fabric.state.witnessOf service target.target,
          witness.incarnation < target.incarnation := by
  unfold Verifies verifyFence
  cases hfence : fabric.state.fences.find? service with
  | none =>
    constructor
    · intro h
      cases hwitness : fabric.state.witnessOf service target.target <;> simp [hfence, hwitness] at h
    · rintro ⟨held, hheld, -⟩
      cases hheld
  | some held =>
    dsimp only
    rw [hfence]
    dsimp only
    by_cases htoken : held.token = token
    swap
    · constructor
      · intro h
        rcases lt_or_gt_of_ne htoken with hlt | hlt
        · rw [if_neg hlt.asymm, if_pos hlt] at h
          cases hwitness : fabric.state.witnessOf service target.target <;> simp [hwitness] at h
        · rw [if_pos hlt] at h
          cases hwitness : fabric.state.witnessOf service target.target <;> simp [hwitness] at h
      · rintro ⟨_, heq, -, hsame, -⟩
        exact absurd (Option.some.inj heq ▸ hsame) htoken
    subst htoken
    rw [if_neg (lt_irrefl _), if_neg (lt_irrefl _)]
    by_cases hholder : held.holder = target
    swap
    · rw [if_pos (Ne.symm hholder)]
      constructor
      · intro h
        cases hwitness : fabric.state.witnessOf service target.target <;> simp [hwitness] at h
      · rintro ⟨_, heq, hsame, -⟩
        exact absurd (Option.some.inj heq ▸ hsame) hholder
    subst hholder
    rw [if_neg (by simp)]
    cases hwitness : fabric.state.witnessOf service held.holder.target with
    | none => simp
    | some witness =>
      by_cases hbehind : held.holder.incarnation ≤ witness.incarnation
      · simp [hbehind]
      · simp [hbehind, not_le.mp hbehind]

end Fabric

/-- At every point of a run at which the coordinator is open, only the destination of the
last durable move is authorized, and only under its token; tokens from before a later move
are not authorized again. -/
theorem single_authority {config : FabricConfig} {moments : List Moment} {fabric : Fabric}
    (hrun : Fabric.Run config moments fabric) (hopened : fabric.opened = true) :
    ∃ history, Fabric.Recorded config moments history fabric ∧
      (∀ service target token, fabric.Verifies service target token →
        LastMove config history service target token) ∧
      (∀ service target token target' token', fabric.Verifies service target token →
        fabric.Verifies service target' token' → target = target' ∧ token = token') ∧
      ∀ earlier moment later, moments = earlier ++ moment :: later →
        (∀ next ∈ moment :: later, ¬next.before.Forgets config next.event) →
        moment.before.opened = true → ∃ past added, history = past ++ added ∧
          Fabric.Recorded config earlier past moment.before ∧
          ∀ service target token, moment.before.Verifies service target token →
            (∃ change ∈ added, change.Supersedes service) →
            ∀ target', ¬fabric.Verifies service target' token := by
  obtain ⟨history, memory, hrecorded, hchronicled, hstaged⟩ :=
    hrun.staged (preserved_true config fun _ _ => True).stable fun _ _ => trivial
  obtain ⟨-, hgrounded, -⟩ := hchronicled.running hopened
  have hfences (service : ServiceName) : fabric.state.fences.find? service =
      (replayed config history).fences.find? service := by
    have hsame : fabric.state.fences = (replayed config history).fences :=
      congrArg Core.fences hgrounded.explains.core
    rw [hsame]
  refine ⟨history, hrecorded, ?_, ?_, ?_⟩
  · intro service target token hverifies
    obtain ⟨held, hheld, rfl, rfl, -⟩ := Fabric.verifies_iff.mp hverifies
    exact lastMove_of_find? hgrounded.lawful (hfences service ▸ hheld)
  · intro service target token target' token' hverifies hverifies'
    obtain ⟨held, hheld, rfl, rfl, -⟩ := Fabric.verifies_iff.mp hverifies
    obtain ⟨held', hheld', rfl, rfl, -⟩ := Fabric.verifies_iff.mp hverifies'
    obtain rfl := Option.some.inj (hheld.symm.trans hheld')
    exact ⟨rfl, rfl⟩
  · intro earlier moment later hsplit hnone hbefore
    obtain ⟨past, memory', hpast⟩ := hstaged earlier moment later hsplit
    obtain ⟨first, -, rest, hhistory⟩ := hpast.kept hnone
    obtain ⟨-, hgrounded', -⟩ := hpast.chronicled.running hbefore
    subst hhistory
    refine ⟨past, first ++ rest, List.append_assoc _ _ _, hpast.recorded, ?_⟩
    intro service target token hverifies hlater target' hverifies'
    obtain ⟨change, hchange, hsupersedes⟩ := hlater
    obtain ⟨held, hheld, -, rfl, -⟩ := Fabric.verifies_iff.mp hverifies
    obtain ⟨held', hheld', -, htoken, -⟩ := Fabric.verifies_iff.mp hverifies'
    have hlawful := hgrounded.lawful
    rw [List.append_assoc] at hlawful
    have hlt := token_lt_of_supersedes hlawful hchange hsupersedes
    have hthen : (replayed config past).fenceTokenOf service = held.token := by
      rw [← fenceTokenOf_core hgrounded'.explains.core, State.fenceTokenOf, hheld]
    have hnow : (replayed config (past ++ (first ++ rest))).fenceTokenOf service = held'.token := by
      rw [← List.append_assoc, ← fenceTokenOf_core hgrounded.explains.core, State.fenceTokenOf,
        hheld']
    rw [hthen, hnow, htoken] at hlt
    exact lt_irrefl _ hlt

/-- The service was placed, and its first target may act for it, and nobody else. -/
theorem single_authority_placed :
    (Fleet.running Fleet.placed).Verifies Fleet.service (Fleet.booted Fleet.primary 1) ⟨1⟩ ∧
    (∀ target token, (Fleet.running Fleet.placed).Verifies Fleet.service target token →
      target = Fleet.booted Fleet.primary 1 ∧ token = ⟨1⟩) ∧
    ∃ history, Fabric.Recorded {} ((Fabric.create {} {}).momentsOf Fleet.placed) history
        (Fleet.running Fleet.placed) ∧
      LastMove {} history Fleet.service (Fleet.booted Fleet.primary 1) ⟨1⟩ := by
  have hopened : (Fleet.running Fleet.placed).opened = true := by
    simp only [Fleet.running, Fabric.after_eq_drafted]
    decide +kernel
  have hverifies : (Fleet.running Fleet.placed).Verifies Fleet.service
      (Fleet.booted Fleet.primary 1) ⟨1⟩ := by
    unfold Fabric.Verifies
    simp only [Fleet.running, Fabric.after_eq_drafted]
    decide +kernel
  obtain ⟨history, hrecorded, hlast, hunique, -⟩ :=
    single_authority (Fleet.run_running _) hopened
  refine ⟨hverifies, fun target token hother => ?_, history, hrecorded, hlast _ _ _ hverifies⟩
  exact hunique _ _ _ _ _ hother hverifies

end OffloadFabric
