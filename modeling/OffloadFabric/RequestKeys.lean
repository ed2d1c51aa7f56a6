import OffloadFabric.Cancellations
import OffloadFabric.Incarnations

/-!
The keys of requests. A request whose key is remembered is answered with the decision that is
kept under the key, for whatever service and verb it asks; any other request is decided for
itself. Within a process the registry turns a second commit under a key away; a new process
knows only the keys that its store kept.
-/
namespace OffloadFabric

open Fabric (Op Reply Event Moment)

/-! ### Decisions at first hand -/

/-- The decision was made for the request itself, and nothing but an acceptance carries an
intent. -/
structure RecoveryDecision.Firsthand (decision : RecoveryDecision) : Prop where
  fresh : decision.duplicate = false
  intent : decision.intent.isSome = true → decision.accepted = true

namespace Fabric

section Firsthand

variable {fabric : Fabric} {service : ServiceName} {key : RequestKey}

theorem firsthand_refusal (explanation : Explanation) (code : Reason) (subject : Bytes)
    (detail : String) (value : UInt64) :
    (fabric.refusal explanation code subject detail value).1.Firsthand := ⟨rfl, nofun⟩

theorem firsthand_refuse (explanation : Explanation) (service : ServiceName) (refused : Refusal) :
    (fabric.refuse explanation service refused).1.Firsthand := ⟨rfl, nofun⟩

theorem firsthand_concludeCommit (explanation : Explanation) (qualified : Qualified)
    (closing : Closing) : (fabric.concludeCommit explanation qualified closing).1.Firsthand := by
  unfold concludeCommit
  dsimp only
  split
  · split
    · exact ⟨rfl, nofun⟩
    · exact firsthand_refuse _ _ _
  · exact ⟨rfl, fun _ => rfl⟩

theorem firsthand_decided {decide : Explanation → RecoveryDecision × Fabric}
    (hnew : fabric.state.cached key = none) (h : ∀ explanation, (decide explanation).1.Firsthand) :
    (fabric.decided service key decide).1.Firsthand := by
  unfold decided
  split
  · exact firsthand_refusal _ _ _ _ _
  · simp only [hnew]
    exact h _

theorem firsthand_decideMove {check : ServiceRuntime → Check Qualified} {closing : Closing}
    (hnew : fabric.state.cached key = none) :
    (fabric.decideMove service key check closing).1.Firsthand := by
  refine firsthand_decided hnew fun explanation => ?_
  split
  · exact firsthand_refusal _ _ _ _ _
  split
  · exact firsthand_refuse _ _ _
  · exact firsthand_concludeCommit _ _ _

theorem firsthand_doRequestFailover {request : FailoverRequest}
    (hnew : fabric.state.cached request.key = none) (resume : Bool) :
    (fabric.doRequestFailover request resume).1.Firsthand := by
  unfold doRequestFailover
  split <;> exact firsthand_decideMove hnew

/-- The promotion of evidence leaves the key undecided. -/
theorem firsthand_confirmAmbiguity {resolution : AmbiguityResolution}
    (hnew : fabric.state.cached resolution.key = none) (explanation : Explanation)
    (evidence : FailureEvidence) (stamp : LogicalTick) :
    (fabric.confirmAmbiguity explanation resolution evidence stamp).1.Firsthand := by
  have hcache := requestCache_persist fabric [(Change.failureIngested (promoted evidence)).record]
  unfold confirmAmbiguity
  dsimp only
  split
  · rename_i durable hresult
    rw [hresult] at hcache
    refine firsthand_doRequestFailover ?_ false
    unfold State.cached at hnew ⊢
    rw [requestCache_promotedState, hcache]
    exact hnew
  · exact firsthand_refusal _ _ _ _ _

theorem firsthand_denyAmbiguity (explanation : Explanation) (resolution : AmbiguityResolution)
    (runtime : ServiceRuntime) (stamp : LogicalTick) :
    (fabric.denyAmbiguity explanation resolution runtime stamp).1.Firsthand := by
  unfold denyAmbiguity
  dsimp only
  split
  · exact firsthand_refusal _ _ _ _ _
  · exact firsthand_refusal _ _ _ _ _
  · exact ⟨rfl, fun hduplicate => by cases hduplicate⟩

theorem firsthand_doResolveAmbiguity {resolution : AmbiguityResolution}
    (hnew : fabric.state.cached resolution.key = none) :
    (fabric.doResolveAmbiguity resolution).1.Firsthand := by
  refine firsthand_decided hnew fun explanation => ?_
  split
  · exact firsthand_refusal _ _ _ _ _
  split
  · exact firsthand_refuse _ _ _
  split
  · exact firsthand_confirmAmbiguity hnew _ _ _
  · exact firsthand_denyAmbiguity _ _ _ _

theorem firsthand_keyed {decide : Fabric → RecoveryDecision × Fabric}
    (hnew : fabric.state.cached key = none)
    (h : ∀ actor : Fabric, actor.state.cached key = none → (decide actor).1.Firsthand) :
    (fabric.keyed service key decide).1.Firsthand := by
  have hdecides := fun cancels => h { fabric with cancels } hnew
  unfold keyed
  simp only [hnew]
  split
  · exact firsthand_refusal _ _ _ _ _
  · exact hdecides _

/-- A key that the registry lists is turned away. -/
theorem refused_of_held {decide : Fabric → RecoveryDecision × Fabric} (hkey : key.isNil = false)
    (hnew : fabric.state.cached key = none) (hheld : fabric.cancels.requests.contains key = true) :
    (fabric.keyed service key decide).1.accepted = false := by
  have hbegins : (fabric.cancels.begin key fabric.config.maxRequestCache).1 =
      .protocolViolation := by
    unfold CancelRegistry.begin
    rw [if_neg (by simp [hkey])]
    dsimp only
    rw [if_pos hheld]
  unfold keyed
  simp only [hnew]
  rw [if_pos (by rw [hbegins]; exact nofun)]
  rfl

end Firsthand

/-! ### Requests -/

/-- What a request asks for. -/
inductive Verb where
  | placement
  | failover
  | resumption
  | resolution
  | failback

/-- The verb, the service and the key of a request. -/
def Op.asks : Op → Option (Verb × ServiceName × RequestKey)
  | .establishPlacement request => some (.placement, request.service, request.key)
  | .requestFailover request => some (.failover, request.service, request.key)
  | .resumeRecovery request => some (.resumption, request.service, request.key)
  | .resolveAmbiguity resolution => some (.resolution, resolution.service, resolution.key)
  | .requestFailback request => some (.failback, request.service, request.key)
  | _ => none

section Requests

variable {fabric : Fabric} {op : Op} {verb : Verb} {service : ServiceName} {key : RequestKey}

/-- Every request goes by its key first, and is decided at first hand otherwise. -/
theorem Op.asks_keyed (fabric : Fabric) (hasks : op.asks = some (verb, service, key)) :
    ∃ decide : Fabric → RecoveryDecision × Fabric,
      fabric.call op = replyDecided (fabric.entered.keyed service key decide) ∧
      ∀ actor : Fabric, actor.state.cached key = none → (decide actor).1.Firsthand := by
  cases op with
  | establishPlacement request =>
    obtain ⟨-, rfl, rfl⟩ := by simpa [Op.asks] using hasks
    exact ⟨_, rfl, fun _ hnew => firsthand_decideMove hnew⟩
  | requestFailover request =>
    obtain ⟨-, rfl, rfl⟩ := by simpa [Op.asks] using hasks
    exact ⟨_, rfl, fun _ hnew => firsthand_doRequestFailover hnew _⟩
  | resumeRecovery request =>
    obtain ⟨-, rfl, rfl⟩ := by simpa [Op.asks] using hasks
    exact ⟨_, rfl, fun _ hnew => firsthand_doRequestFailover hnew _⟩
  | resolveAmbiguity resolution =>
    obtain ⟨-, rfl, rfl⟩ := by simpa [Op.asks] using hasks
    exact ⟨_, rfl, fun _ hnew => firsthand_doResolveAmbiguity hnew⟩
  | requestFailback request =>
    obtain ⟨-, rfl, rfl⟩ := by simpa [Op.asks] using hasks
    exact ⟨_, rfl, fun _ hnew => firsthand_decideMove hnew⟩
  | _ => cases hasks

theorem firsthand_call (hasks : op.asks = some (verb, service, key))
    (hnew : fabric.state.cached key = none) {decision : RecoveryDecision}
    (hreply : (fabric.call op).1 = .decided decision) : decision.Firsthand := by
  obtain ⟨decide, hcall, hdecide⟩ := Op.asks_keyed fabric hasks
  rw [hcall] at hreply
  obtain rfl := Reply.decided.inj hreply
  exact firsthand_keyed hnew hdecide

/-- A request whose key is remembered is answered with what is kept under the key. -/
theorem repeats_call (hasks : op.asks = some (verb, service, key)) {entry : RequestCacheEntry}
    (hcached : fabric.state.cached key = some entry) : ∃ decision,
    (fabric.call op).1 = .decided decision ∧ decision.duplicate = true ∧
      decision.accepted = entry.accepted ∧ decision.intent.isSome = entry.hasIntent := by
  obtain ⟨decide, hcall, -⟩ := Op.asks_keyed fabric hasks
  have hentered : fabric.entered.state.cached key = some entry := hcached
  refine ⟨(fabric.entered.replayCached entry service key).1, ?_, rfl, rfl, ?_⟩
  · rw [hcall]
    unfold keyed
    simp only [hentered]
    rfl
  · show (if entry.hasIntent = true then some _ else none).isSome = entry.hasIntent
    by_cases hintent : entry.hasIntent = true
    · rw [if_pos hintent, hintent]
      rfl
    · rw [if_neg hintent, eq_false_of_ne_true hintent]
      rfl

end Requests

/-! ### Commits under a key -/

/-- The requests whose acceptance commits a placement, a failover or a failback. -/
def Op.commits : Op → Bool
  | .resumeRecovery _ => false
  | op => op.moves

/-- The key under which an event commits. -/
def Event.commits (event : Event) : Option RequestKey :=
  if event.op.commits then event.marks else none

/-- The keys under which some moments have committed. -/
def committedBy (moments : List Moment) : List RequestKey := moments.filterMap (·.event.commits)

/-- A process that has died since has committed under the key. -/
def Lost (moments : List Moment) (key : RequestKey) : Prop :=
  ∃ earlier crash later op, moments = earlier ++ crash :: later ∧ crash.event = .crash op ∧
    key ∈ committedBy earlier

/-- The request passes the checks that are made of it before anything is committed. -/
def Admits (fabric : Fabric) (op : Op) : Prop :=
  (∃ service check runtime qualified, fabric.moving op = some (service, check) ∧
    fabric.state.services.find? service = some runtime ∧ check runtime = .ok qualified) ∨
  ∃ resolution runtime found, op = .resolveAmbiguity resolution ∧
    fabric.state.services.find? resolution.service = some runtime ∧
    fabric.checkResolution resolution runtime = .ok found

/-- A request that may go ahead comes under a key that a dead process has committed under, and
neither the cache nor the registry knows the key. -/
def Lapses (before : List Moment) (moment : Moment) : Prop :=
  ∃ op reply key, moment.event = .call op reply ∧ op.commits = true ∧
    moment.event.key? = some key ∧ Lost before key ∧ moment.before.state.cached key = none ∧
    moment.before.cancels.requests.contains key = false ∧ moment.before.Admits op

section Commits

variable {config : FabricConfig} {moments : List Moment} {fabric : Fabric} {op : Op}
  {decision : RecoveryDecision} {key : RequestKey}

theorem Accepts.admits (h : fabric.Accepts op decision) (hmoves : op.moves = true) :
    fabric.Admits op := by
  have hmoving {service : ServiceName} {check : ServiceRuntime → Check Qualified}
      (hop : fabric.moving op = some (service, check)) : fabric.Admits op := by
    obtain ⟨-, runtime, qualified, -, hfind, hcheck, -⟩ := h.moved hop
    exact Or.inl ⟨service, check, runtime, qualified, hop, hfind, hcheck⟩
  cases op with
  | establishPlacement | requestFailover | resumeRecovery | requestFailback => exact hmoving rfl
  | resolveAmbiguity resolution =>
    obtain ⟨-, runtime, evidence, stamp, hfind, hcheck⟩ := h.resolved
    exact Or.inr ⟨resolution, runtime, _, rfl, hfind, hcheck⟩
  | _ => cases hmoves

theorem Op.moves_of_commits (h : op.commits = true) : op.moves = true := by
  cases op with
  | resumeRecovery request => cases h
  | _ => exact h

theorem Event.marks_of_commits {event : Event} (h : event.commits = some key) :
    event.op.commits = true ∧ event.marks = some key := by
  unfold Event.commits at h
  split at h
  · exact ⟨‹_›, h⟩
  · cases h

theorem committedBy_subset (moments : List Moment) : committedBy moments ⊆ markedBy moments := by
  intro key hkey
  obtain ⟨moment, hmoment, hcommits⟩ := List.mem_filterMap.mp hkey
  exact List.mem_filterMap.mpr ⟨moment, hmoment, (Event.marks_of_commits hcommits).2⟩

theorem committedBy_snoc (moments : List Moment) (moment : Moment) :
    committedBy (moments ++ [moment]) = committedBy moments ++ moment.event.commits.toList := by
  rw [committedBy, List.filterMap_append]
  cases hcommits : moment.event.commits <;> simp [hcommits, committedBy]

theorem committedBy_twice {moments' : List Moment} (between : List Moment)
    (h : 0 < (committedBy moments).count key) (h' : 0 < (committedBy moments').count key) :
    1 < (committedBy (moments ++ between ++ moments')).count key := by
  unfold committedBy at h h' ⊢
  rw [List.filterMap_append, List.filterMap_append, List.count_append, List.count_append]
  omega

theorem Moment.Accepts.commits {moment : Moment} (h : moment.Accepts op decision)
    (hop : op.commits = true) (hkey : op.request? = some key) :
    moment.event.commits = some key := by
  have hmarks := h.marks (Op.moves_of_commits hop) hkey
  have hevent : moment.event.op = op := by
    rw [h.1]
    rfl
  unfold Event.commits
  rw [hevent, if_pos hop, hmarks]

/-- What commits under a key is accepted under it, although neither the cache nor the registry
holds the key. -/
theorem Moment.commits_cases {moment : Moment} (hrun : Run config moments fabric)
    (hmoment : moment ∈ moments) (h : moment.event.commits = some key) :
    ∃ op reply, moment.event = .call op reply ∧ op.commits = true ∧
      moment.event.key? = some key ∧ moment.before.state.cached key = none ∧
      moment.before.cancels.requests.contains key = false ∧ moment.before.Admits op := by
  obtain ⟨hcommits, hmarks⟩ := Event.marks_of_commits h
  obtain ⟨op, decision, haccepts, hrequest⟩ := Event.accepts_of_marks hmarks
  have hevent := haccepts.1
  rw [hevent] at hcommits
  have haccepts' := (hrun.accepts hmoment haccepts).2
  have hmoves := Op.moves_of_commits hcommits
  have hkey := Op.key?_of_moves hmoves hrequest
  obtain ⟨hsome, hnil⟩ := Option.filter_eq_some_iff.mp hkey
  have hnil : key.isNil = false := by simpa using hnil
  obtain ⟨verb, service, hasks⟩ : ∃ verb service, op.asks = some (verb, service, key) := by
    cases op with
    | establishPlacement | requestFailover | resumeRecovery | requestFailback
    | resolveAmbiguity =>
      obtain rfl := Option.some.inj hsome
      exact ⟨_, _, rfl⟩
    | _ => cases hsome
  have hnew : moment.before.state.cached key = none := by
    cases hcached : moment.before.state.cached key with
    | none => rfl
    | some entry =>
      obtain ⟨decided, hdecided, hduplicate, -⟩ := repeats_call hasks hcached
      obtain rfl := Reply.decided.inj (haccepts'.reply.symm.trans hdecided)
      rw [haccepts'.fresh] at hduplicate
      cases hduplicate
  refine ⟨op, _, hevent, hcommits, ?_, hnew, ?_, haccepts'.admits hmoves⟩
  · rw [hevent]
    exact hkey
  · by_contra hheld
    obtain ⟨decide, hcall, -⟩ := Op.asks_keyed moment.before hasks
    have hrefused := @refused_of_held moment.before.entered service key decide hnil hnew
      (eq_true_of_ne_false hheld)
    have hreply := haccepts'.reply
    rw [hcall] at hreply
    rw [Reply.decided.inj hreply, haccepts'.accepted] at hrefused
    cases hrefused

/-- While a run meets fewer keys than the ceiling, no process marks a key twice, and its registry
ends with what it has marked. -/
theorem Run.marked (h : Run config moments fabric)
    (hroom : (keysOf moments).dedup.length < config.maxRequestCache) :
    ∃ earlier later, moments = earlier ++ later ∧
      (earlier = [] ∨ ∃ front crash op, earlier = front ++ [crash] ∧ crash.event = .crash op) ∧
      (markedBy later).Nodup ∧ markedBy later <:+ fabric.cancels.order := by
  induction h with
  | start => exact ⟨[], [], rfl, Or.inl rfl, List.nodup_nil, List.nil_suffix⟩
  | @step moments fabric fabric' event hrun hstep ih =>
    have hfew := Nat.lt_of_le_of_lt (dedup_keysOf_le (List.subset_append_left moments _)) hroom
    cases hstep with
    | call op =>
      obtain ⟨earlier, later, rfl, hearlier, hnodup, hsuffix⟩ := ih hfew
      have hlater : (keysOf later).dedup.length < fabric.config.maxRequestCache := by
        rw [hrun.configured]
        exact Nat.lt_of_le_of_lt (dedup_keysOf_le (List.subset_append_right earlier later)) hfew
      obtain ⟨-, hnodup', hsuffix'⟩ := markedBy_call hrun.settled.1 hnodup hsuffix hlater op
      exact ⟨earlier, later ++ [_], List.append_assoc _ _ _, hearlier, hnodup', hsuffix'⟩
    | crash op disk _ =>
      exact ⟨moments ++ [{ before := fabric, event := .crash op }], [], by simp,
        Or.inr ⟨moments, _, op, rfl, rfl⟩, List.nodup_nil, List.nil_suffix⟩

/-- A run that meets fewer keys than the cache holds commits at most once under each key, as long
as no key of a dead process is forgotten. -/
theorem committed_once (hrun : Run config moments fabric)
    (hroom : (keysOf moments).dedup.length < config.maxRequestCache)
    (hknown : ∀ before moment after, moments = before ++ moment :: after →
      ¬Lapses before moment) (key : RequestKey) : (committedBy moments).count key ≤ 1 := by
  refine List.nodup_iff_count_le_one.mp ?_ key
  induction hrun with
  | start => exact List.nodup_nil
  | @step moments fabric fabric' event hrun hstep ih =>
    have hfew := Nat.lt_of_le_of_lt (dedup_keysOf_le (List.subset_append_left moments _)) hroom
    have hbefore := ih hfew fun before moment after hsplit =>
      hknown before moment (after ++ [{ before := fabric, event }]) (by rw [hsplit]; simp)
    have hwhole := hrun.step hstep
    rw [committedBy_snoc]
    refine List.nodup_append.mpr ⟨hbefore, ?_, fun key hkey key' hkey' => ?_⟩
    · cases event.commits <;> simp
    rintro rfl
    have hcommits : event.commits = some key := Option.mem_toList.mp hkey'
    obtain ⟨op, reply, hevent, hop, hkeyed, hnew, hunheld, hadmits⟩ :=
      Moment.commits_cases hwhole (List.mem_append_right _ List.mem_cons_self) hcommits
    obtain ⟨earlier, later, hsplit, hearlier, hnodup, -⟩ := hwhole.marked hroom
    rcases List.eq_nil_or_concat later with rfl | ⟨later, last, rfl⟩
    · rw [List.append_nil] at hsplit
      rcases hearlier with rfl | ⟨front, crash, op', rfl, hcrash⟩
      · simp at hsplit
      · obtain ⟨-, hlast⟩ := List.append_inj' hsplit rfl
        rw [← List.singleton_inj.mp hlast, hevent] at hcrash
        cases hcrash
    rw [List.concat_eq_append, ← List.append_assoc] at hsplit
    obtain ⟨rfl, hlast⟩ := List.append_inj' hsplit rfl
    obtain rfl := List.singleton_inj.mp hlast
    rw [committedBy, List.filterMap_append] at hkey
    rcases List.mem_append.mp hkey with hkey | hkey
    · rcases hearlier with rfl | ⟨front, crash, op', rfl, hcrash⟩
      · cases hkey
      have hquiet : crash.event.commits = none := by
        simp [hcrash, Event.commits, Event.marks]
      have hfront : key ∈ committedBy front := by
        have hsnoc := committedBy_snoc front crash
        rw [hquiet, Option.toList_none, List.append_nil] at hsnoc
        exact hsnoc ▸ hkey
      exact hknown _ _ [] rfl ⟨op, reply, key, hevent, hop, hkeyed,
        ⟨front, crash, later, op', by simp, hcrash, hfront⟩, hnew, hunheld, hadmits⟩
    · rw [List.concat_eq_append, markedBy, List.filterMap_append] at hnodup
      have hmarks := (Event.marks_of_commits hcommits).2
      refine (List.nodup_append.mp hnodup).2.2 key (committedBy_subset later hkey) key ?_ rfl
      exact List.mem_filterMap.mpr ⟨_, List.mem_cons_self, hmarks⟩

end Commits

/-! ### Reuse of a key -/

/-- A decision that accepts a request of that verb, about that service and under that key. -/
def Moment.Mints (moment : Moment) (verb : Verb) (service : ServiceName) (key : RequestKey) :
    Prop :=
  ∃ op decision, moment.Accepts op decision ∧ op.asks = some (verb, service, key)

/-- No answer accepts a request, or carries an intent, unless a decision of its verb was minted
for its service under its key. -/
def KeysApart (moments : List Moment) : Prop :=
  ∀ before moment after op decision verb service key, moments = before ++ moment :: after →
    moment.event = .call op (.decided decision) → op.asks = some (verb, service, key) →
    decision.accepted = true ∨ decision.intent.isSome = true →
    ∃ minting ∈ before ++ [moment], minting.Mints verb service key

/-- The request finds an acceptance or an intent remembered under its key, and none was minted
under that key for its service and its verb. -/
def Reuses (before : List Moment) (moment : Moment) : Prop :=
  ∃ op reply verb service key entry, moment.event = .call op reply ∧
    op.asks = some (verb, service, key) ∧ moment.before.state.cached key = some entry ∧
    (entry.accepted = true ∨ entry.hasIntent = true) ∧
    ∀ minting ∈ before, ¬minting.Mints verb service key

section Reuse

variable {config : FabricConfig} {moments : List Moment} {fabric : Fabric}

theorem Run.reply {moment : Moment} {op : Op} {reply : Reply} (h : Run config moments fabric)
    (hmoment : moment ∈ moments) (hevent : moment.event = .call op reply) :
    reply = (moment.before.call op).1 := by
  obtain ⟨fabric', -, hstep⟩ := h.split hmoment
  rw [hevent] at hstep
  cases hstep with
  | call => rfl

/-- No decision leaks to another request by its key exactly if no request reuses a key. -/
theorem keys_apart_iff (hrun : Run config moments fabric) :
    KeysApart moments ↔
      ∀ before moment after, moments = before ++ moment :: after → ¬Reuses before moment := by
  constructor
  · rintro hapart before moment after hsplit
      ⟨op, reply, verb, service, key, entry, hevent, hasks, hcached, hentry, hnone⟩
    obtain ⟨decision, hdecided, hduplicate, haccepted, hintent⟩ := repeats_call hasks hcached
    have hreply := hrun.reply (hsplit ▸ List.mem_append_right _ List.mem_cons_self) hevent
    rw [hreply, hdecided] at hevent
    rw [← haccepted, ← hintent] at hentry
    obtain ⟨minting, hminting, hmints⟩ := hapart _ _ _ _ _ _ _ _ hsplit hevent hasks hentry
    rcases List.mem_append.mp hminting with hminting | hminting
    · exact hnone minting hminting hmints
    · obtain rfl := List.mem_singleton.mp hminting
      obtain ⟨op', decision', ⟨hevent', -, hfresh⟩, -⟩ := hmints
      obtain ⟨-, hsame⟩ := Event.call.inj (hevent.symm.trans hevent')
      rw [← Reply.decided.inj hsame, hduplicate] at hfresh
      cases hfresh
  · intro hnone before moment after op decision verb service key hsplit hevent hasks hanswer
    have hreply := hrun.reply (hsplit ▸ List.mem_append_right _ List.mem_cons_self) hevent
    cases hcached : moment.before.state.cached key with
    | none =>
      have hfirsthand := firsthand_call hasks hcached hreply.symm
      have haccepted : decision.accepted = true := hanswer.elim id hfirsthand.intent
      exact ⟨moment, by simp, op, decision, ⟨hevent, haccepted, hfirsthand.fresh⟩, hasks⟩
    | some entry =>
      obtain ⟨decided, hdecided, -, haccepted, hintent⟩ := repeats_call hasks hcached
      obtain rfl := Reply.decided.inj (hreply.trans hdecided)
      rw [haccepted, hintent] at hanswer
      by_contra hunminted
      refine hnone before moment after hsplit
        ⟨op, _, verb, service, key, entry, hevent, hasks, hcached, hanswer, ?_⟩
      exact fun minting hminting hmints =>
        hunminted ⟨minting, List.mem_append_left _ hminting, hmints⟩

end Reuse

end Fabric

/-! ### Keys of the small fleet -/

namespace Fleet

/-- The service and two targets, before anything is placed. -/
def ready : List Op := opening ++ adopt primary 1 ++ adopt secondary 1

/-- The placement of a service that nobody registered, under the key of another one. -/
theorem valid_misplaced :
    ([116] : Bytes).length ≤ kMaxNameLength ∧ ([116] : Bytes).all isValidNameChar = true := by
  decide

def misplace : Op :=
  .establishPlacement
    { key := ⟨1⟩, service := ⟨[116], valid_misplaced⟩, target := primary, requester := operator }

theorem asks_ready {op : Op} (hop : op ∈ ready) : op.asks = none := by
  revert op
  simp [ready, opening, adopt, register, support, Fabric.Op.asks]

/-- The calls that place the service twice, seen from a request among them. -/
theorem split_redelivered {front back : List Op} {op : Op}
    (h : ready ++ [place 1 primary, place 1 primary] = front ++ op :: back)
    (hasks : op.asks.isSome = true) :
    op = place 1 primary ∧ (front = ready ∨ front = placed) := by
  constructor
  · have hop : op ∈ ready ++ [place 1 primary, place 1 primary] :=
      h ▸ List.mem_append_right _ List.mem_cons_self
    rcases List.mem_append.mp hop with hop | hop
    · rw [asks_ready hop] at hasks
      cases hasks
    · simpa using hop
  rcases List.eq_nil_or_concat back with rfl | ⟨rest, last, rfl⟩
  · rw [List.append_cons] at h
    exact Or.inr (List.append_inj' h rfl).1.symm
  rw [List.concat_eq_append, ← List.cons_append, ← List.append_assoc, List.append_cons] at h
  have hplaced := (List.append_inj' h rfl).1
  rcases List.eq_nil_or_concat rest with rfl | ⟨rest, last', rfl⟩
  · exact Or.inl (List.append_inj' hplaced rfl).1.symm
  · rw [List.concat_eq_append, ← List.cons_append, ← List.append_assoc] at hplaced
    have hready := (List.append_inj' hplaced rfl).1
    rw [asks_ready (hready ▸ List.mem_append_right _ List.mem_cons_self)] at hasks
    cases hasks

end Fleet

/-- A placement that is delivered twice is answered twice with its own decision. -/
theorem keys_apart_redelivered : Fabric.KeysApart ((Fabric.create {} {}).momentsOf
    (Fleet.ready ++ [Fleet.place 1 Fleet.primary, Fleet.place 1 Fleet.primary])) := by
  have hfacts : ((Fleet.running Fleet.ready).accepted (Fleet.place 1 Fleet.primary),
      ((Fleet.running Fleet.ready).state.cached ⟨1⟩).isSome) = (true, false) := by
    simp only [Fleet.running, Fabric.after_eq_drafted, Fabric.accepted, Fabric.call_eq_drafted]
    decide +kernel
  obtain ⟨haccepted, hnew⟩ := Prod.mk.inj hfacts
  refine (Fabric.keys_apart_iff (Fleet.run_running _)).mpr ?_
  rintro before moment after hsplit
    ⟨op, reply, verb, service, key, entry, hevent, hasks, hcached, -, hnone⟩
  obtain ⟨front, op', back, hops, rfl, hbefore, hop⟩ := Fabric.split_momentsOf hsplit
  have hsame : op' = op := by
    rw [← hop, hevent]
    rfl
  subst hsame
  obtain ⟨rfl, hfront⟩ := Fleet.split_redelivered hops (by rw [hasks]; rfl)
  obtain ⟨rfl, rfl, rfl⟩ := by simpa [Fleet.place, Fabric.Op.asks] using hasks
  rcases hfront with rfl | rfl
  · rw [hbefore] at hcached
    exact absurd (congrArg Option.isSome hcached) (by rw [Fleet.running] at hnew; simp [hnew])
  · obtain ⟨moment', hmoment', -, decision, haccepts⟩ := Fabric.exists_last_accepts haccepted
    exact hnone moment' hmoment' ⟨_, decision, haccepts, rfl⟩

/-- A service that nobody registered is answered as placed, by the key of another placement. -/
theorem not_keys_apart : ∃ moments fabric, Fabric.Run {} moments fabric ∧
    ¬Fabric.KeysApart moments := by
  have hcached : ((Fleet.running Fleet.placed).state.cached ⟨1⟩).map
      RequestCacheEntry.accepted = some true := by
    simp only [Fleet.running, Fabric.after_eq_drafted]
    decide +kernel
  obtain ⟨entry, hentry, haccepted⟩ := Option.map_eq_some_iff.mp hcached
  obtain ⟨decision, hreply, hduplicate, haccepted', -⟩ :=
    @Fabric.repeats_call _ Fleet.misplace _ _ _ rfl _ hentry
  refine ⟨_, _, (Fleet.run_running Fleet.placed).step (.call _ Fleet.misplace), fun hapart => ?_⟩
  obtain ⟨minting, hminting, op, decided, ⟨hevent, -, hfresh⟩, hasks⟩ := hapart _ _ [] _ _ _ _ _
    rfl (congrArg (Event.call Fleet.misplace) hreply) rfl (Or.inl (haccepted'.trans haccepted))
  rcases List.mem_append.mp hminting with hminting | hminting
  · have hop := Fabric.forall_momentsOf (P := fun _ op => op.asks ≠ Fleet.misplace.asks)
      (fun op hop fabric => by
        revert op
        simp [Fleet.placed, Fleet.opening, Fleet.adopt, Fleet.register, Fleet.support, Fleet.place,
          Fleet.misplace, Fabric.Op.asks]
        decide) minting hminting
    rw [hevent] at hop
    exact hop hasks
  · obtain rfl := List.mem_singleton.mp hminting
    obtain ⟨-, hsame⟩ := Event.call.inj hevent
    rw [← Reply.decided.inj (hreply.symm.trans hsame), hduplicate] at hfresh
    cases hfresh

theorem called_of_mem_momentsOf {ops : List Op} {fabric : Fabric} {moment : Moment}
    (h : moment ∈ fabric.momentsOf ops) : ∃ op reply, moment.event = .call op reply := by
  induction ops generalizing fabric with
  | nil => cases h
  | cons op ops ih =>
    rcases List.mem_cons.mp h with rfl | h
    · exact ⟨op, _, rfl⟩
    · exact ih h

/-- Nothing is lost among the calls of one process. -/
theorem not_lost_momentsOf {ops : List Op} {before : List Moment} {fabric : Fabric}
    {key : RequestKey} (h : before ⊆ fabric.momentsOf ops) : ¬Fabric.Lost before key := by
  rintro ⟨earlier, crash, later, op, rfl, hcrash, -⟩
  obtain ⟨op', reply, hcalled⟩ :=
    called_of_mem_momentsOf (h (List.mem_append_right _ List.mem_cons_self))
  rw [hcrash] at hcalled
  cases hcalled

theorem split_pair {α : Type} {first second item : α} {front back : List α}
    (h : [first, second] = front ++ item :: back) :
    front = [] ∧ item = first ∨ front = [first] ∧ item = second := by
  match front, h with
  | [], h => exact Or.inl ⟨rfl, (List.cons.inj h).1.symm⟩
  | [_], h =>
    obtain ⟨rfl, hrest⟩ := List.cons.inj h
    exact Or.inr ⟨rfl, (List.cons.inj hrest).1.symm⟩
  | _ :: _ :: front, h =>
    have hlength := congrArg List.length h
    simp at hlength

/-- What follows a crash that lost a key is a call of the process that came after it. -/
theorem split_reborn {fabric process : Fabric} {ops ops' : List Op} {before after : List Moment}
    {crash moment : Moment} {op : Op} {dying : Op} {reply : Reply} {key : RequestKey}
    (h : fabric.momentsOf ops ++ crash :: process.momentsOf ops' = before ++ moment :: after)
    (hcrash : crash.event = .crash dying) (hevent : moment.event = .call op reply)
    (hlost : Fabric.Lost before key) :
    ∃ front back, ops' = front ++ op :: back ∧ moment.before = process.after front := by
  rcases List.append_eq_append_iff.mp h with ⟨past, rfl, hrest⟩ | ⟨past, hpast, -⟩
  · cases past with
    | nil =>
      obtain ⟨rfl, -⟩ := List.cons.inj hrest
      rw [hevent] at hcrash
      cases hcrash
    | cons _ past =>
      obtain ⟨-, hcalls⟩ := List.cons.inj hrest
      obtain ⟨front, op', back, hops, -, hbefore, hop⟩ := Fabric.split_momentsOf hcalls
      rw [hevent] at hop
      obtain rfl : op = op' := hop
      exact ⟨front, back, hops, hbefore⟩
  · exact absurd hlost (not_lost_momentsOf (hpast ▸ List.subset_append_left before past))

/-- An accepted request is counted under its key. -/
theorem committed_of_accepted {start : Fabric} {ops : List Op} {op : Op} {key : RequestKey}
    (h : (start.after ops).accepted op = true) (hop : op.commits = true)
    (hkey : op.request? = some key) :
    0 < (Fabric.committedBy (start.momentsOf (ops ++ [op]))).count key := by
  obtain ⟨moment, hmoment, -, decision, haccepts⟩ := Fabric.exists_last_accepts h
  exact List.count_pos_iff.mpr
    (List.mem_filterMap.mpr ⟨moment, hmoment, haccepts.commits hop hkey⟩)

/-- A placement that is delivered again after a crash is turned down: its service is placed. -/
theorem committed_once_redelivered :
    (Fabric.committedBy ((Fabric.create { storeDirectory := true } {}).momentsOf Fleet.placed ++
      { before := Fleet.keeping Fleet.placed, event := .crash .waitForIntent } ::
        (Fabric.create (Fleet.keeping Fleet.placed).config
          (Fleet.keeping Fleet.placed).disk).momentsOf
            [.openFabric, Fleet.place 1 Fleet.primary])).count ⟨1⟩ ≤ 1 := by
  have hfacts : ((Fleet.keeping Fleet.placed).rebooting.map fun fabric =>
      (fabric.state.services.find? Fleet.service).map fun runtime =>
        (fabric.checkPlacement { key := ⟨1⟩, service := Fleet.service, target := Fleet.primary
                                 requester := Fleet.operator } runtime).toBool) =
      some (some false) := by
    simp only [Fleet.keeping, Fabric.after_eq_drafted]
    decide +kernel
  obtain ⟨reborn, hreborn, hrefuses⟩ := Option.map_eq_some_iff.mp hfacts
  have hrun := Fleet.run_keeping Fleet.placed
  have hopens := hrun.after_rebooting hreborn []
  have hwhole := hrun.dies.calls [.openFabric, Fleet.place 1 Fleet.primary]
  rw [List.append_assoc, List.singleton_append] at hwhole
  refine Fabric.committed_once hwhole ?_ ?_ ⟨1⟩
  · rw [Fabric.keysOf, List.filterMap_append, List.filterMap_cons]
    have hfirst :=
      Fabric.keysOf_momentsOf (Fabric.create { storeDirectory := true } {}) Fleet.placed
    have hsecond := Fabric.keysOf_momentsOf (Fabric.create (Fleet.keeping Fleet.placed).config
      (Fleet.keeping Fleet.placed).disk) [.openFabric, Fleet.place 1 Fleet.primary]
    unfold Fabric.keysOf at hfirst hsecond
    rw [hfirst, hsecond]
    decide +kernel
  rintro before moment after hsplit
    ⟨op, reply, key, hevent, hcommits, -, hlost, -, -, hadmits⟩
  obtain ⟨front, back, hops, hbefore⟩ := split_reborn hsplit rfl hevent hlost
  rcases split_pair hops with ⟨-, rfl⟩ | ⟨rfl, rfl⟩
  · cases hcommits
  rw [hbefore, hopens] at hadmits
  rcases hadmits with ⟨service, check, runtime, qualified, hmoving, hfind, hcheck⟩ |
    ⟨resolution, _, _, hop, -⟩
  · obtain ⟨rfl, rfl⟩ := Prod.mk.inj (Option.some.inj hmoving)
    obtain ⟨found, hfound, hrefused⟩ := Option.map_eq_some_iff.mp hrefuses
    obtain rfl := Option.some.inj (hfound.symm.trans hfind)
    rw [show reborn.checkPlacement _ found = .ok qualified from hcheck] at hrefused
    cases hrefused
  · cases hop

/-- A failover that is delivered again after a crash is committed again. -/
theorem not_committed_once : ∃ moments fabric key,
    Fabric.Run { storeDirectory := true } moments fabric ∧
      (Fabric.keysOf moments).dedup.length <
        { storeDirectory := true : FabricConfig }.maxRequestCache ∧
      1 < (Fabric.committedBy moments).count key := by
  have hfacts : ((Fleet.keeping Fleet.placed).accepted (Fleet.moveOn 2),
      (Fleet.keeping (Fleet.placed ++ [Fleet.moveOn 2])).rebooting.map fun fabric =>
        (fabric.after (Fleet.adopt Fleet.tertiary 1)).accepted (Fleet.moveOn 2)) =
      (true, some true) := by
    simp only [Fleet.keeping, Fabric.after_eq_drafted, Fabric.accepted, Fabric.call_eq_drafted]
    decide +kernel
  obtain ⟨hbefore, hafter⟩ := Prod.mk.inj hfacts
  obtain ⟨reborn, hreborn, hagain⟩ := Option.map_eq_some_iff.mp hafter
  have hrun := Fleet.run_keeping (Fleet.placed ++ [Fleet.moveOn 2])
  rw [← hrun.after_rebooting hreborn] at hagain
  have hfirst := @committed_of_accepted _ Fleet.placed _ ⟨2⟩ hbefore rfl rfl
  have hsecond := @committed_of_accepted _ (.openFabric :: Fleet.adopt Fleet.tertiary 1) _ ⟨2⟩
    hagain rfl rfl
  have hwhole := hrun.dies.calls (.openFabric :: Fleet.adopt Fleet.tertiary 1 ++
    [Fleet.moveOn 2])
  refine ⟨_, _, ⟨2⟩, hwhole, ?_, Fabric.committedBy_twice [_] hfirst hsecond⟩
  rw [Fabric.keysOf, List.filterMap_append, List.filterMap_append]
  have hkeys := Fabric.keysOf_momentsOf (Fabric.create { storeDirectory := true } {})
    (Fleet.placed ++ [Fleet.moveOn 2])
  have hkeys' := Fabric.keysOf_momentsOf (Fabric.create
    (Fleet.keeping (Fleet.placed ++ [Fleet.moveOn 2])).config
    (Fleet.keeping (Fleet.placed ++ [Fleet.moveOn 2])).disk)
    (.openFabric :: Fleet.adopt Fleet.tertiary 1 ++ [Fleet.moveOn 2])
  unfold Fabric.keysOf at hkeys hkeys'
  rw [hkeys, hkeys']
  decide +kernel

end OffloadFabric
