import OffloadFabric.Ceilings
import Mathlib.Data.Prod.Lex

/-!
The choice of a fallback. The targets in the running stand in one strict order, whatever the
order of their registration: other hosts before the host that failed, then the higher device
rank, then the name. The first of them that may take over is chosen, within the ceilings; if
there is none, the most telling rejection is reported.
-/
namespace OffloadFabric

/-! ### The order of preference -/

section Preference

variable {state : State} {runtime : ServiceRuntime} {failed : TargetRef}
  {left right record : TargetRecord} {records : List TargetRecord}

/-- The target stands on the host of the failed one. -/
def State.Beside (state : State) (failed : TargetRef) (record : TargetRecord) : Prop :=
  ∃ lost, state.targets.find? failed.target = some lost ∧ record.host = lost.host

/-- Not on the failed target's host first, then the higher device rank, then the name. -/
def State.Prefers (state : State) (failed : TargetRef) (left right : TargetRecord) : Prop :=
  (¬state.Beside failed left ∧ state.Beside failed right) ∨
    ((state.Beside failed left ↔ state.Beside failed right) ∧
      (deviceRank right.kind < deviceRank left.kind ∨
        deviceRank left.kind = deviceRank right.kind ∧ left.name < right.name))

/-- The registered targets other than the failed and the active one, most preferred first. -/
structure State.Contenders (state : State) (runtime : ServiceRuntime) (failed : TargetRef)
    (records : List TargetRecord) : Prop where
  members : ∀ record, record ∈ records ↔
    state.targets.find? record.name = some record ∧ record.name ≠ failed.target ∧
      ∀ active ∈ runtime.active, record.name ≠ active.target
  ordered : records.Pairwise (state.Prefers failed)

/-- What candidates are compared by. -/
def Candidate.key (candidate : Candidate) : Bool ×ₗ ℕᵒᵈ ×ₗ TargetName :=
  toLex (candidate.sameHost, toLex (OrderDual.toDual candidate.rank, candidate.record.name))

theorem Candidate.before_iff (left right : Candidate) :
    left.before right = true ↔ left.key < right.key := by
  unfold Candidate.before Candidate.key
  rw [Prod.Lex.toLex_lt_toLex, Prod.Lex.toLex_lt_toLex]
  by_cases hhost : left.sameHost = right.sameHost
  · by_cases hrank : left.rank = right.rank
    · simp [hhost, hrank]
    · simp [hhost, hrank]
  · rw [if_pos hhost]
    cases hleft : left.sameHost <;> cases hright : right.sameHost <;> simp_all

/-- The candidate that a selection makes of a target. -/
def State.candidate (state : State) (failed : TargetRef) (record : TargetRecord) : Candidate where
  record := record
  sameHost := ((if failed.valid then state.targets.find? failed.target else none).any fun lost =>
    record.host = lost.host)
  rank := deviceRank record.kind

theorem State.WellKeyed.sameHost_candidate (hkeyed : state.WellKeyed) :
    (state.candidate failed record).sameHost = true ↔ state.Beside failed record := by
  unfold State.candidate State.Beside TargetRef.valid
  by_cases hvalid : failed.target.isEmpty = true
  · have hnone : ∀ lost, state.targets.find? failed.target ≠ some lost := by
      intro lost hfind
      have hnamed := (hkeyed.targets _ ((state.targets.find?_eq_some_iff _ _).mp hfind)).2
      rw [hvalid] at hnamed
      cases hnamed
    simp [hvalid, hnone]
  · simp [hvalid, Option.any_eq_true]

theorem State.WellKeyed.prefers_iff (hkeyed : state.WellKeyed) :
    state.Prefers failed left right ↔
      (state.candidate failed left).key < (state.candidate failed right).key := by
  unfold State.Prefers Candidate.key
  rw [← hkeyed.sameHost_candidate, ← hkeyed.sameHost_candidate, Prod.Lex.toLex_lt_toLex,
    Prod.Lex.toLex_lt_toLex]
  have hrank (record : TargetRecord) :
      (state.candidate failed record).rank = deviceRank record.kind := rfl
  have hname (record : TargetRecord) : (state.candidate failed record).record = record := rfl
  simp only [hrank, hname, OrderDual.toDual_lt_toDual, EmbeddingLike.apply_eq_iff_eq]
  cases (state.candidate failed left).sameHost <;>
    cases (state.candidate failed right).sameHost <;> simp

theorem candidates_eq (state : State) (runtime : ServiceRuntime) (failed : TargetRef) :
    candidates state runtime failed =
      ((state.targets.entries.filter fun entry =>
        !(failed.valid && entry.1 = failed.target) &&
          !(runtime.active.any fun active => entry.1 = active.target)).map fun entry =>
        state.candidate failed entry.2).insertionSort fun left right => !right.before left := rfl

theorem candidate_of_mem {candidate : Candidate} (h : candidate ∈ candidates state runtime failed) :
    candidate = state.candidate failed candidate.record := by
  rw [candidates_eq, List.mem_insertionSort] at h
  obtain ⟨entry, -, rfl⟩ := List.mem_map.mp h
  rfl

/-- The candidates stand in their order. -/
theorem candidates_ordered :
    (candidates state runtime failed).Pairwise fun left right => ¬right.key < left.key := by
  rw [candidates_eq]
  have hrel : (fun left right : Candidate => (!right.before left) = true) =
      fun left right => left.key ≤ right.key := by
    funext left right
    rw [Bool.not_eq_true', Bool.eq_false_iff, ne_eq, Candidate.before_iff, not_lt]
  have : Std.Total fun left right : Candidate => (!right.before left) = true := by
    rw [hrel]
    exact ⟨fun left right => le_total left.key right.key⟩
  have : IsTrans Candidate fun left right => (!right.before left) = true := by
    rw [hrel]
    exact ⟨fun _ _ _ => le_trans⟩
  refine (List.pairwise_insertionSort _ _).imp fun {left right} hbefore => ?_
  rw [← Candidate.before_iff]
  simpa using hbefore

theorem State.WellKeyed.mem_candidates (hkeyed : state.WellKeyed) :
    record ∈ (candidates state runtime failed).map Candidate.record ↔
      state.targets.find? record.name = some record ∧ record.name ≠ failed.target ∧
        ∀ active ∈ runtime.active, record.name ≠ active.target := by
  rw [candidates_eq, List.mem_map]
  simp only [List.mem_insertionSort, List.mem_map, List.mem_filter, OrderedMap.find?_eq_some_iff]
  constructor
  · rintro ⟨_, ⟨⟨name, other⟩, ⟨hentry, hother⟩, rfl⟩, rfl⟩
    obtain ⟨hname, hnamed⟩ := hkeyed.targets _ hentry
    change other.name = name at hname
    subst hname
    change (other.name, other) ∈ _ ∧ other.name ≠ _ ∧ ∀ active ∈ _, other.name ≠ _
    refine ⟨hentry, ?_, ?_⟩
    · intro heq
      have hvalid : failed.valid = true := by
        unfold TargetRef.valid
        rw [← heq]
        simpa using hnamed
      simp [hvalid, heq] at hother
    · intro active hactive heq
      rw [Option.mem_def] at hactive
      simp [hactive, heq] at hother
  · rintro ⟨hentry, hfailed, hactive⟩
    refine ⟨state.candidate failed record, ⟨(record.name, record), ⟨hentry, ?_⟩, rfl⟩, rfl⟩
    cases hnow : runtime.active with
    | none => simp [hfailed]
    | some active => simp [hfailed, hactive active hnow]

/-- No two candidates are the same target. -/
theorem State.WellKeyed.candidates_distinct (hkeyed : state.WellKeyed) :
    (candidates state runtime failed).Pairwise fun left right =>
      left.record.name ≠ right.record.name := by
  rw [candidates_eq]
  refine (List.perm_insertionSort _ _).symm.pairwise ?_ fun hne => Ne.symm hne
  rw [List.pairwise_map]
  refine (state.targets.sorted.filter _).imp_of_mem fun {left right} hleft hright hlt => ?_
  have hleft := (hkeyed.targets _ (List.mem_filter.mp hleft).1).1
  have hright := (hkeyed.targets _ (List.mem_filter.mp hright).1).1
  change left.2.name ≠ right.2.name
  rw [hleft, hright]
  exact hlt.ne

/-- The targets of the candidates are the ones in the running, most preferred first. -/
theorem State.WellKeyed.contenders (hkeyed : state.WellKeyed) :
    state.Contenders runtime failed ((candidates state runtime failed).map Candidate.record) where
  members _ := hkeyed.mem_candidates
  ordered := by
    rw [List.pairwise_map]
    refine (candidates_ordered.and hkeyed.candidates_distinct).imp_of_mem
      fun {left right} hleft hright ⟨hle, hne⟩ => ?_
    rw [hkeyed.prefers_iff, ← candidate_of_mem hleft, ← candidate_of_mem hright]
    refine lt_of_le_of_ne (not_lt.mp hle) fun heq => hne ?_
    exact congrArg (fun key => (ofLex (ofLex key).2).2) heq

/-- There is one way to order the targets in the running. -/
theorem State.WellKeyed.contenders_unique (hkeyed : state.WellKeyed)
    {others : List TargetRecord} (h : state.Contenders runtime failed records)
    (h' : state.Contenders runtime failed others) : others = records := by
  have : Std.Irrefl (state.Prefers failed) :=
    ⟨fun record hself => lt_irrefl _ (hkeyed.prefers_iff.mp hself)⟩
  have : Std.Antisymm (state.Prefers failed) :=
    ⟨fun left right hleft hright =>
      absurd (hkeyed.prefers_iff.mp hleft) (lt_asymm (hkeyed.prefers_iff.mp hright))⟩
  refine h'.ordered.eq_of_mem_iff h.ordered fun record => ?_
  rw [h.members, h'.members]

end Preference

/-! ### The choice -/

/-- A rejection is reported before another: it is more telling, or as telling with a smaller
code. -/
def Reason.Outweighs (code other : Reason) : Prop :=
  severity code < severity other ∨
    severity code = severity other ∧ code.code.toNat ≤ other.code.toNat

theorem Reason.Outweighs.refl (code : Reason) : code.Outweighs code := Or.inr ⟨rfl, le_rfl⟩

theorem Reason.Outweighs.trans {code other third : Reason} (h : code.Outweighs other)
    (h' : other.Outweighs third) : code.Outweighs third := by
  unfold Reason.Outweighs at *
  omega

theorem worse_outweighs (best code : Reason) :
    (worse best code).Outweighs best ∧ (worse best code).Outweighs code := by
  unfold worse
  split
  · rename_i hworse
    refine ⟨?_, .refl code⟩
    unfold Reason.Outweighs
    omega
  · rename_i hworse
    refine ⟨.refl best, ?_⟩
    unfold Reason.Outweighs
    omega

theorem mem_reportedRejection {rejections : List Reason} (h : rejections ≠ []) :
    reportedRejection rejections ∈ rejections := by
  cases rejections with
  | nil => exact absurd rfl h
  | cons first rest =>
    show rest.foldl worse first ∈ first :: rest
    induction rest generalizing first with
    | nil => simp
    | cons code rest ih =>
      have hworse : worse first code = first ∨ worse first code = code := by
        unfold worse
        split
        · exact Or.inr rfl
        · exact Or.inl rfl
      have hmem := ih (worse first code) (by simp)
      rw [List.foldl_cons]
      rcases hworse with hworse | hworse
      all_goals
        rw [hworse] at hmem ⊢
        rw [List.mem_cons] at hmem
        rcases hmem with hmem | hmem <;> simp [hmem]

theorem reportedRejection_outweighs {rejections : List Reason} {code : Reason}
    (hcode : code ∈ rejections) : (reportedRejection rejections).Outweighs code := by
  cases rejections with
  | nil => cases hcode
  | cons first rest =>
    show (rest.foldl worse first).Outweighs code
    induction rest generalizing first code with
    | nil =>
      obtain rfl := List.mem_singleton.mp hcode
      exact .refl code
    | cons next rest ih =>
      obtain ⟨hfirst, hnext⟩ := worse_outweighs first next
      have hbest := ih (worse first next) List.mem_cons_self
      rcases List.mem_cons.mp hcode with rfl | hcode
      · exact hbest.trans hfirst
      · rcases List.mem_cons.mp hcode with rfl | hcode
        · exact hbest.trans hnext
        · exact ih (worse first next) (List.mem_cons_of_mem _ hcode)

/-- What a selection answers about the targets it considers, in their order. -/
def State.Selects (state : State) (runtime : ServiceRuntime) (considered : List TargetRecord) :
    Except Reason TargetRecord → Prop
  | .ok record => evaluateCandidate state runtime record = .ok ∧
      ∃ earlier later, considered = earlier ++ record :: later ∧
        ∀ other ∈ earlier, evaluateCandidate state runtime other ≠ .ok
  | .error code => (∀ record ∈ considered, evaluateCandidate state runtime record ≠ .ok) ∧
      (considered = [] → code = .noEligibleFallback) ∧
      (considered ≠ [] → ∃ record ∈ considered, evaluateCandidate state runtime record = code ∧
        ∀ other ∈ considered, code.Outweighs (evaluateCandidate state runtime other))

section Choice

variable {config : FabricConfig} {state : State} {runtime : ServiceRuntime} {failed : TargetRef}
  {entries : List Candidate} {rejections : List Reason} {notes : List ExplanationStep}

/-- The candidates are tried in their order, and every rejection is kept. -/
theorem firstEligible_selects :
    match (firstEligible state runtime entries rejections notes).1 with
    | .ok record => state.Selects runtime (entries.map Candidate.record) (.ok record)
    | .error found => (∀ entry ∈ entries, evaluateCandidate state runtime entry.record ≠ .ok) ∧
        found = rejections ++ entries.map fun entry =>
          evaluateCandidate state runtime entry.record := by
  induction entries generalizing rejections notes with
  | nil => simp [firstEligible]
  | cons entry rest ih =>
    simp only [firstEligible]
    by_cases hok : evaluateCandidate state runtime entry.record = .ok
    · rw [if_pos hok]
      exact ⟨hok, [], rest.map Candidate.record, rfl, by simp⟩
    · rw [if_neg hok]
      have hrest := @ih (rejections ++ [evaluateCandidate state runtime entry.record])
        (noteBounded notes
          { code := evaluateCandidate state runtime entry.record
            subject := entry.record.name.bytes, detail := "fallback candidate rejected" })
      split at hrest
      · obtain ⟨hrecord, earlier, later, hsplit, hearlier⟩ := hrest
        refine ⟨hrecord, entry.record :: earlier, later, ?_, ?_⟩
        · rw [List.map_cons, hsplit, List.cons_append]
        · intro other hother
          rcases List.mem_cons.mp hother with rfl | hother
          · exact hok
          · exact hearlier other hother
      · obtain ⟨hnone, hfound⟩ := hrest
        refine ⟨?_, by simpa using hfound⟩
        intro other hother
        rcases List.mem_cons.mp hother with rfl | hother
        · exact hok
        · exact hnone other hother

/-- A selection considers the candidates up to the smaller ceiling. -/
theorem selectFallback_selects (config : FabricConfig) (state : State) (runtime : ServiceRuntime)
    (failed : TargetRef) :
    state.Selects runtime
      (((candidates state runtime failed).map Candidate.record).take
        (fallbackCeiling config state.policy))
      (selectFallback config state runtime failed).chosen := by
  rw [← List.map_take]
  generalize hentries : (candidates state runtime failed).take
    (fallbackCeiling config state.policy) = entries
  have hfirst := @firstEligible_selects state runtime entries [] []
  simp only [selectFallback, hentries]
  cases hfound : (firstEligible state runtime entries [] []).1 with
  | ok record =>
    rw [hfound] at hfirst
    exact hfirst
  | error found =>
    rw [hfound] at hfirst
    obtain ⟨hnone, rfl⟩ := hfirst
    rw [List.nil_append]
    refine ⟨?_, ?_, ?_⟩
    · intro record hrecord
      obtain ⟨entry, hentry, rfl⟩ := List.mem_map.mp hrecord
      exact hnone entry hentry
    · intro hempty
      rw [List.map_eq_nil_iff.mp hempty]
      rfl
    · intro hsome
      have hcodes : entries.map (fun entry => evaluateCandidate state runtime entry.record) ≠ [] :=
        fun hempty => hsome (by rw [List.map_eq_nil_iff.mp hempty]; rfl)
      obtain ⟨entry, hentry, hcode⟩ := List.mem_map.mp (mem_reportedRejection hcodes)
      refine ⟨entry.record, List.mem_map_of_mem hentry, hcode, ?_⟩
      intro other hother
      obtain ⟨candidate, hcandidate, rfl⟩ := List.mem_map.mp hother
      exact reportedRejection_outweighs (List.mem_map.mpr ⟨candidate, hcandidate, rfl⟩)

/-- In every reachable state there is one list of the targets in the running, and a selection
takes the first of them that may take over, within the smaller of the two ceilings; otherwise it
reports that there is none to consider, or the most telling rejection of one of them. -/
theorem selectFallback_canonical {fabric : Fabric} (hreachable : Fabric.Reachable config fabric)
    (runtime : ServiceRuntime) (failed : TargetRef) :
    ∃ contenders, fabric.state.Contenders runtime failed contenders ∧
      (∀ others, fabric.state.Contenders runtime failed others → others = contenders) ∧
      fabric.state.Selects runtime
        (contenders.take (min fabric.config.maxFallbackCandidates
          (if fabric.state.policy.maxFallbackCandidates = 0 then 1
          else fabric.state.policy.maxFallbackCandidates.toNat)))
        (selectFallback fabric.config fabric.state runtime failed).chosen := by
  obtain ⟨moments, hrun⟩ := hreachable
  have hkeyed := hrun.wellKeyed
  refine ⟨_, hkeyed.contenders, ?_, selectFallback_selects _ _ _ _⟩
  intro others hothers
  exact hkeyed.contenders_unique hkeyed.contenders hothers

theorem selectFallback_canonical_placed :
    ∃ contenders, (Fleet.running Fleet.placed).state.Contenders
        { descriptor := Fleet.descriptor } (Fleet.booted Fleet.primary 1) contenders ∧
      (∀ others, (Fleet.running Fleet.placed).state.Contenders
        { descriptor := Fleet.descriptor } (Fleet.booted Fleet.primary 1) others →
          others = contenders) ∧
      (Fleet.running Fleet.placed).state.Selects { descriptor := Fleet.descriptor }
        (contenders.take (min (Fleet.running Fleet.placed).config.maxFallbackCandidates
          (if (Fleet.running Fleet.placed).state.policy.maxFallbackCandidates = 0 then 1
          else (Fleet.running Fleet.placed).state.policy.maxFallbackCandidates.toNat)))
        (selectFallback (Fleet.running Fleet.placed).config (Fleet.running Fleet.placed).state
          { descriptor := Fleet.descriptor } (Fleet.booted Fleet.primary 1)).chosen :=
  selectFallback_canonical (Fleet.reachable_running Fleet.placed) { descriptor := Fleet.descriptor }
    (Fleet.booted Fleet.primary 1)

end Choice

end OffloadFabric
