import Mathlib

/-!
Writers and readers of token sequences, and when a reader gives back what a
writer wrote. A writer appends tokens until some bound fails, and then has no
content at all; a reader consumes tokens under a context or stops with an error.
`Carries` relates the two and composes along both monads, keeping the exact
condition under which the reader accepts what was written.
-/
namespace OffloadFabric

namespace Codec

variable {β γ ε α τ σ ι : Type} {limit : Nat}

/-- A writer of tokens. The content is `none` once a bound was exceeded. -/
abbrev Emit (β α : Type) := StateM (Option (List β)) α

/-- What a reader has not consumed yet, and the context it reads under. -/
structure Source (β γ : Type) where
  rest : List β
  context : γ

abbrev Parse (β γ ε α : Type) := StateT (Source β γ) (Except ε) α

/-- Whatever was written before, `e` appends exactly `tokens` within `limit`
tokens in all, or gives up. -/
def Appends (limit : Nat) (e : Emit β α) (tokens : List β) : Prop :=
  ∀ w, (e w).2 = none ∨ ∃ buf, w = some buf ∧ (e w).2 = some (buf ++ tokens) ∧
    (tokens = [] ∨ (buf ++ tokens).length ≤ limit)

/-- Nothing is ever written by `e`: it gives up on every input. -/
def GivesUp (e : Emit β α) : Prop := ∀ w, (e w).2 = none

/-- In every context of `p`, `d` consumes exactly `tokens` and returns `a` when
`accepted` holds, and stops with an error when it does not. -/
def Reads (p : γ → Prop) (d : Parse β γ ε α) (tokens : List β) (a : α) (accepted : Prop) : Prop :=
  ∀ rest c, p c →
    (accepted → d ⟨tokens ++ rest, c⟩ = .ok (a, ⟨rest, c⟩)) ∧
    (¬accepted → ∃ err, d ⟨tokens ++ rest, c⟩ = .error err)

/-- `d` reads `a` back from what `e` writes, which is at least `least` tokens. -/
def Carries (limit : Nat) (p : γ → Prop) (least : Nat) (e : Emit β Unit) (d : Parse β γ ε α)
    (a : α) (accepted : Prop) : Prop :=
  ∃ tokens, Appends limit e tokens ∧
    (GivesUp e ∨ least ≤ tokens.length ∧ Reads p d tokens a accepted)

/-! ### Writers -/

theorem Appends.of_none {e : Emit β α} {tokens : List β} (h : Appends limit e tokens) :
    (e none).2 = none := by
  rcases h none with h | ⟨buf, hbuf, _, _⟩
  · exact h
  · cases hbuf

theorem appends_pure (a : α) : Appends limit (pure a : Emit β α) [] := by
  intro w
  cases w with
  | none => exact Or.inl rfl
  | some buf => exact Or.inr ⟨buf, rfl, by simp [pure, StateT.pure], Or.inl rfl⟩

theorem Appends.bind {e : Emit β α} {f : α → Emit β τ} {s t : List β}
    (he : Appends limit e s) (hf : ∀ a, Appends limit (f a) t) :
    Appends limit (e >>= f) (s ++ t) := by
  intro w
  have hrun : ((e >>= f) w).2 = (f (e w).1 (e w).2).2 := rfl
  rw [hrun]
  rcases he w with h | ⟨buf, hw, h, hs⟩
  · rw [h]
    exact Or.inl (hf _).of_none
  · rw [h]
    rcases hf (e w).1 (some (buf ++ s)) with h' | ⟨buf', hbuf', h', ht⟩
    · exact Or.inl h'
    · obtain rfl := Option.some.inj hbuf'
      refine Or.inr ⟨buf, hw, by rw [h', List.append_assoc], ?_⟩
      rcases ht with rfl | ht
      · simpa using hs
      · exact Or.inr (by rwa [← List.append_assoc])

theorem GivesUp.bind {e : Emit β α} {f : α → Emit β τ} {t : List β}
    (he : GivesUp e) (hf : ∀ a, Appends limit (f a) t) : GivesUp (e >>= f) := by
  intro w
  change (f (e w).1 (e w).2).2 = none
  rw [he w]
  exact (hf _).of_none

theorem GivesUp.bind_right {e : Emit β α} {f : α → Emit β τ} (hf : ∀ a, GivesUp (f a)) :
    GivesUp (e >>= f) := fun _ => hf _ _

/-! ### Readers -/

theorem Reads.bind {p : γ → Prop} {d : Parse β γ ε α} {f : α → Parse β γ ε τ} {s t : List β}
    {a : α} {b : τ} {A B : Prop} (hd : Reads p d s a A) (hf : Reads p (f a) t b B) :
    Reads p (d >>= f) (s ++ t) b (A ∧ B) := by
  intro rest c hc
  have hrun : (d >>= f) ⟨s ++ t ++ rest, c⟩ =
      (d ⟨s ++ (t ++ rest), c⟩).bind fun r => f r.1 r.2 := by
    rw [List.append_assoc]
    rfl
  rw [hrun]
  constructor
  · rintro ⟨hA, hB⟩
    rw [(hd _ c hc).1 hA]
    exact (hf rest c hc).1 hB
  · intro hAB
    by_cases hA : A
    · rw [(hd _ c hc).1 hA]
      exact (hf rest c hc).2 fun hB => hAB ⟨hA, hB⟩
    · obtain ⟨err, herr⟩ := (hd (t ++ rest) c hc).2 hA
      exact ⟨err, by rw [herr]; rfl⟩

theorem Reads.result {p : γ → Prop} {d : Parse β γ ε α} {f : α → Parse β γ ε τ} {s : List β}
    {a : α} {b : τ} {A : Prop} (hd : Reads p d s a A) (hf : f a = pure b) :
    Reads p (d >>= f) s b A := by
  intro rest c hc
  have hrun : (d >>= f) ⟨s ++ rest, c⟩ = (d ⟨s ++ rest, c⟩).bind fun r => f r.1 r.2 := rfl
  rw [hrun]
  constructor
  · intro hA
    rw [(hd rest c hc).1 hA]
    change f a _ = _
    rw [hf]
    rfl
  · intro hA
    obtain ⟨err, herr⟩ := (hd rest c hc).2 hA
    exact ⟨err, by rw [herr]; rfl⟩

theorem reads_pure (p : γ → Prop) (a : α) : Reads p (pure a : Parse β γ ε α) [] a True :=
  fun _ _ _ => ⟨fun _ => rfl, fun h => absurd trivial h⟩

/-- A test that consumes nothing. -/
def check (cond : Prop) [Decidable cond] (err : ε) : Parse β γ ε Unit :=
  if cond then pure () else throw err

theorem check_true {cond : Prop} [Decidable cond] {err : ε} (h : cond) :
    (check cond err : Parse β γ ε Unit) = pure () := if_pos h

theorem reads_check (p : γ → Prop) (cond : Prop) [Decidable cond] (err : ε) :
    Reads p (check cond err : Parse β γ ε Unit) [] () cond := by
  intro rest c _
  constructor
  · intro h
    rw [check, if_pos h]
    rfl
  · intro h
    exact ⟨err, by rw [check, if_neg h]; rfl⟩

/-- A test of what was read, then its result. -/
theorem reads_checked (p : γ → Prop) (cond : Prop) [Decidable cond] (err : ε) (a : α) :
    Reads p (check cond err >>= fun _ => (pure a : Parse β γ ε α)) [] a cond := by
  have h := (reads_check (β := β) p cond err).bind (f := fun _ => pure a) (reads_pure p a)
  rwa [List.append_nil, and_true] at h

/-! ### Writers and readers together -/

namespace Carries

variable {p q : γ → Prop} {m n : Nat} {e e' : Emit β Unit} {d : Parse β γ ε α}
  {a : α} {b : τ} {A B : Prop}

theorem bind {f : α → Parse β γ ε τ} (hd : Carries limit p m e d a A)
    (hf : Carries limit p n e' (f a) b B) :
    Carries limit p m (e >>= fun _ => e') (d >>= f) b (A ∧ B) := by
  obtain ⟨s, hs, hds⟩ := hd
  obtain ⟨t, ht, hft⟩ := hf
  refine ⟨s ++ t, hs.bind fun _ => ht, ?_⟩
  rcases hds with hds | ⟨hm, hds⟩
  · exact Or.inl (hds.bind fun _ => ht)
  · rcases hft with hft | ⟨_, hft⟩
    · exact Or.inl (GivesUp.bind_right fun _ => hft)
    · exact Or.inr ⟨by rw [List.length_append]; omega, hds.bind hft⟩

/-- The common case of `bind`, where the first value is always accepted. -/
theorem seq {f : α → Parse β γ ε τ} (hd : Carries limit p m e d a True)
    (hf : Carries limit p n e' (f a) b B) :
    Carries limit p m (e >>= fun _ => e') (d >>= f) b B := by
  rw [← true_and B]
  exact hd.bind hf

/-- The case of `bind` where everything after the first value is accepted. -/
theorem bind_true {f : α → Parse β γ ε τ} (hd : Carries limit p m e d a A)
    (hf : Carries limit p n e' (f a) b True) :
    Carries limit p m (e >>= fun _ => e') (d >>= f) b A := by
  rw [← and_true A]
  exact hd.bind hf

/-- The reader's last step turns what it has read into the value. -/
theorem result {f : α → Parse β γ ε τ} (hd : Carries limit p m e d a A) (hf : f a = Pure.pure b) :
    Carries limit p m e (d >>= f) b A := by
  obtain ⟨s, hs, hds⟩ := hd
  exact ⟨s, hs, hds.imp_right fun h => ⟨h.1, h.2.result hf⟩⟩

/-- The reader's last steps test what it has read. -/
theorem finish {f : α → Parse β γ ε τ} (hd : Carries limit p m e d a True)
    (hf : Reads p (f a) [] b B) : Carries limit p m e (d >>= f) b B := by
  obtain ⟨s, hs, hds⟩ := hd
  refine ⟨s, hs, hds.imp_right fun h => ⟨h.1, ?_⟩⟩
  have hall := h.2.bind hf
  rwa [List.append_nil, true_and] at hall

theorem map (hd : Carries limit p m e d a A) (g : α → τ) :
    Carries limit p m e (d >>= fun x => Pure.pure (g x)) (g a) A := hd.result rfl

theorem pure (a : α) :
    Carries limit p 0 (Pure.pure () : Emit β Unit) (Pure.pure a : Parse β γ ε α) a True :=
  ⟨[], appends_pure (), Or.inr ⟨Nat.le_refl 0, reads_pure p a⟩⟩

/-- The reader tests the value it has just read; nothing is written for it. -/
theorem check (cond : Prop) [Decidable cond] (err : ε) {f : Parse β γ ε τ}
    (hf : Carries limit p m e f b B) :
    Carries limit p m e (Codec.check cond err >>= fun _ => f) b (cond ∧ B) := by
  obtain ⟨s, hs, hfs⟩ := hf
  exact ⟨s, hs, hfs.imp_right fun h => ⟨h.1, (reads_check p cond err).bind h.2⟩⟩

theorem weaken (h : Carries limit p m e d a A) (hnm : n ≤ m) : Carries limit p n e d a A := by
  obtain ⟨s, hs, hds⟩ := h
  exact ⟨s, hs, hds.imp_right fun h => ⟨Nat.le_trans hnm h.1, h.2⟩⟩

theorem mono (h : Carries limit q m e d a A) (hpq : ∀ c, p c → q c) :
    Carries limit p m e d a A := by
  obtain ⟨s, hs, hds⟩ := h
  exact ⟨s, hs, hds.imp_right fun h => ⟨h.1, fun rest c hc => h.2 rest c (hpq c hc)⟩⟩

theorem congr_accepted (h : Carries limit p m e d a A) (hAB : A ↔ B) :
    Carries limit p m e d a B := by
  rwa [← propext hAB]

theorem congr_value {a' : α} (h : Carries limit p m e d a A) (haa : a = a') :
    Carries limit p m e d a' A := by
  rwa [← haa]

/-- What the reader makes of a complete successful encoding. -/
theorem decode {buf : List β} (h : Carries limit p m e d a A) (hbuf : (e (some [])).2 = some buf)
    {c : γ} (hc : p c) :
    (A → d ⟨buf, c⟩ = .ok (a, ⟨[], c⟩)) ∧ (¬A → ∃ err, d ⟨buf, c⟩ = .error err) := by
  obtain ⟨s, hs, hds⟩ := h
  have hbs : buf = s := by
    rcases hs (some []) with h | ⟨buf', hbuf', h, _⟩
    · rw [hbuf] at h
      cases h
    · obtain rfl := Option.some.inj hbuf'
      rw [hbuf] at h
      simpa using Option.some.inj h
  subst hbs
  rcases hds with hds | ⟨_, hds⟩
  · have := hds (some [])
    rw [hbuf] at this
    cases this
  · simpa using hds [] c hc

theorem length_le {buf : List β} (h : Carries limit p m e d a A)
    (hbuf : (e (some [])).2 = some buf) : buf.length ≤ limit := by
  obtain ⟨s, hs, _⟩ := h
  rcases hs (some []) with h | ⟨buf', hbuf', h, hs⟩
  · rw [hbuf] at h
    cases h
  · obtain rfl := Option.some.inj hbuf'
    obtain rfl : buf = s := by
      rw [hbuf] at h
      simpa using Option.some.inj h
    rcases hs with rfl | hs
    · exact Nat.zero_le _
    · exact hs

theorem least_le {buf : List β} (h : Carries limit p m e d a A)
    (hbuf : (e (some [])).2 = some buf) : m ≤ buf.length := by
  obtain ⟨s, hs, hgives | ⟨hleast, -⟩⟩ := h
  · rw [hgives] at hbuf
    cases hbuf
  · rcases hs (some []) with hnone | ⟨start, hstart, hwritten, -⟩
    · rw [hnone] at hbuf
      cases hbuf
    · obtain rfl := Option.some.inj hstart
      obtain rfl : buf = s := by
        rw [hbuf] at hwritten
        simpa using Option.some.inj hwritten
      exact hleast

end Carries

/-! ### Repetition -/

/-- Run a reader `count` times, threading an accumulator. -/
def repeatParse (step : σ → Parse β γ ε σ) : Nat → σ → Parse β γ ε σ
  | 0, s => pure s
  | count + 1, s => step s >>= repeatParse step count

/-- Every step of a left fold is accepted at the accumulator it starts from. -/
def Along (next : σ → ι → σ) (ok : σ → ι → Prop) : σ → List ι → Prop
  | _, [] => True
  | s, x :: rest => ok s x ∧ Along next ok (next s x) rest

theorem along_const {next : σ → ι → σ} {ok : ι → Prop} {items : List ι} (s : σ) :
    Along next (fun _ => ok) s items ↔ ∀ x ∈ items, ok x := by
  induction items generalizing s with
  | nil => simp [Along]
  | cons x rest ih => simp [Along, ih]

/-- Items written one after another are read back one after another, as long as
`inv` holds between what was read so far and the items still to come. -/
theorem Carries.along {p : γ → Prop} {m : Nat} {emit : ι → Emit β Unit}
    {step : σ → Parse β γ ε σ} {next : σ → ι → σ} {ok : σ → ι → Prop} {items : List ι}
    (inv : σ → List ι → Prop)
    (hstep : ∀ s x rest, inv s (x :: rest) →
      Carries limit p m (emit x) (step s) (next s x) (ok s x) ∧ inv (next s x) rest)
    {s : σ} (hinv : inv s items) :
    Carries limit p (m * items.length) (items.forM emit) (repeatParse step items.length s)
      (items.foldl next s) (Along next ok s items) := by
  induction items generalizing s with
  | nil => exact Carries.pure s
  | cons x rest ih =>
    obtain ⟨hx, hnext⟩ := hstep s x rest hinv
    obtain ⟨t, ht, htd⟩ := hx
    obtain ⟨u, hu, hud⟩ := ih hnext
    refine ⟨t ++ u, ht.bind fun _ => hu, ?_⟩
    rcases htd with htd | ⟨hm, htd⟩
    · exact Or.inl (htd.bind fun _ => hu)
    · rcases hud with hud | ⟨hn, hud⟩
      · exact Or.inl (GivesUp.bind_right fun _ => hud)
      · refine Or.inr ⟨?_, htd.bind hud⟩
        rw [List.length_append, List.length_cons, Nat.mul_succ]
        omega

theorem Carries.forEach {p : γ → Prop} {m : Nat} {emit : ι → Emit β Unit}
    {step : σ → Parse β γ ε σ} {next : σ → ι → σ} {ok : σ → ι → Prop} {items : List ι}
    (h : ∀ s, ∀ x ∈ items, Carries limit p m (emit x) (step s) (next s x) (ok s x)) (s : σ) :
    Carries limit p (m * items.length) (items.forM emit) (repeatParse step items.length s)
      (items.foldl next s) (Along next ok s items) := by
  refine Carries.along (fun _ left => ∀ x ∈ left, x ∈ items) ?_ (fun x hx => hx)
  intro s x rest hall
  exact ⟨h s x (hall x List.mem_cons_self), fun y hy => hall y (List.mem_cons_of_mem _ hy)⟩

/-- The same for a reader that knows which item comes next. -/
theorem Carries.foldlM {p : γ → Prop} {m : Nat} {emit : ι → Emit β Unit}
    {step : σ → ι → Parse β γ ε σ} {next : σ → ι → σ} {items : List ι}
    (h : ∀ s x, Carries limit p m (emit x) (step s x) (next s x) True) (s : σ) :
    Carries limit p 0 (items.forM emit) (items.foldlM step s) (items.foldl next s) True := by
  induction items generalizing s with
  | nil => exact Carries.pure s
  | cons x rest ih =>
    rw [List.foldlM_cons, List.foldl_cons]
    exact ((h s x).weaken (Nat.zero_le m)).seq (ih (next s x))

end Codec

end OffloadFabric
