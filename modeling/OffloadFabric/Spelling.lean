import OffloadFabric.Codec

/-!
Readers that accept nothing but what a writer writes. `Spells` says that whatever a reader
accepts is spelled as the writer spells its value; it is proved along the reader, with what was
already written as an accumulator. Together with `Carries` it makes a format canonical: no value
has a second spelling, and no spelling is a proper beginning of another one.
-/
namespace OffloadFabric

namespace Codec

variable {β γ ε α τ σ : Type} {limit : Nat}

/-- Wherever there is room for them, `e` appends exactly `tokens`. -/
def Writes (limit : Nat) (e : Emit β Unit) (tokens : List β) : Prop :=
  ∀ start, (start ++ tokens).length ≤ limit → (e (some start)).2 = some (start ++ tokens)

/-- Whatever `d` accepts, after `e` was written, is the rest of what `spell` writes of the value,
and the context is left as it was. -/
def Extends (limit : Nat) (e : Emit β Unit) (d : Parse β γ ε α) (spell : α → Emit β Unit) : Prop :=
  ∀ source a source', d source = .ok (a, source') → source'.context = source.context ∧
    ∃ tokens, source.rest = tokens ++ source'.rest ∧
      ∀ written, Writes limit e written → Writes limit (spell a) (written ++ tokens)

/-- Whatever `d` accepts is what `spell` writes of the value. -/
def Spells (limit : Nat) (d : Parse β γ ε α) (spell : α → Emit β Unit) : Prop :=
  Extends limit (pure ()) d spell

theorem writes_pure : Writes limit (pure () : Emit β Unit) [] :=
  fun start _ => by simp [pure, StateT.pure]

theorem Writes.bind {e e' : Emit β Unit} {tokens tokens' : List β} (h : Writes limit e tokens)
    (h' : Writes limit e' tokens') : Writes limit (e >>= fun _ => e') (tokens ++ tokens') := by
  intro start hroom
  have hfirst : (e (some start)).2 = some (start ++ tokens) := by
    refine h start ?_
    simp only [List.length_append] at hroom ⊢
    omega
  have hrun : ((e >>= fun _ => e') (some start)).2 = (e' (e (some start)).2).2 := rfl
  rw [hrun, hfirst, h' (start ++ tokens) (by rwa [List.append_assoc]), List.append_assoc]

theorem Spells.writes {d : Parse β γ ε α} {spell : α → Emit β Unit} (h : Spells limit d spell)
    {source source' : Source β γ} {a : α} (hok : d source = .ok (a, source')) :
    source'.context = source.context ∧
      ∃ tokens, source.rest = tokens ++ source'.rest ∧ Writes limit (spell a) tokens := by
  obtain ⟨hcontext, tokens, hrest, hwrites⟩ := h source a source' hok
  exact ⟨hcontext, tokens, hrest, by simpa using hwrites [] writes_pure⟩

/-- A bind that succeeds, taken apart. -/
theorem bind_ok {d : Parse β γ ε α} {f : α → Parse β γ ε τ} {source source' : Source β γ} {b : τ} :
    (d >>= f) source = .ok (b, source') ↔
      ∃ a middle, d source = .ok (a, middle) ∧ f a middle = .ok (b, source') := by
  have hrun : (d >>= f) source = (d source).bind fun r => f r.1 r.2 := rfl
  rw [hrun]
  cases d source with
  | error err => simp [Except.bind]
  | ok result =>
    obtain ⟨a, middle⟩ := result
    constructor
    · intro hf
      exact ⟨a, middle, rfl, hf⟩
    · rintro ⟨a', middle', hfirst, hf⟩
      cases hfirst
      exact hf

namespace Extends

variable {e : Emit β Unit} {d : Parse β γ ε α} {spell : α → Emit β Unit}

/-- One field: it is written after what was written so far. -/
theorem seq {f : α → Parse β γ ε τ} {spell' : τ → Emit β Unit} (hd : Spells limit d spell)
    (hf : ∀ a, Extends limit (e >>= fun _ => spell a) (f a) spell') :
    Extends limit e (d >>= f) spell' := by
  intro source b source' hok
  obtain ⟨a, middle, hfirst, hrest⟩ := bind_ok.mp hok
  obtain ⟨hcontext, tokens, htokens, hwrites⟩ := hd.writes hfirst
  obtain ⟨hcontext', tokens', htokens', hwrites'⟩ := hf a middle b source' hrest
  refine ⟨hcontext'.trans hcontext, tokens ++ tokens', ?_, fun written hwritten => ?_⟩
  · rw [htokens, htokens', List.append_assoc]
  · rw [← List.append_assoc]
    exact hwrites' _ (hwritten.bind hwrites)

/-- The value is complete, and spelled as all that was written. -/
theorem done {a : α} (h : spell a = e) : Extends limit e (pure a : Parse β γ ε α) spell := by
  intro source a' source' hok
  obtain ⟨rfl, rfl⟩ : a = a' ∧ source = source' := by
    cases hok
    exact ⟨rfl, rfl⟩
  refine ⟨rfl, [], rfl, fun written hwritten => ?_⟩
  rw [h, List.append_nil]
  exact hwritten

theorem check {cond : Prop} [Decidable cond] {err : ε} {f : Unit → Parse β γ ε α}
    (hf : cond → Extends limit e (f ()) spell) :
    Extends limit e (Codec.check cond err >>= f) spell := by
  intro source a source' hok
  obtain ⟨⟨⟩, middle, hcheck, hrest⟩ := bind_ok.mp hok
  by_cases hcond : cond
  · rw [check_true hcond] at hcheck
    obtain rfl : source = middle := by
      cases hcheck
      rfl
    exact hf hcond source a source' hrest
  · rw [Codec.check, if_neg hcond] at hcheck
    cases hcheck

theorem throw (err : ε) : Extends limit e (throw err : Parse β γ ε α) spell := by
  intro source a source' hok
  cases hok

theorem congr {d' : Parse β γ ε α} (h : Extends limit e d spell) (hsame : d' = d) :
    Extends limit e d' spell := hsame ▸ h

end Extends

theorem forM_snoc (spell : α → Emit β Unit) (items : List α) (item : α) :
    (items ++ [item]).forM spell = (items.forM spell >>= fun _ => spell item) := by
  induction items with
  | nil => rfl
  | cons first rest ih =>
    change (spell first >>= fun _ => (rest ++ [item]).forM spell) = _
    rw [ih]
    rfl

/-- Read items one after another and append each to the ones before. -/
theorem extends_many {d : Parse β γ ε α} {spell : α → Emit β Unit} (hd : Spells limit d spell)
    (count : Nat) (items : List α) {source source' : Source β γ} {found : List α}
    (hok : repeatParse (fun items => do return items ++ [← d]) count items source =
      .ok (found, source')) :
    source'.context = source.context ∧ found.length = items.length + count ∧
      ∃ tokens, source.rest = tokens ++ source'.rest ∧
        ∀ written, Writes limit (items.forM spell) written →
          Writes limit (found.forM spell) (written ++ tokens) := by
  induction count generalizing items source with
  | zero =>
    obtain ⟨rfl, rfl⟩ : items = found ∧ source = source' := by
      cases hok
      exact ⟨rfl, rfl⟩
    exact ⟨rfl, rfl, [], rfl, fun written hwritten => by rwa [List.append_nil]⟩
  | succ count ih =>
    obtain ⟨items', middle, hstep, hrest⟩ := bind_ok.mp hok
    obtain ⟨item, middle', hitem, hdone⟩ := bind_ok.mp hstep
    obtain ⟨rfl, rfl⟩ : items ++ [item] = items' ∧ middle' = middle := by
      cases hdone
      exact ⟨rfl, rfl⟩
    obtain ⟨hcontext, tokens, htokens, hwrites⟩ := hd.writes hitem
    obtain ⟨hcontext', hlength, tokens', htokens', hwrites'⟩ := ih (items ++ [item]) hrest
    refine ⟨hcontext'.trans hcontext, ?_, tokens ++ tokens', ?_, fun written hwritten => ?_⟩
    · rw [hlength, List.length_append, List.length_singleton]
      omega
    · rw [htokens, htokens', List.append_assoc]
    · rw [← List.append_assoc]
      refine hwrites' _ ?_
      rw [forM_snoc]
      exact hwritten.bind hwrites

/-! ### Canonical formats -/

section Canonical

variable {p : γ → Prop} {m : Nat} {encode : α → Emit β Unit} {d : Parse β γ ε α}
  {valid : α → Prop} {value : α} {buf : List β} {c : γ}

/-- A complete encoding is read back whatever follows it. -/
theorem Carries.decode_append {e : Emit β Unit} {A : Prop} (h : Carries limit p m e d value A)
    (hbuf : (e (some [])).2 = some buf) (hc : p c) (rest : List β) :
    (A → d ⟨buf ++ rest, c⟩ = .ok (value, ⟨rest, c⟩)) ∧
      (¬A → ∃ err, d ⟨buf ++ rest, c⟩ = .error err) := by
  obtain ⟨tokens, happends, hreads⟩ := h
  obtain rfl : buf = tokens := by
    rcases happends (some []) with hnone | ⟨start, hstart, hwritten, -⟩
    · rw [hbuf] at hnone
      cases hnone
    · obtain rfl := Option.some.inj hstart
      rw [hbuf] at hwritten
      simpa using Option.some.inj hwritten
  rcases hreads with hgives | ⟨-, hreads⟩
  · rw [hgives] at hbuf
    cases hbuf
  · exact hreads rest c hc

/-- Whatever is accepted was valid, and its encoding is exactly what was consumed. -/
theorem Spells.encoding (hspells : Spells limit d encode)
    (hcarries : ∀ value, Carries limit p m (encode value) d value (valid value))
    {source source' : Source β γ} (hc : p source.context) (hroom : source.rest.length ≤ limit)
    (hok : d source = .ok (value, source')) :
    source'.context = source.context ∧ valid value ∧
      ∃ bytes, (encode value (some [])).2 = some bytes ∧ source.rest = bytes ++ source'.rest := by
  obtain ⟨hcontext, bytes, hrest, hwrites⟩ := hspells.writes hok
  have hbytes : (encode value (some [])).2 = some bytes := by
    refine hwrites [] ?_
    rw [hrest, List.length_append] at hroom
    rw [List.nil_append]
    omega
  refine ⟨hcontext, ?_, bytes, hbytes, hrest⟩
  by_contra hinvalid
  obtain ⟨err, herr⟩ := ((hcarries value).decode_append hbytes hc source'.rest).2 hinvalid
  rw [← hrest] at herr
  rw [herr] at hok
  cases hok

/-- No proper beginning of an encoding is accepted. -/
theorem Spells.prefix_refused (hspells : Spells limit d encode)
    (hcarries : ∀ value, Carries limit p m (encode value) d value (valid value))
    (hbuf : (encode value (some [])).2 = some buf) (hc : p c) {front : List β}
    (hfront : front <+: buf) (hproper : front ≠ buf) : ∃ err, d ⟨front, c⟩ = .error err := by
  obtain ⟨missing, hbuf'⟩ := hfront
  cases hrun : d ⟨front, c⟩ with
  | error err => exact ⟨err, rfl⟩
  | ok result =>
    obtain ⟨found, source'⟩ := result
    have hlimit : buf.length ≤ limit := (hcarries value).length_le hbuf
    have hroom : front.length ≤ limit := by
      rw [← hbuf', List.length_append] at hlimit
      omega
    obtain ⟨hcontext, hvalid, bytes, hbytes, hrest⟩ := hspells.encoding hcarries hc hroom hrun
    -- The same reader, on the whole encoding, would stop at two places.
    have hfound : d ⟨buf, c⟩ = .ok (found, ⟨source'.rest ++ missing, c⟩) := by
      rw [← hbuf', show front = bytes ++ source'.rest from hrest, List.append_assoc]
      exact ((hcarries found).decode_append hbytes hc _).1 hvalid
    have hwhole := (hcarries value).decode_append hbuf hc []
    rw [List.append_nil, hfound] at hwhole
    by_cases hknown : valid value
    · have hend := congrArg (fun source => source.rest) (Prod.mk.inj (Except.ok.inj
        (hwhole.1 hknown))).2
      obtain ⟨-, rfl⟩ := List.append_eq_nil_iff.mp hend
      exact absurd (by simpa using hbuf') hproper
    · obtain ⟨err, herr⟩ := hwhole.2 hknown
      cases herr

end Canonical

end Codec

end OffloadFabric
