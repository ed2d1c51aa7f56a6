import Mathlib

/-!
Fenced tenure, independent of what is held. One resource has at most one holder, a
place at an incarnation. A grant moves it under the next token and raises a barrier at
the place it leaves; a renewal raises the barrier of the last move once more. As long
as no grant goes behind a barrier, what was left behind stays behind it for good.
-/
namespace OffloadFabric

/-- A place at one of its incarnations. -/
@[ext] structure Seat (T I : Type) where
  place : T
  incarnation : I

/-- Who holds the resource, under which token, taken over from whom, and the
incarnation up to which every place is barred. -/
@[ext] structure Tenure (T I : Type) where
  token : Nat := 0
  holder : Option (Seat T I) := none
  origin : Option (Seat T I) := none
  barrier : T → Option I := fun _ => none

namespace Tenure

variable {T I : Type} [DecidableEq T] {tenure next : Tenure T I} {seat dest : Seat T I}
  {place : T} {incarnation : I}

/-- The barriers after the place of a seat was barred up to its incarnation. -/
def bar (barrier : T → Option I) : Option (Seat T I) → T → Option I
  | none, place => barrier place
  | some seat, place => if place = seat.place then some seat.incarnation else barrier place

def grant (tenure : Tenure T I) (dest : Seat T I) : Tenure T I :=
  { token := tenure.token + 1, holder := some dest, origin := tenure.holder
    barrier := bar tenure.barrier tenure.holder }

def renew (tenure : Tenure T I) : Tenure T I :=
  { tenure with barrier := bar tenure.barrier tenure.origin }

theorem bar_of_ne {barrier : T → Option I} {left : Option (Seat T I)}
    (h : ∀ seat ∈ left, seat.place ≠ place) : bar barrier left place = barrier place := by
  cases left with
  | none => rfl
  | some seat => exact if_neg fun heq => h seat rfl heq.symm

theorem bar_of_eq {barrier : T → Option I} {left : Option (Seat T I)} (h : seat ∈ left) :
    bar barrier left seat.place = some seat.incarnation := by
  obtain rfl := Option.mem_def.mp h
  exact if_pos rfl

/-- A barrier after a bar is the one of the barred seat or an earlier one. -/
theorem mem_bar {barrier : T → Option I} {left : Option (Seat T I)} {barred : I}
    (h : barred ∈ bar barrier left place) :
    (∃ seat ∈ left, seat.place = place ∧ seat.incarnation = barred) ∨ barred ∈ barrier place := by
  cases left with
  | none => exact Or.inr h
  | some seat =>
    by_cases hplace : place = seat.place
    · rw [Option.mem_def, bar, if_pos hplace] at h
      exact Or.inl ⟨seat, rfl, hplace.symm, Option.some.inj h⟩
    · rw [Option.mem_def, bar, if_neg hplace] at h
      exact Or.inr h

variable [LinearOrder I]

/-- A destination in front of every barrier, the one its own grant raises included. -/
structure Respects (tenure : Tenure T I) (dest : Seat T I) : Prop where
  barrier : ∀ barred ∈ tenure.barrier dest.place, barred < dest.incarnation
  holder : ∀ held ∈ tenure.holder, held.place = dest.place → held.incarnation < dest.incarnation

/-- One respectful grant, or one renewal. -/
inductive Step (tenure : Tenure T I) : Tenure T I → Prop where
  | grant (dest : Seat T I) : tenure.Respects dest → Step tenure (tenure.grant dest)
  | renew : Step tenure tenure.renew

/-- No grant leads back to the place at the incarnation or below it. -/
structure Barred (tenure : Tenure T I) (place : T) (incarnation : I) : Prop where
  barrier : ∃ barred ∈ tenure.barrier place, incarnation ≤ barred
  holder : ∀ held ∈ tenure.holder, held.place = place → incarnation < held.incarnation
  origin : ∀ left ∈ tenure.origin, left.place = place → incarnation ≤ left.incarnation

/-- The holder is in front of its barrier, and stays so when the tenure is renewed. -/
structure Clear (tenure : Tenure T I) : Prop where
  barrier : ∀ held ∈ tenure.holder, ∀ barred ∈ tenure.barrier held.place,
    barred < held.incarnation
  origin : ∀ held ∈ tenure.holder, ∀ left ∈ tenure.origin, left.place = held.place →
    left.incarnation < held.incarnation

/-- The barrier of a barred place is not lowered by barring seats at or above it. -/
theorem Barred.bar (h : tenure.Barred place incarnation) {left : Option (Seat T I)}
    (hleft : ∀ seat ∈ left, seat.place = place → incarnation ≤ seat.incarnation) :
    ∃ barred ∈ Tenure.bar tenure.barrier left place, incarnation ≤ barred := by
  by_cases hplace : ∃ seat ∈ left, seat.place = place
  · obtain ⟨seat, hseat, rfl⟩ := hplace
    exact ⟨seat.incarnation, bar_of_eq hseat, hleft seat hseat rfl⟩
  · rw [bar_of_ne fun seat hseat heq => hplace ⟨seat, hseat, heq⟩]
    exact h.barrier

theorem Barred.step (h : tenure.Barred place incarnation) (hstep : tenure.Step next) :
    next.Barred place incarnation := by
  cases hstep with
  | grant dest hrespects =>
    refine ⟨h.bar fun seat hseat heq => (h.holder seat hseat heq).le, ?_, ?_⟩
    · rintro held hheld rfl
      obtain rfl := Option.some.inj hheld
      obtain ⟨barred, hbarred, hle⟩ := h.barrier
      exact lt_of_le_of_lt hle (hrespects.barrier barred hbarred)
    · exact fun left hleft heq => (h.holder left hleft heq).le
  | renew => exact ⟨h.bar h.origin, h.holder, h.origin⟩

/-- Moving to another place bars the seat that is left. -/
theorem Barred.of_grant (hholder : tenure.holder = some seat) (hmoved : dest.place ≠ seat.place) :
    (tenure.grant dest).Barred seat.place seat.incarnation := by
  refine ⟨⟨seat.incarnation, bar_of_eq hholder, le_rfl⟩, ?_, ?_⟩
  · intro held hheld hplace
    obtain rfl := Option.some.inj hheld
    exact absurd hplace hmoved
  · intro left hleft _
    obtain rfl := Option.some.inj (hholder.symm.trans hleft)
    exact le_rfl

/-- So does renewing a tenure that was taken over from another place. -/
theorem Barred.of_renew (horigin : tenure.origin = some seat)
    (hmoved : ∀ held ∈ tenure.holder, held.place ≠ seat.place) :
    tenure.renew.Barred seat.place seat.incarnation := by
  refine ⟨⟨seat.incarnation, bar_of_eq horigin, le_rfl⟩, ?_, ?_⟩
  · exact fun held hheld hplace => absurd hplace (hmoved held hheld)
  · intro left hleft _
    obtain rfl := Option.some.inj (horigin.symm.trans hleft)
    exact le_rfl

theorem Clear.step (h : tenure.Clear) (hstep : tenure.Step next) : next.Clear := by
  cases hstep with
  | grant dest hrespects =>
    constructor
    · intro held hheld barred hbarred
      obtain rfl := Option.some.inj hheld
      rcases mem_bar hbarred with ⟨seat, hseat, hplace, rfl⟩ | hbarred
      · exact hrespects.holder seat hseat hplace
      · exact hrespects.barrier barred hbarred
    · intro held hheld left hleft hplace
      obtain rfl := Option.some.inj hheld
      exact hrespects.holder left hleft hplace
  | renew =>
    refine ⟨?_, h.origin⟩
    intro held hheld barred hbarred
    rcases mem_bar hbarred with ⟨seat, hseat, hplace, rfl⟩ | hbarred
    · exact h.origin held hheld seat hseat hplace
    · exact h.barrier held hheld barred hbarred

end Tenure

end OffloadFabric
