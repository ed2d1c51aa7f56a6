import Mathlib.Data.List.Basic

/-!
A stream that arrives in pieces, and a reader called on it again and again. A read of
`size` elements takes the same elements wherever the pieces were cut, and a reader that
takes one whole message off the front of the stream returns, called repeatedly, the
messages the stream was made of.
-/
namespace OffloadFabric

section Pieces

variable {α : Type}

/-- Read exactly `size` elements off `pieces`, waiting for as many of them as it takes. Each
time the front piece is taken whole, or as much of it as is still missing; there is nothing
left to read once the pieces are used up. -/
def recvExact : Nat → List (List α) → Option (List α × List (List α))
  | 0, pieces => some ([], pieces)
  | _ + 1, [] => none
  | missing + 1, piece :: rest =>
    if missing + 1 < piece.length then
      some (piece.take (missing + 1), piece.drop (missing + 1) :: rest)
    else
      match recvExact (missing + 1 - piece.length) rest with
      | none => none
      | some (more, left) => some (piece ++ more, left)

/-- What is read is a prefix of the stream, and what is left is the rest of it. -/
theorem recvExact_of_le {size : Nat} {pieces : List (List α)}
    (h : size ≤ pieces.flatten.length) :
    ∃ left, recvExact size pieces = some (pieces.flatten.take size, left) ∧
      left.flatten = pieces.flatten.drop size := by
  induction pieces generalizing size with
  | nil =>
    have hsize : size = 0 := by simpa using h
    subst hsize
    exact ⟨[], rfl, rfl⟩
  | cons piece rest ih =>
    cases size with
    | zero => exact ⟨piece :: rest, rfl, rfl⟩
    | succ missing =>
      rw [List.flatten_cons, List.length_append] at h
      by_cases hpiece : missing + 1 < piece.length
      · refine ⟨piece.drop (missing + 1) :: rest, ?_, ?_⟩
        · rw [recvExact, if_pos hpiece, List.flatten_cons,
            List.take_append_of_le_length (by omega)]
        · rw [List.flatten_cons, List.flatten_cons, List.drop_append_of_le_length (by omega)]
      · have hrest : missing + 1 - piece.length ≤ rest.flatten.length := by omega
        obtain ⟨left, hread, hleft⟩ := ih hrest
        refine ⟨left, ?_, ?_⟩
        · rw [recvExact, if_neg hpiece, hread, List.flatten_cons, List.take_append,
            List.take_of_length_le (show piece.length ≤ missing + 1 by omega)]
        · rw [hleft, List.flatten_cons, List.drop_append,
            List.drop_of_length_le (show piece.length ≤ missing + 1 by omega), List.nil_append]

/-- A stream that ends early gives nothing. -/
theorem recvExact_of_lt {size : Nat} {pieces : List (List α)}
    (h : pieces.flatten.length < size) : recvExact size pieces = none := by
  induction pieces generalizing size with
  | nil =>
    cases size with
    | zero => simp at h
    | succ missing => rfl
  | cons piece rest ih =>
    rw [List.flatten_cons, List.length_append] at h
    cases size with
    | zero => omega
    | succ missing => rw [recvExact, if_neg (by omega), ih (by omega)]

end Pieces

section Readers

variable {σ ρ μ α : Type}

/-- What `count` calls in a row answer. -/
def answers (call : σ → ρ × σ) : Nat → σ → List ρ
  | 0, _ => []
  | count + 1, state => (call state).1 :: answers call count (call state).2

/-- A reader with a view of what it has yet to read: on a stream that starts with a message it
answers that message and keeps the rest, and at the end of the stream it answers `closed`. -/
structure ReadsMessages (call : σ → ρ × σ) (Pending : σ → List α → Prop) (encode : μ → List α)
    (found : μ → ρ) (closed : ρ) (Sent : μ → Prop) : Prop where
  message : ∀ {state m rest}, Sent m → Pending state (encode m ++ rest) →
    (call state).1 = found m ∧ Pending (call state).2 rest
  ending : ∀ {state}, Pending state [] → (call state).1 = closed ∧ Pending (call state).2 []

variable {call : σ → ρ × σ} {Pending : σ → List α → Prop} {encode : μ → List α}
  {found : μ → ρ} {closed : ρ} {Sent : μ → Prop}

theorem ReadsMessages.answers_nil (h : ReadsMessages call Pending encode found closed Sent)
    {state : σ} (hstate : Pending state []) (count : Nat) :
    answers call count state = List.replicate count closed := by
  induction count generalizing state with
  | zero => rfl
  | succ count ih =>
    obtain ⟨hanswer, hnext⟩ := h.ending hstate
    rw [answers, hanswer, ih hnext, List.replicate_succ]

/-- The messages come back in the order they were sent, and nothing after them. -/
theorem ReadsMessages.answers_messages
    (h : ReadsMessages call Pending encode found closed Sent) {messages : List μ}
    (hsent : ∀ m ∈ messages, Sent m) {state : σ}
    (hstate : Pending state (messages.map encode).flatten) (count : Nat) :
    answers call (messages.length + count) state =
      messages.map found ++ List.replicate count closed := by
  induction messages generalizing state with
  | nil =>
    rw [List.length_nil, Nat.zero_add]
    exact h.answers_nil hstate count
  | cons m rest ih =>
    rw [List.map_cons, List.flatten_cons] at hstate
    obtain ⟨hanswer, hnext⟩ := h.message (hsent m List.mem_cons_self) hstate
    have hrest := ih (fun m hm => hsent m (List.mem_cons_of_mem _ hm)) hnext
    rw [List.length_cons, Nat.add_right_comm, answers, hanswer, hrest]
    rfl

end Readers

end OffloadFabric
