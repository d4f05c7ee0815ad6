import Mathlib.Logic.Function.Basic
import SchoolAtlas.Map.Session

/-!
# Waiting Requests

Requests that are started and answered in any order, and the numbers they have.

Events happen one after the other, and the moment of an event is its position. Some
events start a request, some answer one, and an answer names the moment at which its
request started. Nothing else is said about events here, so that requests of all
kinds can be treated alike.

A request that is numbered when it starts has as its number the count of requests up
to its own. When its answer comes, the count of all requests so far is the same
number exactly if no other was started in between: `countP_take_eq_iff`. And a
table of the waiting requests is kept up to date by changing it in one place per
event, which is what `tracks_ask`, `tracks_answer` and `tracks_skip` say.

## Main definitions

* `Waits`: A request has started and has not been answered.
* `Superseded`: A request has been started since.
* `numberAt`: The number of a request.
* `Tracks`: A table holds the waiting requests.

## Theorems

* `waits_succ_iff`: What waits after one more event.
* `countP_take_eq_iff`: Equal numbers mean that nothing was started in between.
* `isCurrent_iff`: A request is the last one exactly if it is not superseded.
* `lt_of_not_superseded`: Answers that are not stale come in the order of requests.
* `tracks_ask`, `tracks_answer`, `tracks_skip`: What an event does to a table.
* `number_le_of_tracks`: No number in a table is greater than the count of all requests.
-/

namespace SchoolAtlas

variable {ε α ρ : Type} (asked? : ε → Option α) (ticket? : ε → Option Nat) (asks : ε → Bool)

/-- The request of a ticket waits at a moment: it started before, and has not been answered
    since. -/
structure Waits (events : List ε) (j t : Nat) (a : α) : Prop where
  before : t < j
  asked : events[t]?.bind asked? = some a
  unanswered : ∀ i e, t < i → i < j → events[i]? = some e → ticket? e ≠ some t

/-- Something was asked for after a ticket and before a moment. -/
def Superseded (events : List ε) (j t : Nat) : Prop :=
  ∃ k e, t < k ∧ k < j ∧ events[k]? = some e ∧ asks e = true

/-- The number of the request that starts at a moment, given the last number before
    everything. -/
def numberAt (start : Nat) (events : List ε) (t : Nat) : Nat :=
  start + (events.take (t + 1)).countP asks

variable {asked? ticket? asks} {events : List ε} {e : ε} {j t : Nat} {a : α}

/-- After one more event, those requests wait that waited and were not answered, and the
    one that just started. -/
theorem waits_succ_iff (he : events[j]? = some e) :
    Waits asked? ticket? events (j + 1) t a ↔
      (Waits asked? ticket? events j t a ∧ ticket? e ≠ some t) ∨ (t = j ∧ asked? e = some a) := by
  constructor
  · intro h
    by_cases htj : t = j
    · have hasked := h.asked
      rw [htj, he, Option.bind_some] at hasked
      exact Or.inr ⟨htj, hasked⟩
    · have hbefore : t < j := by
        have := h.before
        omega
      exact Or.inl ⟨⟨hbefore, h.asked,
        fun i other hi hij hother => h.unanswered i other hi (by omega) hother⟩,
        h.unanswered j e hbefore (Nat.lt_succ_self j) he⟩
  · intro hor
    rcases hor with ⟨h, hticket⟩ | ⟨rfl, hasked⟩
    · refine ⟨Nat.lt_succ_of_lt h.before, h.asked, fun i other hi hij hother => ?_⟩
      by_cases hlast : i = j
      · rw [hlast, he, Option.some.injEq] at hother
        rw [← hother]
        exact hticket
      · exact h.unanswered i other hi (by omega) hother
    -- It has just started, so there was no time to answer it.
    · refine ⟨Nat.lt_succ_self t, by rw [he, Option.bind_some, hasked], ?_⟩
      intro i other hi hij _
      omega

/-- Requests counted up to a ticket and up to a moment are equally many exactly if there
    is none in between. -/
theorem countP_take_eq_iff (htj : t < j) :
    (events.take j).countP asks = (events.take (t + 1)).countP asks ↔
      ¬Superseded asks events j t := by
  induction htj with
  | refl =>
      refine iff_of_true rfl ?_
      intro hex
      rcases hex with ⟨k, other, hk, hkj, _⟩
      omega
  | @step j hj ih =>
      have hle : (events.take (t + 1)).countP asks ≤ (events.take j).countP asks :=
        (List.take_sublist_take_left hj).countP_le
      -- Whatever came in between came before the last event, or is the last event.
      have hsplit : Superseded asks events (j + 1) t ↔
          Superseded asks events j t ∨ ∃ other, events[j]? = some other ∧ asks other = true := by
        constructor
        · intro hex
          rcases hex with ⟨k, other, hk, hkj, hother, hasks⟩
          by_cases hlast : k = j
          · exact Or.inr ⟨other, hlast ▸ hother, hasks⟩
          · exact Or.inl ⟨k, other, hk, by omega, hother, hasks⟩
        · intro hor
          rcases hor with ⟨k, other, hk, hkj, hother, hasks⟩ | ⟨other, hother, hasks⟩
          · exact ⟨k, other, hk, by omega, hother, hasks⟩
          · exact ⟨j, other, hj, Nat.lt_succ_self j, hother, hasks⟩
      rw [List.take_add_one, List.countP_append, hsplit, not_or, ← ih]
      cases hj' : events[j]? with
      | none =>
          simp only [Option.toList_none, List.countP_nil, Nat.add_zero, reduceCtorEq, false_and,
            exists_false, not_false_eq_true, and_true]
      | some e =>
          simp only [Option.toList_some, List.countP_singleton, Option.some.injEq, exists_eq_left']
          by_cases hasks : asks e = true
          · simp only [hasks, if_true, not_true_eq_false, and_false, iff_false]
            omega
          · simp only [hasks, Bool.false_eq_true, if_false, Nat.add_zero, not_false_eq_true,
              and_true]

/-- The number of a request is the last one at a moment exactly if no request was started
    in between. -/
theorem isCurrent_iff {start : Nat} (htj : t < j) :
    Generation.isCurrent ⟨start + (events.take j).countP asks⟩ (numberAt asks start events t) = true
      ↔ ¬Superseded asks events j t := by
  rw [Generation.isCurrent, decide_eq_true_eq, numberAt, Nat.add_left_cancel_iff,
    countP_take_eq_iff htj]

/-- A request that is answered later than another, and is not stale, was also started
    later. -/
theorem lt_of_not_superseded {i t' : Nat} {a' : α}
    (hasks : ∀ e a, asked? e = some a → asks e = true)
    (hfirst : Waits asked? ticket? events i t a) (he : events[i]? = some e)
    (hticket : ticket? e = some t) (hij : i < j)
    (hsecond : Waits asked? ticket? events j t' a') (hfresh : ¬Superseded asks events j t') :
    t < t' := by
  by_contra hlt
  rcases Option.bind_eq_some_iff.mp hfirst.asked with ⟨start, hstart, hasked⟩
  have hbefore := hfirst.before
  by_cases hsame : t' = t
  · -- The second request is the first one, which has already been answered.
    subst hsame
    exact hsecond.unanswered i e hbefore hij he hticket
  -- Otherwise the first request would have been made after the second.
  · exact hfresh ⟨t, start, by omega, by omega, hstart, hasks start a hasked⟩

/-- A table holds the requests that wait at a moment, each with its number. -/
def Tracks (asked? : ε → Option α) (ticket? : ε → Option Nat) (asks : ε → Bool)
    (make : Nat → α → ρ) (start : Nat) (events : List ε) (j : Nat) (table : Nat → Option ρ) :
    Prop :=
  ∀ t request, table t = some request ↔
    ∃ a, Waits asked? ticket? events j t a ∧ request = make (numberAt asks start events t) a

theorem tracks_now {make : Nat → α → ρ} {start : Nat} {table : Nat → Option ρ}
    (h : Tracks asked? ticket? asks make start events j table) : table j = none := by
  rw [Option.eq_none_iff_forall_ne_some]
  intro request hrequest
  rcases (h j request).mp hrequest with ⟨a, hwaits, _⟩
  exact Nat.lt_irrefl j hwaits.before

/-- The count of requests so far is no greater than that of all requests there will be. -/
theorem countP_take_le (start j : Nat) :
    start + (events.take j).countP asks ≤ start + events.countP asks :=
  Nat.add_le_add_left (List.take_sublist j events).countP_le start

/-- The numbers of waiting requests are no greater than that of the last request there will
    be. -/
theorem number_le_of_tracks {make : Nat → α → ρ} {number : ρ → Nat} {start : Nat}
    {table : Nat → Option ρ} {request : ρ} (hnumber : ∀ n a, number (make n a) = n)
    (h : Tracks asked? ticket? asks make start events j table) (ht : table t = some request) :
    number request ≤ start + events.countP asks := by
  rcases (h t request).mp ht with ⟨a, _, rfl⟩
  rw [hnumber, numberAt]
  exact countP_take_le start (t + 1)

/-- One more event changes a table at its own moment, if it starts a request, and at the
    ticket that it answers. -/
theorem tracks_succ {make : Nat → α → ρ} {start : Nat} {table table' : Nat → Option ρ}
    (h : Tracks asked? ticket? asks make start events j table) (he : events[j]? = some e)
    (htable : ∀ t, table' t = if t = j then
        (asked? e).map (make (start + (events.take (j + 1)).countP asks))
      else if ticket? e = some t then none else table t) :
    Tracks asked? ticket? asks make start events (j + 1) table' := by
  intro t request
  rw [htable]
  simp only [waits_succ_iff he]
  by_cases htj : t = j
  · rw [if_pos htj, Option.map_eq_some_iff]
    constructor
    · intro hex
      rcases hex with ⟨a, ha, rfl⟩
      exact ⟨a, Or.inr ⟨htj, ha⟩, by rw [numberAt, htj]⟩
    · intro hex
      rcases hex with ⟨a, ⟨hwaits, _⟩ | ⟨_, ha⟩, rfl⟩
      · have := hwaits.before
        omega
      · exact ⟨a, ha, by rw [numberAt, htj]⟩
  -- At other moments a request is gone if this event answers it, and stays if not.
  · rw [if_neg htj]
    by_cases hticket : ticket? e = some t
    · rw [if_pos hticket]
      simp only [reduceCtorEq, hticket, ne_eq, not_true_eq_false, and_false, htj, false_and,
        or_self, exists_false]
    · rw [if_neg hticket, h t request]
      simp only [ne_eq, hticket, not_false_eq_true, and_true, htj, false_and, or_false]

/-- An event that neither starts a request nor answers one leaves a table as it is. -/
theorem tracks_skip {make : Nat → α → ρ} {start : Nat} {table : Nat → Option ρ}
    (h : Tracks asked? ticket? asks make start events j table) (he : events[j]? = some e)
    (hasked : asked? e = none) (hticket : ticket? e = none) :
    Tracks asked? ticket? asks make start events (j + 1) table := by
  refine tracks_succ h he fun t => ?_
  rw [hasked, hticket, Option.map_none, if_neg (Option.some_ne_none t).symm]
  by_cases htj : t = j
  · rw [if_pos htj, htj, tracks_now h]
  · rw [if_neg htj]

/-- An event that answers a request takes it off a table. -/
theorem tracks_answer {make : Nat → α → ρ} {start : Nat} {table : Nat → Option ρ} {ticket : Nat}
    (h : Tracks asked? ticket? asks make start events j table) (he : events[j]? = some e)
    (hasked : asked? e = none) (hticket : ticket? e = some ticket) :
    Tracks asked? ticket? asks make start events (j + 1) (Function.update table ticket none) := by
  refine tracks_succ h he fun t => ?_
  have hsame : t = ticket ↔ some ticket = some t := by rw [Option.some.injEq, eq_comm]
  rw [hasked, hticket, Option.map_none, Function.update_apply]
  by_cases htj : t = j
  · rw [if_pos htj, htj, tracks_now h, ite_self]
  · rw [if_neg htj]
    exact if_congr hsame rfl rfl

/-- An event that may start a request puts it on a table under its moment. -/
theorem tracks_ask {make : Nat → α → ρ} {start : Nat} {table : Nat → Option ρ}
    (h : Tracks asked? ticket? asks make start events j table) (he : events[j]? = some e)
    (hticket : ticket? e = none) :
    Tracks asked? ticket? asks make start events (j + 1) (Function.update table j
      ((asked? e).map (make (start + (events.take (j + 1)).countP asks)))) := by
  refine tracks_succ h he fun t => ?_
  rw [hticket, Function.update_apply, if_neg (Option.some_ne_none t).symm]

theorem countP_take_succ (asks : ε → Bool) (he : events[j]? = some e) :
    (events.take (j + 1)).countP asks = (events.take j).countP asks + if asks e then 1 else 0 := by
  rw [List.take_add_one, List.countP_append, he, Option.toList_some, List.countP_singleton]

end SchoolAtlas
