import Mathlib
import SchoolAtlas.Proofs.Map.Waiting

/-!
# Schedules of Requests

What is shown when requests and answers come in any order.

A session numbers its requests and compares numbers when an answer comes. That is
all it does, and it is meant to do more: an answer is to be shown exactly if nothing
of its kind was asked for in the meantime. This file puts a session behind a desk,
lets events happen to it one after the other, and shows that comparing numbers
comes to just that.

A request is known by its ticket, which is the moment at which it started. The desk
keeps the requests that wait by their tickets. Answers may come for any ticket at
any moment; one for which nothing waits is ignored, so the second answer to a
request changes nothing.

The invariant is `Desk.Follows`. It says of every moment what the desk holds in terms
of the events before it: which requests wait, and that the number of a request is the
number of requests of its kind up to its own. The replies can then be read off the
events. Maps and rosters are tracked by the same lemmas, since the desk does the same
for both.

Numbers are whole numbers here, while a machine counts in words of 64 bits. A desk
that keeps its numbers in words replies the same as long as the requests of neither
kind use the words up, since the invariant bounds every number by the number of
requests of its kind.

## Main definitions

* `Event`, `Desk`, `Desk.step`: What happens to a session, and what it does then.
* `Desk.after`, `Desk.replies`: The desk after events, and what it replied.
* `Session.mapAlone?`, `Session.rosterAlone?`: What a request yields with no other.
* `Desk.wordReplies`: What a desk replies that counts in words.
* `Desk.Follows`: The invariant.
* `Desk.NeverStale`: What is owed to those who ask.

## Theorems

* `Desk.follows_step`, `Desk.follows_after`: The invariant is kept.
* `Desk.wordReplies_eq`: Counting in words makes no difference to fewer requests than there
  are words.
* `Desk.step_map_iff`, `Desk.step_roster_iff`: What is replied with a map or a roster.
* `Desk.replies_map_iff`, `Desk.replies_roster_iff`: What is replied at each moment.
* `Desk.map_order`, `Desk.roster_order`: What is shown is shown in order.
* `Desk.schedule`: Stale answers are never shown, and the last one always is.
-/

namespace SchoolAtlas

/-- What happens to a session. An answer names the moment at which its request
    started. -/
inductive Event where
  | askMap (filters : Filter.State) (statistic : Statistic)
  | askRoster (filters : Filter.State)
  | answerMap (ticket : Nat) (answer : Except QueryError (List RegionRow))
  | answerRoster (ticket : Nat) (answer : Except QueryError (List SchoolRecord))

namespace Event

/-- The map that an event asks for. -/
def map? : Event → Option (Filter.State × Statistic)
  | askMap filters statistic => some (filters, statistic)
  | askRoster _ | answerMap _ _ | answerRoster _ _ => none

/-- The roster that an event asks for, if it has to be waited for. -/
def roster? : Event → Option (Filter.State × RosterQuery)
  | askRoster filters => filters.rosterQuery?.map fun query => (filters, query)
  | askMap _ _ | answerMap _ _ | answerRoster _ _ => none

/-- The ticket of the map that an event answers. -/
def mapTicket? : Event → Option Nat
  | answerMap ticket _ => some ticket
  | askMap _ _ | askRoster _ | answerRoster _ _ => none

/-- The ticket of the roster that an event answers. -/
def rosterTicket? : Event → Option Nat
  | answerRoster ticket _ => some ticket
  | askMap _ _ | askRoster _ | answerMap _ _ => none

/-- Whether an event asks for a map. -/
def asksMap : Event → Bool
  | askMap _ _ => true
  | askRoster _ | answerMap _ _ | answerRoster _ _ => false

/-- Whether an event asks for a roster, be it that of no town. -/
def asksRoster : Event → Bool
  | askRoster _ => true
  | askMap _ _ | answerMap _ _ | answerRoster _ _ => false

theorem asksMap_of_map? {e : Event} {a : Filter.State × Statistic} (h : e.map? = some a) :
    e.asksMap = true := by
  cases e with
  | askMap _ _ => rfl
  | askRoster _ => exact absurd h (by simp only [map?, reduceCtorEq, not_false_eq_true])
  | answerMap _ _ => exact absurd h (by simp only [map?, reduceCtorEq, not_false_eq_true])
  | answerRoster _ _ => exact absurd h (by simp only [map?, reduceCtorEq, not_false_eq_true])

/-- Only asking for a roster asks for one. -/
theorem roster?_eq_some_iff {e : Event} {filters : Filter.State} {query : RosterQuery} :
    e.roster? = some (filters, query) ↔
      e = askRoster filters ∧ filters.rosterQuery? = some query := by
  cases e with
  | askRoster asked =>
      rw [roster?, Option.map_eq_some_iff, askRoster.injEq]
      constructor
      · intro hex
        rcases hex with ⟨other, hother, heq⟩
        rw [Prod.mk.injEq] at heq
        exact ⟨heq.1, by rw [← heq.1, ← heq.2, hother]⟩
      · intro hex
        rcases hex with ⟨rfl, hquery⟩
        exact ⟨query, hquery, rfl⟩
  | askMap _ _ => simp only [roster?, reduceCtorEq, false_and]
  | answerMap _ _ => simp only [roster?, reduceCtorEq, false_and]
  | answerRoster _ _ => simp only [roster?, reduceCtorEq, false_and]

end Event

/-- What comes of an event: a request starts to wait, an answer is ignored, or a request
    is over and shows something or nothing. -/
inductive Reply where
  | waiting
  | ignored
  | map (ticket : Nat) (view? : Option MapView)
  | roster (ticket : Nat) (schools? : Option (List SchoolRecord))

/-- A session with the requests that wait for an answer, by their tickets. -/
structure Desk where
  session : Session
  /-- The number of events so far. -/
  clock : Nat
  maps : Nat → Option MapRequest
  rosters : Nat → Option RosterRequest

namespace Desk

/-- The desk of a session before anything has happened. -/
def ofSession (s : Session) : Desk := ⟨s, 0, fun _ => none, fun _ => none⟩

/-- What an event does. -/
def step (d : Desk) : Event → Desk × Reply
  | .askMap filters statistic =>
    let (session, request) := d.session.startMap filters statistic
    ({ d with
        session
        clock := d.clock + 1
        maps := Function.update d.maps d.clock (some request) }, .waiting)
  | .askRoster filters =>
    let (session, request?) := d.session.startRoster filters
    ({ d with
        session
        clock := d.clock + 1
        rosters := Function.update d.rosters d.clock request? },
      match request? with
      | some _ => .waiting
      | none => .roster d.clock (some []))
  | .answerMap ticket answer =>
    ({ d with clock := d.clock + 1, maps := Function.update d.maps ticket none },
      match d.maps ticket with
      | some request => .map ticket (d.session.answerMap? request answer)
      | none => .ignored)
  | .answerRoster ticket answer =>
    ({ d with clock := d.clock + 1, rosters := Function.update d.rosters ticket none },
      match d.rosters ticket with
      | some request => .roster ticket (d.session.answerRoster? request answer)
      | none => .ignored)

/-- The desk after events. -/
def after (d : Desk) (events : List Event) : Desk := events.foldl (fun d e => (d.step e).1) d

/-- What comes of events, one after the other. -/
def replies (d : Desk) : List Event → List Reply
  | [] => []
  | e :: rest => (d.step e).2 :: (d.step e).1.replies rest

/-- The desk with every number cut down to a word of 64 bits. -/
def inWords (d : Desk) : Desk :=
  { d with
    session := { d.session with
      maps := ⟨d.session.maps.latest % 2 ^ 64⟩
      rosters := ⟨d.session.rosters.latest % 2 ^ 64⟩ }
    maps := fun t => (d.maps t).map fun request =>
      { request with number := request.number % 2 ^ 64 }
    rosters := fun t => (d.rosters t).map fun request =>
      { request with number := request.number % 2 ^ 64 } }

/-- What comes of events if numbers are kept in words. After the greatest word comes zero
    again. -/
def wordReplies (d : Desk) : List Event → List Reply
  | [] => []
  | e :: rest => (d.step e).2 :: (d.step e).1.inWords.wordReplies rest

theorem getElem?_replies (d : Desk) (events : List Event) (j : Nat) :
    (d.replies events)[j]? = events[j]?.map (fun e => ((d.after (events.take j)).step e).2) := by
  induction events generalizing d j with
  | nil => rfl
  | cons e rest ih =>
      cases j with
      | zero => rfl
      | succ j =>
          rw [replies, List.getElem?_cons_succ, List.getElem?_cons_succ, List.take_succ_cons, ih]
          rfl

end Desk

namespace Session

/-- What a map request yields when its answer comes with nothing in between. -/
def mapAlone? (s : Session) (filters : Filter.State) (statistic : Statistic)
    (answer : Except QueryError (List RegionRow)) : Option MapView :=
  let (s, request) := s.startMap filters statistic
  s.answerMap? request answer

/-- What a roster request yields when its answer comes with nothing in between. -/
def rosterAlone? (s : Session) (filters : Filter.State)
    (answer : Except QueryError (List SchoolRecord)) : Option (List SchoolRecord) :=
  let (s, request?) := s.startRoster filters
  match request? with
  | some request => s.answerRoster? request answer
  | none => some []

theorem mapAlone?_eq (s : Session) (filters : Filter.State) (statistic : Statistic)
    (answer : Except QueryError (List RegionRow)) :
    s.mapAlone? filters statistic answer
      = some (s.view filters statistic (answer.toOption.getD [])) :=
  answerMap?_startMap s filters statistic answer

/-- A roster request that has to be waited for shows its own answer. -/
theorem rosterAlone?_eq (s : Session) {filters : Filter.State} {query : RosterQuery}
    (h : filters.rosterQuery? = some query) (answer : Except QueryError (List SchoolRecord)) :
    s.rosterAlone? filters answer = some (schoolsOf answer) := by
  rw [rosterAlone?, startRoster, h]
  simp only [Option.map_some, answerRoster?, Generation.isCurrent, decide_true, if_true]

end Session

namespace Desk

variable {s : Session} {events : List Event} {j t : Nat} {d : Desk} {e : Event}

/-- The desk at a moment, in terms of the events before it: nothing about the session has
    changed but its numbers, which count the requests of each kind, and the requests that
    wait are those that the events leave waiting. -/
structure Follows (s : Session) (events : List Event) (j : Nat) (d : Desk) : Prop where
  clock : d.clock = j
  session : d.session =
    { s with
      maps := ⟨s.maps.latest + (events.take j).countP Event.asksMap⟩
      rosters := ⟨s.rosters.latest + (events.take j).countP Event.asksRoster⟩ }
  maps : Tracks Event.map? Event.mapTicket? Event.asksMap (fun n a => ⟨n, a.1, a.2⟩)
    s.maps.latest events j d.maps
  rosters : Tracks Event.roster? Event.rosterTicket? Event.asksRoster (fun n a => ⟨n, a.2⟩)
    s.rosters.latest events j d.rosters

/-- Nothing has happened at first, and nothing waits. -/
theorem follows_ofSession (s : Session) (events : List Event) :
    Follows s events 0 (ofSession s) where
  clock := rfl
  session := rfl
  maps t request := iff_of_false (by simp only [ofSession, reduceCtorEq, not_false_eq_true])
    (fun ⟨_, h, _⟩ => Nat.not_lt_zero t h.before)
  rosters t request := iff_of_false (by simp only [ofSession, reduceCtorEq, not_false_eq_true])
    (fun ⟨_, h, _⟩ => Nat.not_lt_zero t h.before)

/-- Every event keeps the invariant. -/
theorem follows_step (h : Follows s events j d) (he : events[j]? = some e) :
    Follows s events (j + 1) (d.step e).1 := by
  have hmaps := countP_take_succ Event.asksMap he
  have hrosters := countP_take_succ Event.asksRoster he
  cases e with
  | askMap filters statistic =>
      -- The number given out is the count with this request in it.
      have htable := tracks_ask h.maps he rfl
      have hskip := tracks_skip h.rosters he rfl rfl
      simp only [Event.asksMap, Event.asksRoster, if_true, Bool.false_eq_true, if_false,
        Nat.add_zero] at hmaps hrosters
      refine ⟨congrArg (· + 1) h.clock, ?_, ?_, hskip⟩
      · simp only [step, Session.startMap, h.session, Generation.next, hmaps, hrosters,
          Nat.add_assoc]
      · simp only [step, Session.startMap, h.session, h.clock, Generation.next]
        rw [hmaps, ← Nat.add_assoc] at htable
        exact htable
  | askRoster filters =>
      have htable := tracks_ask h.rosters he rfl
      have hskip := tracks_skip h.maps he rfl rfl
      simp only [Event.asksMap, Event.asksRoster, if_true, Bool.false_eq_true, if_false,
        Nat.add_zero] at hmaps hrosters
      refine ⟨congrArg (· + 1) h.clock, ?_, hskip, ?_⟩
      · simp only [step, Session.startRoster, h.session, Generation.next, hmaps, hrosters,
          Nat.add_assoc]
      · simp only [step, Session.startRoster, h.session, h.clock, Generation.next]
        rw [hrosters, ← Nat.add_assoc, Event.roster?, Option.map_map] at htable
        exact htable
  | answerMap ticket answer =>
      refine ⟨congrArg (· + 1) h.clock, ?_, tracks_answer h.maps he rfl rfl,
        tracks_skip h.rosters he rfl rfl⟩
      simp only [Event.asksMap, Event.asksRoster, Bool.false_eq_true, if_false,
        Nat.add_zero] at hmaps hrosters
      rw [hmaps, hrosters]
      exact h.session
  | answerRoster ticket answer =>
      refine ⟨congrArg (· + 1) h.clock, ?_, tracks_skip h.maps he rfl rfl,
        tracks_answer h.rosters he rfl rfl⟩
      simp only [Event.asksMap, Event.asksRoster, Bool.false_eq_true, if_false,
        Nat.add_zero] at hmaps hrosters
      rw [hmaps, hrosters]
      exact h.session

theorem follows_after (s : Session) (events : List Event) (hj : j ≤ events.length) :
    Follows s events j ((ofSession s).after (events.take j)) := by
  induction j with
  | zero =>
      rw [List.take_zero]
      exact follows_ofSession s events
  | succ j ih =>
      have he : events[j]? = some events[j] := List.getElem?_eq_getElem hj
      rw [List.take_add_one, he, Option.toList_some, after, List.foldl_append]
      exact follows_step (ih (Nat.le_of_succ_le hj)) he

/-- Every number on a desk is a word. -/
structure FitsWords (d : Desk) : Prop where
  lastMap : d.session.maps.latest < 2 ^ 64
  lastRoster : d.session.rosters.latest < 2 ^ 64
  maps : ∀ t request, d.maps t = some request → request.number < 2 ^ 64
  rosters : ∀ t request, d.rosters t = some request → request.number < 2 ^ 64

/-- A table is not changed by changing its entries into themselves. -/
theorem map_table_eq {ρ : Type} {table : Nat → Option ρ} {cut : ρ → ρ}
    (h : ∀ t request, table t = some request → cut request = request) :
    (fun t => (table t).map cut) = table := by
  funext t
  cases hrequest : table t with
  | none => rfl
  | some request => exact congrArg some (h t request hrequest)

/-- Where every number is a word, nothing is cut down. -/
theorem inWords_eq (h : d.FitsWords) : d.inWords = d := by
  have hmaps : ∀ t request, d.maps t = some request →
      { request with number := request.number % 2 ^ 64 } = request := by
    intro t request hrequest
    rw [Nat.mod_eq_of_lt (h.maps t request hrequest)]
  have hrosters : ∀ t request, d.rosters t = some request →
      { request with number := request.number % 2 ^ 64 } = request := by
    intro t request hrequest
    rw [Nat.mod_eq_of_lt (h.rosters t request hrequest)]
  rw [inWords, map_table_eq hmaps, map_table_eq hrosters, Nat.mod_eq_of_lt h.lastMap,
    Nat.mod_eq_of_lt h.lastRoster]

/-- With words for all requests of a kind, its numbers are words at every moment. -/
theorem fitsWords_of_follows (h : Follows s events j d)
    (hmaps : s.maps.latest + events.countP Event.asksMap < 2 ^ 64)
    (hrosters : s.rosters.latest + events.countP Event.asksRoster < 2 ^ 64) : d.FitsWords where
  lastMap := by
    rw [h.session]
    exact Nat.lt_of_le_of_lt (countP_take_le _ j) hmaps
  lastRoster := by
    rw [h.session]
    exact Nat.lt_of_le_of_lt (countP_take_le _ j) hrosters
  maps _ _ hrequest :=
    Nat.lt_of_le_of_lt (number_le_of_tracks (fun _ _ => rfl) h.maps hrequest) hmaps
  rosters _ _ hrequest :=
    Nat.lt_of_le_of_lt (number_le_of_tracks (fun _ _ => rfl) h.rosters hrequest) hrosters

/-- If all numbers are words all the time, keeping them in words changes no reply. -/
theorem wordReplies_eq_of_fitsWords
    (h : ∀ j ≤ events.length, (d.after (events.take j)).FitsWords) :
    d.wordReplies events = d.replies events := by
  induction events generalizing d with
  | nil => rfl
  | cons e rest ih =>
      -- Nothing is cut down after the first event, so the rest starts from the same desk.
      have hnext : (d.step e).1.FitsWords := h 1 (Nat.succ_le_succ (Nat.zero_le _))
      rw [wordReplies, replies, inWords_eq hnext]
      exact congrArg _ (ih fun j hj => h (j + 1) (Nat.succ_le_succ hj))

/-- A desk may count in words for as long as there are words for the requests of each
    kind. -/
theorem wordReplies_eq (s : Session) (events : List Event)
    (hmaps : s.maps.latest + events.countP Event.asksMap < 2 ^ 64)
    (hrosters : s.rosters.latest + events.countP Event.asksRoster < 2 ^ 64) :
    (ofSession s).wordReplies events = (ofSession s).replies events :=
  wordReplies_eq_of_fitsWords fun _ hj =>
    fitsWords_of_follows (follows_after s events hj) hmaps hrosters

/-- An answer to a waiting map is shown as if there had been no other request, unless a map
    was asked for in the meantime: then nothing is shown. -/
theorem answerMap?_eq (h : Follows s events j d) {filters : Filter.State} {statistic : Statistic}
    (hwaits : Waits Event.map? Event.mapTicket? events j t (filters, statistic))
    (answer : Except QueryError (List RegionRow)) (result : Option MapView) :
    result = d.session.answerMap?
        ⟨numberAt Event.asksMap s.maps.latest events t, filters, statistic⟩ answer ↔
      (¬Superseded Event.asksMap events j t ∧ result = s.mapAlone? filters statistic answer) ∨
        (Superseded Event.asksMap events j t ∧ result = none) := by
  have hcurrent : d.session.maps.isCurrent (numberAt Event.asksMap s.maps.latest events t) = true
      ↔ ¬Superseded Event.asksMap events j t := by
    rw [h.session]
    exact isCurrent_iff hwaits.before
  rw [Session.answerMap?, Session.mapAlone?_eq]
  by_cases hlater : Superseded Event.asksMap events j t
  -- A later request has raised the number.
  · rw [if_neg (fun hc => hcurrent.mp hc hlater)]
    simp only [hlater, not_true_eq_false, false_and, true_and, false_or]
  · rw [if_pos (hcurrent.mpr hlater), h.session]
    simp only [hlater, not_false_eq_true, true_and, false_and, or_false]
    rfl

/-- An answer to a waiting roster is shown as if there had been no other request, unless a
    roster was asked for in the meantime: then nothing is shown. -/
theorem answerRoster?_eq (h : Follows s events j d) {filters : Filter.State} {query : RosterQuery}
    (hwaits : Waits Event.roster? Event.rosterTicket? events j t (filters, query))
    (answer : Except QueryError (List SchoolRecord)) (result : Option (List SchoolRecord)) :
    result = d.session.answerRoster?
        ⟨numberAt Event.asksRoster s.rosters.latest events t, query⟩ answer ↔
      (¬Superseded Event.asksRoster events j t ∧ result = s.rosterAlone? filters answer) ∨
        (Superseded Event.asksRoster events j t ∧ result = none) := by
  rcases Option.bind_eq_some_iff.mp hwaits.asked with ⟨e, _, hasked⟩
  have hquery := (Event.roster?_eq_some_iff.mp hasked).2
  -- A roster of no town raises the number too, although nobody waits for it.
  have hcurrent : d.session.rosters.isCurrent
      (numberAt Event.asksRoster s.rosters.latest events t) = true
      ↔ ¬Superseded Event.asksRoster events j t := by
    rw [h.session]
    exact isCurrent_iff hwaits.before
  rw [Session.answerRoster?, Session.rosterAlone?_eq s hquery]
  by_cases hlater : Superseded Event.asksRoster events j t
  · rw [if_neg (fun hc => hcurrent.mp hc hlater)]
    simp only [hlater, not_true_eq_false, false_and, true_and, false_or]
  · rw [if_pos (hcurrent.mpr hlater)]
    simp only [hlater, not_false_eq_true, true_and, false_and, or_false]

/-- Only an answer to a waiting map is replied to with a map. -/
theorem step_map_iff {result : Option MapView} :
    (d.step e).2 = .map t result ↔
      ∃ answer request, e = .answerMap t answer ∧ d.maps t = some request ∧
        result = d.session.answerMap? request answer := by
  cases e with
  | askMap filters statistic => simp only [step, reduceCtorEq, false_and, exists_false]
  | askRoster filters =>
      simp only [step, reduceCtorEq, false_and, exists_false, iff_false]
      split <;> exact Reply.noConfusion
  | answerMap ticket answer =>
      simp only [step, Event.answerMap.injEq]
      cases hwaiting : d.maps ticket with
      | none =>
          simp only [reduceCtorEq, false_iff, not_exists]
          intro other request hex
          rcases hex with ⟨⟨rfl, _⟩, hrequest, _⟩
          -- Nothing waits under the ticket, so the answer was ignored.
          exact absurd (hwaiting.symm.trans hrequest) (Option.some_ne_none request).symm
      | some request =>
          rw [Reply.map.injEq]
          constructor
          · intro hex
            rcases hex with ⟨rfl, hresult⟩
            exact ⟨answer, request, ⟨rfl, rfl⟩, hwaiting, hresult.symm⟩
          · intro hex
            rcases hex with ⟨other, request', ⟨rfl, rfl⟩, hrequest, hresult⟩
            rw [hwaiting, Option.some.injEq] at hrequest
            exact ⟨rfl, by rw [hresult, hrequest]⟩
  | answerRoster ticket answer =>
      simp only [step, reduceCtorEq, false_and, exists_false, iff_false]
      split <;> exact Reply.noConfusion

/-- Two things are replied to with a roster: asking for the roster of no town, and an
    answer to a waiting roster. -/
theorem step_roster_iff {result : Option (List SchoolRecord)} :
    (d.step e).2 = .roster t result ↔
      (∃ filters, e = .askRoster filters ∧ filters.openTown? = none ∧ t = d.clock ∧
        result = some []) ∨
      ∃ answer request, e = .answerRoster t answer ∧ d.rosters t = some request ∧
        result = d.session.answerRoster? request answer := by
  cases e with
  | askMap filters statistic =>
      simp only [step, reduceCtorEq, false_and, exists_false, or_self]
  | askRoster filters =>
      simp only [step, Session.startRoster, reduceCtorEq, false_and, exists_false, or_false,
        Event.askRoster.injEq, exists_eq_left']
      -- Only without an open town is the reply there at once.
      cases htown : filters.openTown? with
      | none =>
          rw [Filter.State.rosterQuery?, htown]
          simp only [Option.map_none, Reply.roster.injEq, true_and, eq_comm]
      | some town =>
          rw [Filter.State.rosterQuery?, htown]
          simp only [Option.map_some, reduceCtorEq, false_and]
  | answerMap ticket answer =>
      simp only [step, reduceCtorEq, false_and, exists_false, or_self, iff_false]
      split <;> exact Reply.noConfusion
  | answerRoster ticket answer =>
      simp only [step, Event.answerRoster.injEq, reduceCtorEq, false_and, exists_false, false_or]
      cases hwaiting : d.rosters ticket with
      | none =>
          simp only [reduceCtorEq, false_iff, not_exists]
          intro other request hex
          rcases hex with ⟨⟨rfl, _⟩, hrequest, _⟩
          exact absurd (hwaiting.symm.trans hrequest) (Option.some_ne_none request).symm
      | some request =>
          rw [Reply.roster.injEq]
          constructor
          · intro hex
            rcases hex with ⟨rfl, hresult⟩
            exact ⟨answer, request, ⟨rfl, rfl⟩, hwaiting, hresult.symm⟩
          · intro hex
            rcases hex with ⟨other, request', ⟨rfl, rfl⟩, hrequest, hresult⟩
            rw [hwaiting, Option.some.injEq] at hrequest
            exact ⟨rfl, by rw [hresult, hrequest]⟩

/-- When a map is replied with: at the answer to a map that waits. The reply is what the
    request yields on its own, unless a map was asked for in the meantime. -/
theorem replies_map_iff (s : Session) (events : List Event) (j t : Nat)
    (result : Option MapView) :
    ((ofSession s).replies events)[j]? = some (.map t result) ↔
      ∃ filters statistic answer, events[j]? = some (.answerMap t answer) ∧
        Waits Event.map? Event.mapTicket? events j t (filters, statistic) ∧
        ((¬Superseded Event.asksMap events j t ∧ result = s.mapAlone? filters statistic answer) ∨
          (Superseded Event.asksMap events j t ∧ result = none)) := by
  rw [getElem?_replies, Option.map_eq_some_iff]
  constructor
  · intro hex
    rcases hex with ⟨e, he, hreply⟩
    have hfollows := follows_after s events (Nat.le_of_lt (List.getElem?_eq_some_iff.mp he).1)
    -- The desk has a request for the ticket only if the events left it waiting.
    rcases step_map_iff.mp hreply with ⟨answer, request, rfl, hrequest, hresult⟩
    rcases (hfollows.maps t request).mp hrequest with ⟨⟨filters, statistic⟩, hwaits, rfl⟩
    exact ⟨filters, statistic, answer, he, hwaits,
      (answerMap?_eq hfollows hwaits answer result).mp hresult⟩
  · intro hex
    rcases hex with ⟨filters, statistic, answer, he, hwaits, hresult⟩
    have hfollows := follows_after s events (Nat.le_of_lt (List.getElem?_eq_some_iff.mp he).1)
    have hrequest := (hfollows.maps t _).mpr ⟨_, hwaits, rfl⟩
    exact ⟨_, he, step_map_iff.mpr ⟨answer, _, rfl, hrequest,
      (answerMap?_eq hfollows hwaits answer result).mpr hresult⟩⟩

/-- When a roster is replied with: at once if no town is open, and otherwise at the answer
    to a roster that waits. That reply is what the request yields on its own, unless a
    roster was asked for in the meantime, be it that of no town. -/
theorem replies_roster_iff (s : Session) (events : List Event) (j t : Nat)
    (result : Option (List SchoolRecord)) :
    ((ofSession s).replies events)[j]? = some (.roster t result) ↔
      (∃ filters, events[j]? = some (.askRoster filters) ∧ filters.openTown? = none ∧ t = j ∧
        result = some []) ∨
      ∃ filters query answer, events[j]? = some (.answerRoster t answer) ∧
        Waits Event.roster? Event.rosterTicket? events j t (filters, query) ∧
        ((¬Superseded Event.asksRoster events j t ∧ result = s.rosterAlone? filters answer) ∨
          (Superseded Event.asksRoster events j t ∧ result = none)) := by
  rw [getElem?_replies, Option.map_eq_some_iff]
  constructor
  · intro hex
    rcases hex with ⟨e, he, hreply⟩
    have hfollows := follows_after s events (Nat.le_of_lt (List.getElem?_eq_some_iff.mp he).1)
    rcases step_roster_iff.mp hreply with ⟨filters, rfl, htown, ht, hresult⟩ |
      ⟨answer, request, rfl, hrequest, hresult⟩
    -- The roster of no town is replied with when it is asked for.
    · rw [hfollows.clock] at ht
      exact Or.inl ⟨filters, he, htown, ht, hresult⟩
    · rcases (hfollows.rosters t request).mp hrequest with ⟨⟨filters, query⟩, hwaits, rfl⟩
      exact Or.inr ⟨filters, query, answer, he, hwaits,
        (answerRoster?_eq hfollows hwaits answer result).mp hresult⟩
  · intro hor
    rcases hor with ⟨filters, he, htown, ht, hresult⟩ |
      ⟨filters, query, answer, he, hwaits, hresult⟩
    · have hfollows := follows_after s events (Nat.le_of_lt (List.getElem?_eq_some_iff.mp he).1)
      rw [← hfollows.clock] at ht
      exact ⟨_, he, step_roster_iff.mpr (Or.inl ⟨filters, rfl, htown, ht, hresult⟩)⟩
    · have hfollows := follows_after s events (Nat.le_of_lt (List.getElem?_eq_some_iff.mp he).1)
      have hrequest := (hfollows.rosters t _).mpr ⟨_, hwaits, rfl⟩
      exact ⟨_, he, step_roster_iff.mpr (Or.inr ⟨answer, _, rfl, hrequest,
        (answerRoster?_eq hfollows hwaits answer result).mpr hresult⟩)⟩

/-- Maps are shown in the order in which they were asked for. -/
theorem map_order {i t' : Nat} {view view' : MapView} (hij : i < j)
    (hi : ((ofSession s).replies events)[i]? = some (.map t (some view)))
    (hj : ((ofSession s).replies events)[j]? = some (.map t' (some view'))) : t < t' := by
  rcases (replies_map_iff s events i t _).mp hi with ⟨_, _, answer, he, hwaits, _⟩
  rcases (replies_map_iff s events j t' _).mp hj with ⟨_, _, _, _, hwaits', hfresh | hstale⟩
  · exact lt_of_not_superseded (fun _ _ => Event.asksMap_of_map?) hwaits he rfl hij hwaits'
      hfresh.1
  · exact absurd hstale.2 (Option.some_ne_none view')

/-- Rosters are shown in the order in which they were asked for. -/
theorem roster_order {i t' : Nat} {schools schools' : List SchoolRecord} (hij : i < j)
    (hi : ((ofSession s).replies events)[i]? = some (.roster t (some schools)))
    (hj : ((ofSession s).replies events)[j]? = some (.roster t' (some schools'))) : t < t' := by
  have hasks : ∀ (e : Event) (a : Filter.State × RosterQuery), e.roster? = some a →
      e.asksRoster = true := by
    intro e a ha
    rw [(Event.roster?_eq_some_iff.mp ha).1]
    rfl
  rcases (replies_roster_iff s events j t' _).mp hj with ⟨_, _, _, ht', _⟩ |
    ⟨_, _, _, _, hwaits', hfresh | hstale⟩
  · -- The second roster was shown when it was asked for, which is later than everything.
    rcases (replies_roster_iff s events i t _).mp hi with ⟨_, _, _, ht, _⟩ | ⟨_, _, _, _, hwaits, _⟩
    · omega
    · have := hwaits.before
      omega
  · rcases (replies_roster_iff s events i t _).mp hi with ⟨filters, he, htown, ht, _⟩ |
      ⟨_, _, answer, he, hwaits, _⟩
    · by_contra hlt
      by_cases hsame : t' = i
      · -- Where a roster is shown at once, none starts to wait.
        have hasked := hwaits'.asked
        rw [hsame, he, Option.bind_some, Event.roster?_eq_some_iff,
          Filter.State.rosterQuery?] at hasked
        rw [← (Event.askRoster.inj hasked.1), htown, Option.map_none] at hasked
        exact absurd hasked.2.symm (Option.some_ne_none _)
      · exact hfresh.1 ⟨i, _, by omega, hij, he, rfl⟩
    · exact lt_of_not_superseded hasks hwaits he rfl hij hwaits' hfresh.1
  · exact absurd hstale.2 (Option.some_ne_none schools')

/-- What is owed to those who ask. The fields are about the replies to events: what is
    replied and when, in which order it is shown, that the last request is shown, and what
    a request yields on its own. -/
structure NeverStale (s : Session) (events : List Event) (replies : List Reply) : Prop where
  /-- A map is replied with at the answer to a map that waits. It is what the request yields
      on its own, or nothing if another map was asked for in the meantime. -/
  maps : ∀ (j t : Nat) (result : Option MapView), replies[j]? = some (.map t result) ↔
    ∃ filters statistic answer, events[j]? = some (.answerMap t answer) ∧
      Waits Event.map? Event.mapTicket? events j t (filters, statistic) ∧
      ((¬Superseded Event.asksMap events j t ∧ result = s.mapAlone? filters statistic answer) ∨
        (Superseded Event.asksMap events j t ∧ result = none))
  /-- A roster of no town is empty and there at once. Any other is replied with at the answer
      to a roster that waits, and is nothing if another roster was asked for in the
      meantime, be it that of no town. -/
  rosters : ∀ (j t : Nat) (result : Option (List SchoolRecord)),
    replies[j]? = some (.roster t result) ↔
      (∃ filters, events[j]? = some (.askRoster filters) ∧ filters.openTown? = none ∧ t = j ∧
        result = some []) ∨
      ∃ filters query answer, events[j]? = some (.answerRoster t answer) ∧
        Waits Event.roster? Event.rosterTicket? events j t (filters, query) ∧
        ((¬Superseded Event.asksRoster events j t ∧ result = s.rosterAlone? filters answer) ∨
          (Superseded Event.asksRoster events j t ∧ result = none))
  map_order : ∀ (i j t t' : Nat) (view view' : MapView), i < j →
    replies[i]? = some (.map t (some view)) → replies[j]? = some (.map t' (some view')) → t < t'
  roster_order : ∀ (i j t t' : Nat) (schools schools' : List SchoolRecord), i < j →
    replies[i]? = some (.roster t (some schools)) →
    replies[j]? = some (.roster t' (some schools')) → t < t'
  last_map : ∀ (j t : Nat) filters statistic answer, events[j]? = some (.answerMap t answer) →
    Waits Event.map? Event.mapTicket? events j t (filters, statistic) →
    (∀ k e, t < k → events[k]? = some e → e.asksMap = false) →
    replies[j]? = some (.map t (s.mapAlone? filters statistic answer))
  last_roster : ∀ (j t : Nat) filters query answer, events[j]? = some (.answerRoster t answer) →
    Waits Event.roster? Event.rosterTicket? events j t (filters, query) →
    (∀ k e, t < k → events[k]? = some e → e.asksRoster = false) →
    replies[j]? = some (.roster t (s.rosterAlone? filters answer))
  /-- On its own every map request is shown, and a failure as an answer without rows. -/
  map_alone : ∀ filters statistic answer, s.mapAlone? filters statistic answer
    = some (s.view filters statistic (answer.toOption.getD []))
  roster_alone : ∀ filters query answer, filters.rosterQuery? = some query →
    s.rosterAlone? filters answer = some (answer.toOption.getD [])

/-- What is owed is delivered, if numbers are whole numbers. -/
theorem neverStale_replies (s : Session) (events : List Event) :
    NeverStale s events ((ofSession s).replies events) := by
  -- The last request of its kind cannot be superseded.
  have hfresh : ∀ {asks : Event → Bool} {j t : Nat},
      (∀ k e, t < k → events[k]? = some e → asks e = false) → ¬Superseded asks events j t := by
    intro asks j t hlast hex
    rcases hex with ⟨k, e, hk, _, he, hasks⟩
    rw [hlast k e hk he] at hasks
    exact Bool.noConfusion hasks
  refine ⟨replies_map_iff s events, replies_roster_iff s events, ?_, ?_, ?_, ?_, ?_, ?_⟩
  · intro i j t t' view view' hij hi hj
    exact map_order hij hi hj
  · intro i j t t' schools schools' hij hi hj
    exact roster_order hij hi hj
  · intro j t filters statistic answer he hwaits hlast
    rw [replies_map_iff]
    exact ⟨filters, statistic, answer, he, hwaits, Or.inl ⟨hfresh hlast, rfl⟩⟩
  · intro j t filters query answer he hwaits hlast
    rw [replies_roster_iff]
    exact Or.inr ⟨filters, query, answer, he, hwaits, Or.inl ⟨hfresh hlast, rfl⟩⟩
  · exact s.mapAlone?_eq
  · intro filters query answer hquery
    exact s.rosterAlone?_eq hquery answer

/-- Whatever happens to a session, in whatever order: an answer is shown exactly if nothing
    of its kind was asked for between the request and the answer. So what is shown is shown
    in the order in which it was asked for, and the last request of either kind is shown as
    soon as it is answered. All of it holds of numbers of 64 bits too, while there is a
    number for every request of a kind. -/
theorem schedule (s : Session) (events : List Event) :
    NeverStale s events ((ofSession s).replies events) ∧
      (s.maps.latest + events.countP Event.asksMap < 2 ^ 64 →
        s.rosters.latest + events.countP Event.asksRoster < 2 ^ 64 →
        NeverStale s events ((ofSession s).wordReplies events)) := by
  refine ⟨neverStale_replies s events, fun hmaps hrosters => ?_⟩
  rw [wordReplies_eq s events hmaps hrosters]
  exact neverStale_replies s events

/-- A session that has one colour for everything. -/
def plainSession : Session :=
  ⟨default, .default, ⟨[⟨0.0, 0.0, 0.0⟩], List.cons_ne_nil _ _⟩, .zero, .zero⟩

/-- Two requests for a map, and their answers in the same order. -/
def twoMaps : List Event :=
  [.askMap .initial .schools, .askMap .initial .grades, .answerMap 0 (.ok []),
    .answerMap 1 (.error .overflow)]

/-- The first answer is stale when it comes. The second is shown, although it reports a
    failure, and it is shown as well if numbers are words. -/
theorem schedule_twoMaps :
    ((ofSession plainSession).replies twoMaps)[2]? = some (.map 0 none) ∧
      ((ofSession plainSession).replies twoMaps)[3]?
        = some (.map 1 (some (plainSession.view .initial .grades []))) ∧
      ((ofSession plainSession).wordReplies twoMaps)[3]?
        = some (.map 1 (some (plainSession.view .initial .grades []))) := by
  have h := (schedule plainSession twoMaps).1
  have hwords := (schedule plainSession twoMaps).2 (by decide) (by decide)
  have hfirst : Waits Event.map? Event.mapTicket? twoMaps 2 0 (.initial, .schools) := by
    refine ⟨by omega, rfl, fun i e hi hij he => ?_⟩
    obtain rfl : i = 1 := by omega
    rw [← Option.some.inj he]
    exact (Option.some_ne_none 0).symm
  have hsecond : Waits Event.map? Event.mapTicket? twoMaps 3 1 (.initial, .grades) := by
    refine ⟨by omega, rfl, fun i e hi hij he => ?_⟩
    obtain rfl : i = 2 := by omega
    rw [← Option.some.inj he]
    exact fun hticket => absurd (Option.some.inj hticket) (by decide)
  -- No request follows the second, so it is the last one.
  have hlast : ∀ k e, 1 < k → twoMaps[k]? = some e → e.asksMap = false := by
    intro k e hk he
    match k, hk with
    | 2, _ => rw [← Option.some.inj he]; rfl
    | 3, _ => rw [← Option.some.inj he]; rfl
    | k + 4, _ => exact absurd he.symm (Option.some_ne_none e)
  refine ⟨?_, ?_, ?_⟩
  · refine (h.maps 2 0 none).mpr ⟨_, _, _, rfl, hfirst, Or.inr ⟨?_, rfl⟩⟩
    exact ⟨1, _, by omega, by omega, rfl, rfl⟩
  · have hshown := h.last_map 3 1 _ _ _ rfl hsecond hlast
    rw [h.map_alone] at hshown
    exact hshown
  · have hshown := hwords.last_map 3 1 _ _ _ rfl hsecond hlast
    rw [hwords.map_alone] at hshown
    exact hshown

end Desk

end SchoolAtlas
