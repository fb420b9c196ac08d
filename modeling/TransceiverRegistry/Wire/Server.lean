import TransceiverRegistry.Lib.Run
import TransceiverRegistry.Core.Base
import Mathlib.Logic.Function.Basic

/-!
# Shutdown of the server

Port of `Server::run`, `Server::serve_connection` and `Server::stop` of `wire.cpp` as one
transition system. Accepting a connection, each section under a mutex and each access to a flag is
one step, and the steps of the accept loop, of the workers and of the shutdown interleave in any
order. A connection is named by its number, and so is the worker that serves it.
-/

namespace TransceiverRegistry

open Lib

namespace Server

/-- The bounds of a server (source `ServerOptions`). -/
structure Options where
  maxConnections : UInt32 := 16
  maxRequestsPerConnection : UInt32 := 100000

/-- What a call of `Listener::accept` gives. -/
inductive Accept where
  | connection
  | failure (code : StatusCode)
deriving DecidableEq

/-- Where the accept loop stands (source `Server::run`). -/
inductive RunPoint where
  /-- Before the check that the server is started. -/
  | entering
  /-- At the head of the loop. -/
  | looping
  | accepting
  /-- After `accept` failed. -/
  | failed (code : StatusCode)
  /-- Before the check that the listener is valid. -/
  | probing
  /-- With a connection that is not listed. -/
  | accepted (c : Nat)
  /-- With a connection that has no worker. -/
  | registered (c : Nat)
  | leaving
  | returned (status : Result Unit)

/-- Where a worker stands (source `Server::serve_connection`). -/
inductive WorkerPoint where
  | looping (served : UInt32)
  | serving (served : UInt32)
  | leaving
  | closed
  | finished
deriving DecidableEq

/-- Where the shutdown stands (source `Server::stop`). -/
inductive StopPoint where
  | entering
  | flagged
  | unlistened
  | closing (connections : List Nat)
  | joining (workers : List Nat)
  | returned
deriving DecidableEq

/-- The server, its connections and its threads (source `Server`). -/
structure State where
  stopping : Bool
  running : Bool
  /-- The listener is valid (source `listener_`). -/
  listening : Bool
  /-- The listed connections (source `connections_`). -/
  connections : List Nat
  /-- The threads that nobody took for joining (source `workers_`). -/
  workers : List Nat
  /-- The number of connections accepted so far. -/
  accepted : Nat
  /-- The connections that were closed (source `Connection::closed`). -/
  closed : Nat → Bool
  /-- The workers that were started. -/
  threads : Nat → Option WorkerPoint
  /-- The workers that were joined. -/
  joined : List Nat
  run : RunPoint
  stop : StopPoint

/-- A started server (source `Server::start`). -/
def State.started : State where
  stopping := false
  running := true
  listening := true
  connections := []
  workers := []
  accepted := 0
  closed _ := false
  threads _ := none
  joined := []
  run := .entering
  stop := .entering

/-- Close a connection (source `Server::Connection::close`). -/
def State.close (s : State) (c : Nat) : State :=
  { s with closed := Function.update s.closed c true }

/-- Put the worker of a connection at a point. -/
def State.setWorker (s : State) (c : Nat) (point : WorkerPoint) : State :=
  { s with threads := Function.update s.threads c (some point) }

/-- The next step of the accept loop (source `Server::run`). -/
def runStep (options : Options) (outcome : Accept) (s : State) : Option State :=
  match s.run with
  | .entering =>
    if s.running then some { s with run := .looping }
    else some { s with
      run := .returned (.error (makeError .refused "the server is not started")) }
  | .looping => some { s with run := if s.stopping then .leaving else .accepting }
  | .accepting =>
    match outcome with
    | .connection =>
      if s.listening then
        some { s with accepted := s.accepted + 1, run := .accepted s.accepted }
      else none
    | .failure code => some { s with run := .failed code }
  | .failed code => some { s with
      run := if s.stopping then .leaving
        else if code = .refused ∨ code = .ioError then .probing else .looping }
  | .probing => some { s with run := if s.listening then .looping else .leaving }
  | .accepted c =>
    let listed := s.connections ++ [c]
    if options.maxConnections.toNat < listed.length then
      some ({ s with connections := listed.dropLast, run := .looping }.close c)
    else some { s with connections := listed, run := .registered c }
  | .registered c =>
    some ({ s with workers := s.workers ++ [c], run := .looping }.setWorker c (.looping 0))
  | .leaving => some { s with running := false, run := .returned (.ok ()) }
  | .returned _ => none

/-- The next step of a worker, which `answered` its request or gave the connection up (source
`Server::serve_connection`). -/
def workerStep (options : Options) (c : Nat) (answered : Bool) (s : State) : Option State :=
  match s.threads c with
  | none => none
  | some (.looping served) => some (s.setWorker c
      (if s.stopping = false ∧ served < options.maxRequestsPerConnection then .serving served
      else .leaving))
  | some (.serving served) =>
    some (s.setWorker c (if answered then .looping (served + 1) else .leaving))
  | some .leaving => some ((s.close c).setWorker c .closed)
  | some .closed =>
    some ({ s with connections := s.connections.filter (· ≠ c) }.setWorker c .finished)
  | some .finished => none

/-- The next step of the shutdown, which waits for a worker that it joins
(source `Server::stop`). -/
def stopStep (s : State) : Option State :=
  match s.stop with
  | .entering => some { s with stopping := true, stop := .flagged }
  | .flagged => some { s with listening := false, stop := .unlistened }
  | .unlistened => some { s with stop := .closing s.connections }
  | .closing (c :: rest) => some ({ s with stop := .closing rest }.close c)
  | .closing [] => some { s with workers := [], stop := .joining s.workers }
  | .joining (c :: rest) =>
    if s.threads c = some .finished then
      some { s with joined := s.joined ++ [c], stop := .joining rest }
    else none
  | .joining [] => some { s with running := false, stop := .returned }
  | .returned => none

/-- A step of one of the threads, with what `accept` gives and whether a request was answered, where
the thread is about to call them. -/
inductive Action where
  | run (outcome : Accept)
  | worker (c : Nat) (answered : Bool)
  | stop

/-- The threads take their steps in any order. -/
def step (options : Options) (s : State) : Action → Option State
  | .run outcome => runStep options outcome s
  | .worker c answered => workerStep options c answered s
  | .stop => stopStep s

/-- The accept loop has returned. -/
def RunPoint.hasReturned : RunPoint → Bool
  | .returned _ => true
  | _ => false

/-- The shutdown and the accept loop have returned. -/
def State.Over (s : State) : Prop := s.stop = .returned ∧ s.run.hasReturned = true

instance (s : State) : Decidable s.Over := inferInstanceAs (Decidable (_ ∧ _))

/-- Every worker that was started was joined, and every accepted connection was closed (source
`Server::stop`). -/
def State.ShutDown (s : State) : Prop :=
  (∀ c, (s.threads c).isSome = true → c ∈ s.joined) ∧ ∀ c < s.accepted, s.closed c = true

/-- The shutdown has taken the workers (source `Server::stop`, `workers.swap`). -/
def StopPoint.taken : StopPoint → Bool
  | .joining _ | .returned => true
  | _ => false

/-- A worker is started before the shutdown takes the workers (source `Server::run`,
`workers_.emplace_back`). -/
def startsInTime (s : State) : Action → Bool
  | .run _ => match s.run with
    | .registered _ => !s.stop.taken
    | _ => true
  | _ => true

/-- The connection that the accept loop has not handed to a worker. -/
def RunPoint.held : RunPoint → Option Nat
  | .accepted c | .registered c => some c
  | _ => none

/-- The workers that the shutdown has yet to join. -/
def StopPoint.pending : StopPoint → List Nat
  | .joining workers => workers
  | _ => []

/-- Two states with the same connections and workers. -/
structure SameAccount (s s' : State) : Prop where
  held : s'.run.held = s.run.held
  accepted : s'.accepted = s.accepted
  closed : s'.closed = s.closed
  threads : s'.threads = s.threads
  workers : s'.workers = s.workers
  pending : s'.stop.pending = s.stop.pending
  taken : s'.stop.taken = s.stop.taken
  joined : s'.joined = s.joined

/-- What a step does to the connections and the workers. -/
inductive Change (s s' : State) : Action → Prop where
  /-- Flags and points are read and written. -/
  | flags {action : Action} (same : SameAccount s s') : Change s s' action
  /-- The loop accepts a connection (source `Server::run`, `accept`). -/
  | accept {action : Action} (free : s.run.held = none)
      (written : s' = { s with accepted := s.accepted + 1, run := .accepted s.accepted }) :
      Change s s' action
  /-- The loop closes a connection over the limit (source `Server::run`,
  `connections_.pop_back`). -/
  | drop {action : Action} {c : Nat} {connections : List Nat} (held : s.run.held = some c)
      (written : s' = { s with connections, run := .looping }.close c) : Change s s' action
  /-- The loop starts a worker (source `Server::run`, `workers_.emplace_back`). -/
  | spawn {outcome : Accept} {c : Nat} (point : s.run = .registered c)
      (written : s' = { s with workers := s.workers ++ [c], run := .looping }.setWorker c
        (.looping 0)) : Change s s' (.run outcome)
  /-- A worker goes on serving or leaves its loop (source `Server::serve_connection`). -/
  | work {action : Action} {c : Nat} {old point : WorkerPoint} (thread : s.threads c = some old)
      (going : old ≠ .finished) (open_ : point ≠ .closed ∧ point ≠ .finished)
      (written : s' = s.setWorker c point) : Change s s' action
  /-- A worker closes its connection (source `Server::serve_connection`, after the loop). -/
  | shut {action : Action} {c : Nat} (thread : s.threads c = some .leaving)
      (written : s' = (s.close c).setWorker c .closed) : Change s s' action
  /-- A worker ends (source `Server::serve_connection`, `connections_.erase`). -/
  | finish {action : Action} {c : Nat} {connections : List Nat}
      (thread : s.threads c = some .closed)
      (written : s' = { s with connections }.setWorker c .finished) : Change s s' action
  /-- The shutdown closes a connection (source `Server::stop`, the first loop). -/
  | close {action : Action} {c : Nat} {t : State} (same : SameAccount s t)
      (written : s' = t.close c) : Change s s' action
  /-- The shutdown takes the workers (source `Server::stop`, `workers.swap`). -/
  | take {action : Action} (early : s.stop.taken = false) (none : s.stop.pending = [])
      (written : s' = { s with workers := [], stop := .joining s.workers }) : Change s s' action
  /-- The shutdown joins a worker (source `Server::stop`, the second loop). -/
  | join {action : Action} {c : Nat} {rest : List Nat} (point : s.stop = .joining (c :: rest))
      (finished : s.threads c = some .finished)
      (written : s' = { s with joined := s.joined ++ [c], stop := .joining rest }) :
      Change s s' action

variable {options : Options} {s s' : State} {c : Nat} {action : Action}

/-- What a step of the accept loop does (source `Server::run`). -/
lemma runStep_change {outcome : Accept} (taken : runStep options outcome s = some s') :
    Change s s' (.run outcome) := by
  unfold runStep at taken
  cases point : s.run with
  | entering =>
    rw [point] at taken
    dsimp only at taken
    split at taken <;> cases taken <;>
      exact .flags ⟨by rw [point]; rfl, rfl, rfl, rfl, rfl, rfl, rfl, rfl⟩
  | looping =>
    rw [point] at taken
    cases taken
    exact .flags ⟨by rw [point]; split <;> rfl, rfl, rfl, rfl, rfl, rfl, rfl, rfl⟩
  | accepting =>
    rw [point] at taken
    cases outcome with
    | connection =>
      dsimp only at taken
      split at taken
      · cases taken
        exact .accept (by rw [point]; rfl) rfl
      · cases taken
    | failure code =>
      cases taken
      exact .flags ⟨by rw [point]; rfl, rfl, rfl, rfl, rfl, rfl, rfl, rfl⟩
  | failed code =>
    rw [point] at taken
    cases taken
    refine .flags ⟨?_, rfl, rfl, rfl, rfl, rfl, rfl, rfl⟩
    rw [point]
    split
    · rfl
    · split <;> rfl
  | probing =>
    rw [point] at taken
    cases taken
    exact .flags ⟨by rw [point]; split <;> rfl, rfl, rfl, rfl, rfl, rfl, rfl, rfl⟩
  | accepted c =>
    rw [point] at taken
    dsimp only at taken
    split at taken
    · cases taken
      exact .drop (by rw [point]; rfl) rfl
    · cases taken
      exact .flags ⟨by rw [point]; rfl, rfl, rfl, rfl, rfl, rfl, rfl, rfl⟩
  | registered c =>
    rw [point] at taken
    cases taken
    exact .spawn point rfl
  | leaving =>
    rw [point] at taken
    cases taken
    exact .flags ⟨by rw [point]; rfl, rfl, rfl, rfl, rfl, rfl, rfl, rfl⟩
  | returned status =>
    rw [point] at taken
    cases taken

/-- What a step of a worker does (source `Server::serve_connection`). -/
lemma workerStep_change {answered : Bool} (taken : workerStep options c answered s = some s') :
    Change s s' action := by
  unfold workerStep at taken
  cases thread : s.threads c with
  | none =>
    rw [thread] at taken
    cases taken
  | some point =>
    rw [thread] at taken
    cases point with
    | looping served =>
      cases taken
      exact .work thread (by rintro ⟨⟩) (by split <;> exact ⟨by rintro ⟨⟩, by rintro ⟨⟩⟩) rfl
    | serving served =>
      cases taken
      exact .work thread (by rintro ⟨⟩) (by split <;> exact ⟨by rintro ⟨⟩, by rintro ⟨⟩⟩) rfl
    | leaving =>
      cases taken
      exact .shut thread rfl
    | closed =>
      cases taken
      exact .finish thread rfl
    | finished => cases taken

/-- What a step of the shutdown does (source `Server::stop`). -/
lemma stopStep_change (taken : stopStep s = some s') : Change s s' action := by
  unfold stopStep at taken
  cases point : s.stop with
  | entering | flagged | unlistened =>
    rw [point] at taken
    cases taken
    exact .flags ⟨rfl, rfl, rfl, rfl, rfl, by rw [point]; rfl, by rw [point]; rfl, rfl⟩
  | closing connections =>
    rw [point] at taken
    cases connections with
    | cons c rest =>
      cases taken
      have same : SameAccount s { s with stop := .closing rest } :=
        ⟨rfl, rfl, rfl, rfl, rfl, by rw [point]; rfl, by rw [point]; rfl, rfl⟩
      exact .close same rfl
    | nil =>
      cases taken
      exact .take (by rw [point]; rfl) (by rw [point]; rfl) rfl
  | joining workers =>
    rw [point] at taken
    cases workers with
    | cons c rest =>
      dsimp only at taken
      split at taken
      · rename_i finished
        cases taken
        exact .join point finished rfl
      · cases taken
    | nil =>
      cases taken
      exact .flags ⟨rfl, rfl, rfl, rfl, rfl, by rw [point]; rfl, by rw [point]; rfl, rfl⟩
  | returned =>
    rw [point] at taken
    cases taken

/-- What a step does. -/
lemma step_change (taken : step options s action = some s') : Change s s' action := by
  cases action with
  | run outcome => exact runStep_change taken
  | worker c answered => exact workerStep_change taken
  | stop => exact stopStep_change taken

/-- Every connection and every worker is accounted for. -/
structure Tracked (s : State) : Prop where
  held : ∀ c, s.run.held = some c → c < s.accepted ∧ s.threads c = none
  known : ∀ c, (s.threads c).isSome = true → c < s.accepted
  owned : ∀ c < s.accepted,
    s.run.held = some c ∨ s.closed c = true ∨ (s.threads c).isSome = true
  listed : ∀ c, (c ∈ s.workers ∨ c ∈ s.stop.pending ∨ c ∈ s.joined) ↔
    (s.threads c).isSome = true
  shut : ∀ c, s.threads c = some .closed ∨ s.threads c = some .finished → s.closed c = true
  ended : ∀ c ∈ s.joined, s.threads c = some .finished

/-- A started server has no connections. -/
lemma Tracked.started : Tracked .started where
  held _ h := nomatch h
  known _ h := nomatch h
  owned _ h := nomatch h
  listed c := by simp [State.started, StopPoint.pending]
  shut _ h := by simp [State.started] at h
  ended _ h := nomatch h

/-- A step that only reads or writes flags keeps the account. -/
lemma Tracked.congr (h : Tracked s) (same : SameAccount s s') : Tracked s' := by
  constructor
  · rw [same.held, same.accepted, same.threads]
    exact h.held
  · rw [same.accepted, same.threads]
    exact h.known
  · rw [same.held, same.accepted, same.closed, same.threads]
    exact h.owned
  · rw [same.workers, same.pending, same.joined, same.threads]
    exact h.listed
  · rw [same.threads, same.closed]
    exact h.shut
  · rw [same.joined, same.threads]
    exact h.ended

/-- The closed connections after one more is closed. -/
lemma State.closed_close {d : Nat} : (s.close c).closed d = true ↔ d = c ∨ s.closed d = true := by
  have read : (s.close c).closed d = if d = c then true else s.closed d :=
    Function.update_apply ..
  rw [read]
  split
  · rename_i same
    exact iff_of_true rfl (.inl same)
  · rename_i differ
    exact (or_iff_right differ).symm

/-- The workers after one is put at a point. -/
@[simp] lemma State.threads_setWorker {point : WorkerPoint} {d : Nat} :
    (s.setWorker c point).threads d = if d = c then some point else s.threads d :=
  Function.update_apply ..

/-- Closing a connection keeps the account. -/
lemma Tracked.close (h : Tracked s) (c : Nat) : Tracked (s.close c) where
  held := h.held
  known := h.known
  owned d accepted := by
    rw [State.closed_close]
    obtain held | closed | thread := h.owned d accepted
    · exact .inl held
    · exact .inr (.inl (.inr closed))
    · exact .inr (.inr thread)
  listed := h.listed
  shut d point := State.closed_close.2 (.inr (h.shut d point))
  ended := h.ended

/-- A worker that goes on keeps the account, when its connection is closed at its end. -/
lemma Tracked.setWorker (h : Tracked s) {old point : WorkerPoint} (thread : s.threads c = some old)
    (going : old ≠ .finished)
    (shut : point = .closed ∨ point = .finished → s.closed c = true) :
    Tracked (s.setWorker c point) := by
  have started : ∀ d, ((s.setWorker c point).threads d).isSome = (s.threads d).isSome := by
    intro d
    rw [State.threads_setWorker]
    split
    · rename_i same
      rw [same, thread]
      rfl
    · rfl
  constructor
  · intro d held
    obtain ⟨accepted, none⟩ := h.held d held
    have alive := started d
    rw [none] at alive
    exact ⟨accepted, Option.not_isSome_iff_eq_none.1 (by rw [alive]; exact Bool.false_ne_true)⟩
  · intro d alive
    rw [started] at alive
    exact h.known d alive
  · intro d accepted
    rw [started]
    exact h.owned d accepted
  · intro d
    rw [started]
    exact h.listed d
  · intro d ended
    rw [State.threads_setWorker] at ended
    split at ended
    · rename_i same
      rw [same]
      exact shut (ended.imp Option.some.inj Option.some.inj)
    · exact h.shut d ended
  · intro d member
    have finished := h.ended d member
    rw [State.threads_setWorker]
    split
    · rename_i same
      rw [same, thread] at finished
      exact absurd (Option.some.inj finished) going
    · exact finished

/-- An accepted connection is held by the accept loop (source `Server::run`, `accept`). -/
lemma Tracked.accept (h : Tracked s) (free : s.run.held = none) :
    Tracked { s with accepted := s.accepted + 1, run := .accepted s.accepted } where
  held c held := by
    cases held
    refine ⟨Nat.lt_succ_self _, ?_⟩
    cases thread : s.threads s.accepted with
    | none => rfl
    | some point =>
      exact absurd (h.known s.accepted (by rw [thread]; rfl)) (Nat.lt_irrefl _)
  known c alive := Nat.lt_succ_of_lt (h.known c alive)
  owned c accepted := by
    obtain earlier | rfl := Nat.lt_succ_iff_lt_or_eq.1 accepted
    · obtain held | rest := h.owned c earlier
      · rw [free] at held
        cases held
      · exact .inr rest
    · exact .inl rfl
  listed := h.listed
  shut := h.shut
  ended := h.ended

/-- A connection over the limit is closed by the accept loop (source `Server::run`,
`connections_.pop_back`). -/
lemma Tracked.drop (h : Tracked s) (held : s.run.held = some c) (connections : List Nat) :
    Tracked ({ s with connections, run := .looping }.close c) where
  held d held := nomatch held
  known := h.known
  owned d accepted := by
    rw [State.closed_close]
    obtain held' | closed | thread := h.owned d accepted
    · rw [held] at held'
      cases held'
      exact .inr (.inl (.inl rfl))
    · exact .inr (.inl (.inr closed))
    · exact .inr (.inr thread)
  listed := h.listed
  shut d point := State.closed_close.2 (.inr (h.shut d point))
  ended := h.ended

/-- A connection gets its worker (source `Server::run`, `workers_.emplace_back`). -/
lemma Tracked.spawn (h : Tracked s) (held : s.run.held = some c) :
    Tracked ({ s with workers := s.workers ++ [c], run := .looping }.setWorker c
      (.looping 0)) := by
  obtain ⟨accepted, none⟩ := h.held c held
  have others : ∀ {d}, (s.threads d).isSome = true → d ≠ c := by
    rintro d alive rfl
    rw [none] at alive
    cases alive
  constructor
  · exact fun d held => nomatch held
  · intro d alive
    rw [State.threads_setWorker] at alive
    split at alive
    · rename_i same
      rw [same]
      exact accepted
    · exact h.known d alive
  · intro d before
    rw [State.threads_setWorker]
    obtain held' | closed | alive := h.owned d before
    · rw [held] at held'
      cases held'
      exact .inr (.inr (by rw [if_pos rfl]; rfl))
    · exact .inr (.inl closed)
    · exact .inr (.inr (by rw [if_neg (others alive)]; exact alive))
  · intro d
    rw [State.threads_setWorker]
    have old := h.listed d
    show (d ∈ s.workers ++ [c] ∨ d ∈ s.stop.pending ∨ d ∈ s.joined) ↔ _
    rw [List.mem_append, List.mem_singleton]
    split
    · rename_i same
      exact iff_of_true (.inl (.inr same)) rfl
    · rename_i differ
      rw [or_iff_left differ]
      exact old
  · intro d ended
    rw [State.threads_setWorker] at ended
    split at ended
    · obtain ended | ended := ended <;> cases ended
    · exact h.shut d ended
  · intro d member
    have finished := h.ended d member
    rw [State.threads_setWorker, if_neg (others (by rw [finished]; rfl))]
    exact finished

/-- Taking the workers keeps the account (source `Server::stop`, `workers.swap`). -/
lemma Tracked.take (h : Tracked s) (none : s.stop.pending = []) :
    Tracked { s with workers := [], stop := .joining s.workers } := by
  refine ⟨h.held, h.known, h.owned, fun c => ?_, h.shut, h.ended⟩
  have old := h.listed c
  rw [none] at old
  simpa [StopPoint.pending] using old

/-- Joining a worker keeps the account (source `Server::stop`, the second loop). -/
lemma Tracked.join (h : Tracked s) {rest : List Nat} (point : s.stop = .joining (c :: rest))
    (finished : s.threads c = some .finished) :
    Tracked { s with joined := s.joined ++ [c], stop := .joining rest } := by
  refine ⟨h.held, h.known, h.owned, fun d => ?_, h.shut, fun d member => ?_⟩
  · have old := h.listed d
    rw [point] at old
    rw [← old]
    simp only [StopPoint.pending, List.mem_append, List.mem_cons, List.not_mem_nil, or_false]
    tauto
  · obtain before | now := List.mem_append.1 member
    · exact h.ended d before
    · rw [List.mem_singleton.1 now]
      exact finished

/-- Every step keeps the account. -/
lemma Tracked.step (h : Tracked s) (taken : step options s action = some s') : Tracked s' := by
  cases step_change taken with
  | flags same => exact h.congr same
  | accept free written => exact written ▸ h.accept free
  | drop held written => exact written ▸ h.drop held _
  | spawn point written => exact written ▸ h.spawn (by rw [point]; rfl)
  | work thread going open_ written =>
    have ended {point : WorkerPoint} {c : Nat} (open_ : point ≠ .closed ∧ point ≠ .finished) :
        point = .closed ∨ point = .finished → s.closed c = true :=
      fun ended => ended.elim (fun e => absurd e open_.1) fun e => absurd e open_.2
    exact written ▸ h.setWorker thread going (ended open_)
  | shut thread written =>
    refine written ▸ (h.close _).setWorker thread (by rintro ⟨⟩) fun _ => ?_
    exact State.closed_close.2 (.inl rfl)
  | @finish _ c connections thread written =>
    have unlisted : Tracked { s with connections } :=
      h.congr ⟨rfl, rfl, rfl, rfl, rfl, rfl, rfl, rfl⟩
    exact written ▸ unlisted.setWorker thread (by rintro ⟨⟩) fun _ => h.shut c (.inl thread)
  | close same written => exact written ▸ (h.congr same).close _
  | take _ none written => exact written ▸ h.take none
  | join point finished written => exact written ▸ h.join point finished

/-- Once the shutdown has taken the workers, nobody lists a worker. -/
def Emptied (s : State) : Prop := s.stop.taken = true → s.workers = []

/-- A step that starts no worker late keeps the list of workers empty. -/
lemma Emptied.step (h : Emptied s) (inTime : startsInTime s action = true)
    (taken : Server.step options s action = some s') : Emptied s' := by
  cases step_change taken with
  | flags same =>
    intro late
    rw [same.workers]
    exact h (same.taken ▸ late)
  | spawn point written =>
    subst written
    intro late
    have early : s.stop.taken = false := by simpa [startsInTime, point] using inTime
    have late : s.stop.taken = true := late
    rw [early] at late
    cases late
  | close same written =>
    subst written
    intro late
    show _ = []
    exact same.workers.trans (h (same.taken ▸ late))
  | take _ _ written => exact written ▸ fun _ => rfl
  | join point _ written => exact written ▸ fun _ => h (by rw [point]; rfl)
  | accept _ written => exact written ▸ h
  | drop _ written => exact written ▸ h
  | work _ _ _ written => exact written ▸ h
  | shut _ written => exact written ▸ h
  | finish _ written => exact written ▸ h

/-- A worker was started after the shutdown took the workers, and nobody will join it. -/
def Stranded (s : State) : Prop :=
  s.stop.taken = true ∧ ∃ c ∈ s.workers, c ∉ s.stop.pending ∧ c ∉ s.joined

/-- The only late step starts a worker (source `Server::run`, `workers_.emplace_back`). -/
lemma startsInTime_eq_false (late : startsInTime s action = false) :
    ∃ outcome c, action = .run outcome ∧ s.run = .registered c ∧ s.stop.taken = true := by
  cases action with
  | run outcome =>
    unfold startsInTime at late
    cases point : s.run with
    | registered c => exact ⟨outcome, c, rfl, rfl, by simpa [point] using late⟩
    | _ => simp [point] at late
  | worker c answered => cases late
  | stop => cases late

/-- A worker that is started late is stranded (source `Server::run`, `workers_.emplace_back`). -/
lemma Tracked.strand (h : Tracked s) (late : startsInTime s action = false)
    (taken : Server.step options s action = some s') : Stranded s' := by
  obtain ⟨outcome, c, rfl, point, swapped⟩ := startsInTime_eq_false late
  unfold Server.step runStep at taken
  rw [point] at taken
  cases taken
  have held : s.run.held = some c := by rw [point]; rfl
  have unlisted : ¬ (c ∈ s.workers ∨ c ∈ s.stop.pending ∨ c ∈ s.joined) := by
    rw [h.listed, (h.held c held).2]
    exact Bool.false_ne_true
  rw [not_or, not_or] at unlisted
  exact ⟨swapped, c, List.mem_append_right _ (List.mem_singleton_self c), unlisted.2⟩

/-- A stranded worker stays stranded. -/
lemma Stranded.step (h : Stranded s) (taken : Server.step options s action = some s') :
    Stranded s' := by
  obtain ⟨late, c, listed, notPending, notJoined⟩ := h
  cases step_change taken with
  | flags same =>
    refine ⟨same.taken.trans late, c, ?_, ?_, ?_⟩
    · rw [same.workers]
      exact listed
    · rw [same.pending]
      exact notPending
    · rw [same.joined]
      exact notJoined
  | spawn point written =>
    subst written
    exact ⟨late, c, List.mem_append_left _ listed, notPending, notJoined⟩
  | close same written =>
    subst written
    refine ⟨same.taken.trans late, c, ?_, ?_, ?_⟩
    · exact same.workers ▸ listed
    · exact same.pending ▸ notPending
    · exact same.joined ▸ notJoined
  | take early _ _ =>
    rw [early] at late
    cases late
  | @join _ d rest point _ written =>
    subst written
    rw [point] at notPending
    have differ : c ≠ d := fun same => notPending (same ▸ List.mem_cons_self)
    refine ⟨rfl, c, listed, fun inRest => notPending (List.mem_cons_of_mem _ inRest), ?_⟩
    rw [List.mem_append, List.mem_singleton]
    exact fun either => either.elim notJoined differ
  | accept _ written => exact written ▸ ⟨late, c, listed, notPending, notJoined⟩
  | drop _ written => exact written ▸ ⟨late, c, listed, notPending, notJoined⟩
  | work _ _ _ written => exact written ▸ ⟨late, c, listed, notPending, notJoined⟩
  | shut _ written => exact written ▸ ⟨late, c, listed, notPending, notJoined⟩
  | finish _ written => exact written ▸ ⟨late, c, listed, notPending, notJoined⟩

/-- When both calls have returned and no worker is left, everything was joined and closed. -/
lemma Tracked.shutDown (h : Tracked s) (emptied : Emptied s) (ended : s.Over) : s.ShutDown := by
  obtain ⟨stopped, returned⟩ := ended
  have joined : ∀ c, (s.threads c).isSome = true → c ∈ s.joined := by
    intro c alive
    have none : s.workers = [] := emptied (by rw [stopped]; rfl)
    obtain listed | pending | joined := (h.listed c).2 alive
    · rw [none] at listed
      cases listed
    · rw [stopped] at pending
      cases pending
    · exact joined
  refine ⟨joined, fun c accepted => ?_⟩
  obtain held | closed | alive := h.owned c accepted
  · cases point : s.run <;> rw [point] at held returned <;> cases held <;> cases returned
  · exact closed
  · exact h.shut c (.inr (h.ended c (joined c alive)))

/-- A stranded worker is never joined. -/
lemma Tracked.not_shutDown (h : Tracked s) (stranded : Stranded s) : ¬ s.ShutDown := by
  intro shutDown
  obtain ⟨_, c, listed, _, notJoined⟩ := stranded
  exact notJoined (shutDown.1 c ((h.listed c).1 (.inl listed)))

/-- When the shutdown and the accept loop have returned, every worker was joined and every accepted
connection was closed, if and only if no worker was started after the shutdown took the workers
(source `Server::run`, `Server::stop`). -/
theorem shutdown_joins_iff {actions : List Action}
    (taken : runActions (step options) actions .started = some s) (ended : s.Over) :
    s.ShutDown ↔ runGuarded (step options) startsInTime actions .started = some s := by
  have tracked : Tracked s :=
    (Run.ofActions taken).invariant Tracked .started fun _ _ _ h _ taken => h.step taken
  constructor
  · intro shutDown
    have either := @runGuarded_or _ _ _ _ startsInTime Tracked Stranded
      (fun _ _ _ h taken => h.step taken) (fun _ _ _ h late taken => h.strand late taken)
      (fun _ _ _ _ h taken => h.step taken) _ _ .started taken
    exact either.resolve_right fun stranded => tracked.not_shutDown stranded shutDown
  · intro guarded
    have emptied : Emptied s := (Run.ofGuarded guarded).invariant Emptied
      (fun late => nomatch late) fun _ _ _ h inTime taken => h.step inTime taken
    exact tracked.shutDown emptied ended

/-- The accept loop accepts a connection. -/
def acceptOne : List Action := [.run .connection, .run .connection, .run .connection]

/-- The accept loop starts a worker, and the shutdown closes its connection and joins it. -/
def inOrder : List Action := acceptOne ++ [.run .connection, .run .connection] ++
  [.stop, .stop, .stop, .stop, .stop] ++ [.worker 0 false, .worker 0 false, .worker 0 false] ++
  [.stop, .stop] ++ [.run .connection, .run .connection]

/-- The accept loop starts a worker after the shutdown took the workers. -/
def raced : List Action := acceptOne ++ [.stop, .stop, .stop, .stop, .stop] ++
  [.run .connection, .run .connection, .run .connection, .run .connection]

/-- A worker that is started in time is joined. -/
theorem shutdown_joins_one_worker :
    ∃ s, runActions (step {}) inOrder .started = some s ∧ s.joined = [0] ∧
      (s.ShutDown ↔ runGuarded (step {}) startsInTime inOrder .started = some s) := by
  have runs : (runActions (step {}) inOrder .started).any
      (fun s => s.Over ∧ s.joined = [0]) = true := by decide
  obtain ⟨s, taken, checked⟩ := (Option.any_eq_true _ _).1 runs
  obtain ⟨ended, joined⟩ := of_decide_eq_true checked
  exact ⟨s, taken, joined, shutdown_joins_iff taken ended⟩

/-- A connection that was accepted before the shutdown gets its worker after the workers were taken:
both calls return, the worker is not joined and the connection is open. -/
theorem late_worker_is_not_joined :
    ∃ s, runActions (step {}) raced .started = some s ∧ s.Over ∧ ¬ s.ShutDown ∧
      s.closed 0 = false := by
  have runs : (runActions (step {}) raced .started).any (fun s => s.Over ∧ s.joined = [] ∧
      (s.threads 0).isSome = true ∧ s.closed 0 = false) = true := by decide
  obtain ⟨s, taken, checked⟩ := (Option.any_eq_true _ _).1 runs
  obtain ⟨ended, none, alive, opened⟩ := of_decide_eq_true checked
  refine ⟨s, taken, ended, fun shutDown => ?_, opened⟩
  have joined := shutDown.1 0 alive
  rw [none] at joined
  cases joined

end Server

end TransceiverRegistry
