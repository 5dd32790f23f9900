import ReverseSocks.Config.Client

/-! # The client's reconnect loop

    `main` in the client's `main.cpp` sleeps `delay_ms` between sessions and doubles it up to
    `reconnect_delay_max_ms`, in `int`, with `Sleep` reading the delay as a `DWORD`.

    With both values below `2^30` the delays double up to the maximum
    (`delayAt_closed_form`, `reconnect_sleeps_bounded`). The command line allows any `int`,
    and then a doubling wraps to a negative delay that sleeps at least `2^31` ms
    (`reconnect_sleep_unbounded`).
-/

namespace ReverseSocks

/-- A 32-bit `int` multiplication's result: the value modulo `2^32`, read in
    `INT_MIN .. INT_MAX`. -/
def wrapInt (x : Int) : Int := (x + 2 ^ 31) % 2 ^ 32 - 2 ^ 31

/-- `static_cast<DWORD>` of an `int`. -/
def dword (x : Int) : Nat := (x % 2 ^ 32).toNat

theorem wrapInt_of_isInt {x : Int} (h : IsInt x) : wrapInt x = x := by
  simp only [IsInt, INT_MIN, INT_MAX] at h
  rw [wrapInt, Int.emod_eq_of_lt (by omega) (by omega)]
  omega

theorem dword_of_nonneg {x : Int} (h₀ : 0 ≤ x) (h₁ : x < 2 ^ 32) : dword x = x.toNat := by
  rw [dword, Int.emod_eq_of_lt h₀ h₁]

theorem dword_of_neg {x : Int} (h₀ : -2 ^ 32 ≤ x) (h₁ : x < 0) : (dword x : Int) = x + 2 ^ 32 := by
  rw [dword, Int.toNat_of_nonneg (Int.emod_nonneg _ (by decide))]
  have : x % 2 ^ 32 = x + 2 ^ 32 := by
    rw [← Int.add_mul_emod_self (b := 1), Int.emod_eq_of_lt (by omega) (by omega)]; omega
  exact this

/-- One step of the backoff: `(std::min)(delay_ms * 2, reconnect_delay_max_ms)`. -/
def backoff (maxMs delay : Int) : Int := min (wrapInt (delay * 2)) maxMs

/-- `delay_ms` before the sleep after the `k`-th dropped session, counting from 0. -/
def delayAt (initialMs maxMs : Int) (k : Nat) : Int := (backoff maxMs)^[k] initialMs

/-- The reconnect loop of `main` from `delay_ms`. Each session that returns comes with whether
    `g_shutdown` was set by then; the result is the argument of every `Sleep` made. -/
def reconnectLoop (maxMs delay : Int) : List Bool → List Nat
  | [] => []
  | shutdown :: rest =>
    if shutdown then [] else dword delay :: reconnectLoop maxMs (backoff maxMs delay) rest

/-- The loop as `main` starts it, from the configured initial delay. -/
def reconnectSleeps (cfg : AppConfig) (sessions : List Bool) : List Nat :=
  reconnectLoop cfg.reconnectDelayMaxMs cfg.reconnectDelayInitialMs sessions

/-- The sleeps of a run are the delays in order, up to the first shutdown. -/
theorem reconnectLoop_eq (initialMs maxMs : Int) (sessions : List Bool) :
    reconnectLoop maxMs initialMs sessions =
      (List.range (sessions.takeWhile (· = false)).length).map
        fun k => dword (delayAt initialMs maxMs k) := by
  induction sessions generalizing initialMs with
  | nil => rfl
  | cons b rest ih =>
    cases b with
    | true => rfl
    | false =>
      simp only [reconnectLoop, ih, Bool.false_eq_true, if_false, List.takeWhile_cons,
        decide_True, if_true, List.length_cons, List.range_succ_eq_map, List.map_cons,
        List.map_map]
      rfl

/-! ## Without wrap-around -/

section bounded

variable {initialMs maxMs : Int}

/-- With both settings in `0 .. 2^30 - 1`, the delay after `k + 1` drops is the initial delay
    doubled `k + 1` times, capped by the maximum. -/
theorem delayAt_closed_form (h₀ : 0 ≤ initialMs) (h₁ : initialMs < 2 ^ 30) (h₂ : 0 ≤ maxMs)
    (h₃ : maxMs < 2 ^ 30) (k : Nat) :
    delayAt initialMs maxMs (k + 1) = min (initialMs * 2 ^ (k + 1)) maxMs := by
  induction k with
  | zero =>
    simp only [delayAt, Function.iterate_one, backoff, zero_add, pow_one]
    rw [wrapInt_of_isInt (by simp only [IsInt, INT_MIN, INT_MAX]; omega)]
  | succ k ih =>
    rw [delayAt, Function.iterate_succ_apply', ← delayAt, ih, backoff]
    have hp : (0 : Int) ≤ initialMs * 2 ^ (k + 1) := by positivity
    rw [wrapInt_of_isInt (by simp only [IsInt, INT_MIN, INT_MAX]; omega), pow_succ _ (k + 1),
      ← mul_assoc]
    omega

/-- With both settings in `0 .. 2^30 - 1`, every sleep of every run lasts at most the larger
    of the initial delay and the maximum. -/
theorem reconnect_sleeps_bounded (cfg : AppConfig) (h₀ : 0 ≤ cfg.reconnectDelayInitialMs)
    (h₁ : cfg.reconnectDelayInitialMs < 2 ^ 30) (h₂ : 0 ≤ cfg.reconnectDelayMaxMs)
    (h₃ : cfg.reconnectDelayMaxMs < 2 ^ 30) (sessions : List Bool) :
    ∀ d ∈ reconnectSleeps cfg sessions,
      (d : Int) ≤ max cfg.reconnectDelayInitialMs cfg.reconnectDelayMaxMs := by
  intro d hd
  rw [reconnectSleeps, reconnectLoop_eq] at hd
  obtain ⟨k, -, rfl⟩ := List.mem_map.1 hd
  cases k with
  | zero => rw [delayAt, Function.iterate_zero_apply, dword_of_nonneg h₀ (by omega)]; omega
  | succ k =>
    have hp : (0 : Int) ≤ cfg.reconnectDelayInitialMs * 2 ^ (k + 1) := by positivity
    rw [delayAt_closed_form h₀ h₁ h₂ h₃, dword_of_nonneg (by omega) (by omega)]
    omega

/-- The defaults: 1 s, 2 s, 4 s, never over a minute. -/
theorem reconnect_sleeps_bounded_default :
    (0 : Int) ≤ 1000 ∧ (1000 : Int) < 2 ^ 30 ∧ (0 : Int) ≤ 60000 ∧ (60000 : Int) < 2 ^ 30 ∧
    ∀ d ∈ reconnectSleeps {} [false, false, false, true], (d : Int) ≤ max 1000 60000 :=
  ⟨by decide, by decide, by decide, by decide,
    reconnect_sleeps_bounded {} (by decide) (by decide) (by decide) (by decide) _⟩

end bounded

/-! ## With wrap-around -/

theorem isInt_wrapInt (x : Int) : IsInt (wrapInt x) := by
  have h₀ := Int.emod_nonneg (x + 2 ^ 31) (by decide : (2 : Int) ^ 32 ≠ 0)
  have h₁ := Int.emod_lt_of_pos (x + 2 ^ 31) (by decide : (0 : Int) < 2 ^ 32)
  simp only [IsInt, INT_MIN, INT_MAX, wrapInt]
  omega

theorem isInt_delayAt {initialMs maxMs : Int} (hi : IsInt initialMs) (hm : IsInt maxMs) (k : Nat) :
    IsInt (delayAt initialMs maxMs k) := by
  induction k with
  | zero => exact hi
  | succ k _ =>
    rw [delayAt, Function.iterate_succ_apply', ← delayAt, backoff]
    have := isInt_wrapInt (delayAt initialMs maxMs k * 2)
    simp only [IsInt] at *
    omega

/-- A delay of at least `2^30` doubles past `INT_MAX` into a negative `int`, below any
    nonnegative maximum, and `Sleep` reads it as at least `2^31`. -/
theorem dword_backoff_of_ge {maxMs d : Int} (hm : 0 ≤ maxMs) (hd : IsInt d) (h : 2 ^ 30 ≤ d) :
    2 ^ 31 ≤ dword (backoff maxMs d) := by
  simp only [IsInt, INT_MIN, INT_MAX] at hd
  have hw : wrapInt (d * 2) = d * 2 - 2 ^ 32 := by
    rw [wrapInt, ← Int.add_mul_emod_self (b := -1), Int.emod_eq_of_lt (by omega) (by omega)]
    omega
  have hb : backoff maxMs d = d * 2 - 2 ^ 32 := by rw [backoff, hw]; omega
  have := dword_of_neg (x := backoff maxMs d) (by omega) (by omega)
  omega

/-- From a positive initial delay and a maximum of at least `2^30`, the delay doubles each time
    while it stays below `2^30`. -/
theorem delayAt_doubling {initialMs maxMs : Int} (hi : 0 < initialMs) (hm : 2 ^ 30 ≤ maxMs)
    (k : Nat) (h : ∀ j ≤ k, delayAt initialMs maxMs j < 2 ^ 30) :
    2 ^ k ≤ delayAt initialMs maxMs k := by
  induction k with
  | zero => simpa [delayAt] using hi
  | succ k ih =>
    have hk := ih fun j hj => h j (by omega)
    have hlt := h k (by omega)
    have : (0 : Int) < 2 ^ k := by positivity
    have hlt' := h (k + 1) le_rfl
    rw [delayAt, Function.iterate_succ_apply', ← delayAt, backoff] at hlt' ⊢
    rw [wrapInt_of_isInt (by simp only [IsInt, INT_MIN, INT_MAX]; omega)] at hlt' ⊢
    rw [pow_succ]
    omega

/-- Outside `0 .. 2^30 - 1` the maximum does not bound the sleeps. From a positive initial
    delay and a maximum of at least `2^30`, or from a negative initial delay, the delay reaches,
    within 32 sleeps, a value that `Sleep` reads as at least `2^31` ms: every run that reconnects
    32 times sleeps that long, longer than any `int` maximum. -/
theorem reconnect_sleep_unbounded (cfg : AppConfig) (hi : IsInt cfg.reconnectDelayInitialMs)
    (hm : IsInt cfg.reconnectDelayMaxMs)
    (h : cfg.reconnectDelayInitialMs < 0 ∨
      (0 < cfg.reconnectDelayInitialMs ∧ 2 ^ 30 ≤ cfg.reconnectDelayMaxMs))
    (sessions : List Bool) (hs : 32 ≤ (sessions.takeWhile (· = false)).length) :
    ∃ d ∈ reconnectSleeps cfg sessions, 2 ^ 31 ≤ d := by
  suffices ∃ k < 32, 2 ^ 31 ≤ dword (delayAt cfg.reconnectDelayInitialMs cfg.reconnectDelayMaxMs k) by
    obtain ⟨k, hk, hd⟩ := this
    have hmem : dword (delayAt cfg.reconnectDelayInitialMs cfg.reconnectDelayMaxMs k) ∈
        reconnectSleeps cfg sessions := by
      rw [reconnectSleeps, reconnectLoop_eq]
      exact List.mem_map.2 ⟨k, List.mem_range.2 (by omega), rfl⟩
    exact ⟨_, hmem, hd⟩
  rcases h with h | ⟨h₀, h₁⟩
  · refine ⟨0, by omega, ?_⟩
    simp only [IsInt, INT_MIN] at hi
    have := dword_of_neg (x := cfg.reconnectDelayInitialMs) (by omega) h
    rw [delayAt, Function.iterate_zero_apply]
    omega
  · by_cases hj : ∃ j ≤ 30, 2 ^ 30 ≤ delayAt cfg.reconnectDelayInitialMs cfg.reconnectDelayMaxMs j
    · obtain ⟨j, hj, hd⟩ := hj
      refine ⟨j + 1, by omega, ?_⟩
      rw [delayAt, Function.iterate_succ_apply', ← delayAt]
      exact dword_backoff_of_ge (by omega) (isInt_delayAt hi hm j) hd
    · push_neg at hj
      have := delayAt_doubling h₀ h₁ 30 hj
      have := hj 30 le_rfl
      omega

/-- A maximum of `2^30` ms from the default initial delay: within 32 reconnects a sleep of at
    least `2^31` ms. -/
theorem reconnect_sleep_unbounded_max :
    ∃ d ∈ reconnectSleeps { reconnectDelayMaxMs := 2 ^ 30 } (List.replicate 32 false), 2 ^ 31 ≤ d :=
  reconnect_sleep_unbounded _ (by decide) (by decide) (.inr ⟨by decide, by decide⟩) _ (by decide)

end ReverseSocks
