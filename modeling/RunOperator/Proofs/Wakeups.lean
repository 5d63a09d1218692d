import RunOperator.Token.Basic

/-!
# No cancellation is missed

Any number of tasks wait for a token and any number cancel it, and their steps are made in any
order. The flag is set exactly when a canceller has made its first step, who has returned has read
it, and once a canceller has completed no waiter sleeps without having been woken
(`Token.Vigilant`). From then on none falls asleep any more (`Token.Awake`), so that every waiter
that goes on returns after it has read the flag once (`Token.Awake.left_after`).
-/

namespace RunOperator

/-- What happens next around a token. -/
inductive TokenAction where
  /-- A task begins to wait. -/
  | wait
  /-- A task is about to cancel the token. -/
  | prepare
  /-- A waiter makes its next step. -/
  | waiter (number : Nat)
  /-- A canceller makes its next step. -/
  | canceller (number : Nat)
  deriving DecidableEq

/-- The canceller has set the flag. -/
def Canceller.hasFlagged : Canceller → Bool
  | ready => false
  | flagged | completed => true

namespace Waiter

variable {flag : Bool} {w w' : Waiter}

/-- What a step of a waiter can be. -/
inductive Step (flag : Bool) : Waiter → Waiter → Prop where
  | subscribes : Step flag ready (subscribed false)
  | returns {woken : Bool} : flag = true → Step flag (subscribed woken) returned
  | suspends {woken : Bool} : flag = false → Step flag (subscribed woken) (suspended woken)
  | wakes : Step flag (suspended true) ready

/-- A step that is made is one of these. -/
theorem step_of_step? (h : w.step? flag = some w') : Step flag w w' := by
  cases w with
  | ready =>
    cases h
    exact .subscribes
  | subscribed woken =>
    cases flag <;> cases h
    · exact .suspends rfl
    · exact .returns rfl
  | suspended woken =>
    cases woken <;> cases h
    exact .wakes
  | returned => cases h

/-- A waiter can go on unless it has returned, or sleeps and was not woken. -/
theorem step?_eq_none_iff : w.step? flag = none ↔ w = returned ∨ w = suspended false := by
  cases w with
  | suspended woken => cases woken <;> simp [step?]
  | _ => simp [step?]

/-- A waiter that makes some steps makes the first of them, if it can, and then the others. -/
theorem run_succ (flag : Bool) (count : Nat) (w : Waiter) :
    run flag (count + 1) w = run flag count ((w.step? flag).getD w) := by
  cases hstep : w.step? flag with
  | some w' => rw [run, hstep, Option.getD_some]
  | none =>
    rw [run, hstep, Option.getD_none]
    cases count with
    | zero => rfl
    | succ count => rw [run, hstep]

/-- The steps to the return of a waiter, once the flag is set. -/
def stepsLeft : Waiter → Nat
  | ready => 2
  | subscribed _ => 1
  | suspended _ => 3
  | returned => 0

/-- The times that a waiter reads the flag before its return, once the flag is set. -/
def checksLeft : Waiter → Nat
  | returned => 0
  | _ => 1

/-- The next step of the waiter reads the flag. -/
def isChecking : Waiter → Bool
  | subscribed _ => true
  | _ => false

/-- A waiter has no steps left if and only if it has returned. -/
theorem stepsLeft_eq_zero_iff : w.stepsLeft = 0 ↔ w = returned := by
  cases w <;> simp [stepsLeft]

/-- A waiter has never more steps left than a check takes. -/
theorem stepsLeft_le (w : Waiter) : w.stepsLeft ≤ stepsPerCheck := by
  cases w <;> simp [stepsLeft, stepsPerCheck]

/-- A waiter has at most one check left. -/
theorem checksLeft_le (w : Waiter) : w.checksLeft ≤ 1 := by
  cases w <;> simp [checksLeft]

/-- Once the flag is set, each step brings a waiter nearer to its return. -/
theorem Step.left (h : Step true w w') :
    w.stepsLeft = w'.stepsLeft + 1 ∧ w.checksLeft = w'.checksLeft + w.isChecking.toNat := by
  cases h with
  | subscribes | returns _ | wakes => exact ⟨rfl, rfl⟩
  | suspends hflag => cases hflag

/-- Whoever sleeps when a notification comes is woken. -/
theorem suspended_notMem_notified (ws : List Waiter) : suspended false ∉ ws.map notified := by
  intro hsleeps
  obtain ⟨w, -, hw⟩ := List.mem_map.1 hsleeps
  cases w <;> cases hw

/-- A notification neither makes a step of a waiter nor saves it one. -/
theorem left_notified (w : Waiter) :
    w.notified.stepsLeft = w.stepsLeft ∧ w.notified.checksLeft = w.checksLeft := by
  cases w <;> exact ⟨rfl, rfl⟩

end Waiter

namespace Token

variable {t t' : Token} {number : Nat} {w : Waiter} {a : TokenAction}

/-- The token after an action. A step that cannot be made leaves it as it is. -/
def act (t : Token) : TokenAction → Token
  | .wait => t.addWaiter.2
  | .prepare => t.addCanceller.2
  | .waiter number => (t.stepWaiter? number).getD t
  | .canceller number => (t.stepCanceller? number).getD t

/-- The token after a history. -/
def after (t : Token) (h : List TokenAction) : Token := h.foldl act t

/-- Actions that follow others go on from what those leave. -/
theorem after_append (t : Token) (first second : List TokenAction) :
    t.after (first ++ second) = (t.after first).after second := List.foldl_append

/-- The action is a step of the waiter in which it reads the flag. -/
def isCheckOf (t : Token) (number : Nat) (a : TokenAction) : Bool :=
  a == .waiter number && (t.waiters[number]?).any Waiter.isChecking

/-- How often a waiter reads the flag in a history. -/
def checks (t : Token) (number : Nat) : List TokenAction → Nat
  | [] => 0
  | a :: h => (t.isCheckOf number a).toNat + (t.act a).checks number h

/-! ### What an action does -/

/-- What an action can do to a token, and the token after each. -/
inductive Effect (t : Token) : TokenAction → Token → Prop where
  | begins : Effect t .wait { t with waiters := t.waiters ++ [.ready] }
  | prepares : Effect t .prepare { t with cancellers := t.cancellers ++ [.ready] }
  /-- There is no such waiter, or it cannot go on. -/
  | stays {n : Nat} : (∀ w, t.waiters[n]? = some w → w.step? t.flag = none) →
      Effect t (.waiter n) t
  | steps {n : Nat} {w w' : Waiter} : t.waiters[n]? = some w → w.Step t.flag w' →
      Effect t (.waiter n) { t with waiters := t.waiters.set n w' }
  /-- There is no such canceller, or it has completed. -/
  | rests {n : Nat} : Effect t (.canceller n) t
  | flags {n : Nat} : t.cancellers[n]? = some .ready →
      Effect t (.canceller n) { t with flag := true, cancellers := t.cancellers.set n .flagged }
  | notifies {n : Nat} : t.cancellers[n]? = some .flagged →
      Effect t (.canceller n) { t with
        waiters := t.waiters.map .notified
        cancellers := t.cancellers.set n .completed }

/-- Every action does one of these things. -/
theorem effect_act (t : Token) (a : TokenAction) : t.Effect a (t.act a) := by
  cases a with
  | wait => exact .begins
  | prepare => exact .prepares
  | waiter n =>
    cases hw : t.waiters[n]? with
    | none =>
      rw [act, stepWaiter?, hw]
      exact .stays fun w h => by cases hw.symm.trans h
    | some w =>
      cases hstep : w.step? t.flag with
      | none =>
        simp only [act, stepWaiter?, hw, hstep, Option.bind_eq_bind, Option.bind_some,
          Option.bind_none, Option.getD_none]
        refine .stays fun w' h => ?_
        obtain rfl := Option.some.inj (hw.symm.trans h)
        exact hstep
      | some w' =>
        simp only [act, stepWaiter?, hw, hstep, Option.bind_eq_bind, Option.bind_some]
        exact .steps hw (Waiter.step_of_step? hstep)
  | canceller n =>
    rw [act, stepCanceller?]
    split
    · next hready => exact .flags hready
    · next hflagged => exact .notifies hflagged
    · exact .rests

/-- A flag that is set stays so. -/
theorem Effect.flag (heffect : t.Effect a t') (hflag : t.flag = true) : t'.flag = true := by
  cases heffect with
  | flags _ => rfl
  | _ => exact hflag

/-- Once the flag is set nobody falls asleep: who sleeps and was not woken slept before. -/
theorem Effect.slept (heffect : t.Effect a t') (hflag : t.flag = true)
    (hsleeps : .suspended false ∈ t'.waiters) : .suspended false ∈ t.waiters := by
  cases heffect with
  | begins => simpa using hsleeps
  | steps _ hstep =>
    rcases List.mem_or_eq_of_mem_set hsleeps with hsleeps | rfl
    · exact hsleeps
    · cases hstep with
      | suspends hunset => exact Bool.noConfusion (hunset.symm.trans hflag)
  | notifies _ => exact absurd hsleeps (Waiter.suspended_notMem_notified _)
  | _ => exact hsleeps

/-! ### The flag, the cancellers and the sleepers -/

/-- What holds of a token at any time. -/
structure Vigilant (t : Token) : Prop where
  /-- The flag is set if and only if a canceller has set it. -/
  flag_iff : t.flag = true ↔ ∃ c ∈ t.cancellers, c.hasFlagged = true
  returned : .returned ∈ t.waiters → t.flag = true
  /-- When a canceller has completed, every sleeper was woken. -/
  woken : .completed ∈ t.cancellers → .suspended false ∉ t.waiters

/-- A fresh token is vigilant. -/
theorem vigilant_fresh : fresh.Vigilant where
  flag_iff := by simp [fresh]
  returned := by simp [fresh]
  woken := by simp [fresh]

/-- When a canceller has completed, the flag is set. -/
theorem Vigilant.flag_of_completed (h : t.Vigilant) (hcompleted : .completed ∈ t.cancellers) :
    t.flag = true :=
  h.flag_iff.2 ⟨.completed, hcompleted, rfl⟩

/-- The token stays vigilant, whoever makes the next step. -/
theorem Vigilant.act (h : t.Vigilant) (a : TokenAction) : (t.act a).Vigilant := by
  have heffect := t.effect_act a
  generalize t.act a = t' at heffect ⊢
  -- A canceller that has completed has set the flag before.
  have hwoken (hcompleted : .completed ∈ t.cancellers) : .suspended false ∉ t'.waiters :=
    fun hsleeps => h.woken hcompleted (heffect.slept (h.flag_of_completed hcompleted) hsleeps)
  cases heffect with
  | stays _ | rests => exact h
  | begins => exact ⟨h.flag_iff, by simpa using h.returned, hwoken⟩
  | prepares =>
    refine ⟨?_, h.returned, ?_⟩
    · simpa [or_and_right, exists_or, Canceller.hasFlagged] using h.flag_iff
    · simpa using h.woken
  | steps _ hstep =>
    refine ⟨h.flag_iff, fun hreturned => ?_, hwoken⟩
    rcases List.mem_or_eq_of_mem_set hreturned with hreturned | rfl
    · exact h.returned hreturned
    · cases hstep
      assumption
  | @flags n hready =>
    have hlt := (List.getElem?_eq_some_iff.1 hready).1
    refine ⟨?_, fun _ => rfl, ?_⟩
    · simp only [true_iff]
      exact ⟨.flagged, List.mem_set hlt _, rfl⟩
    · intro hcompleted
      rcases List.mem_or_eq_of_mem_set hcompleted with hcompleted | heq
      · exact h.woken hcompleted
      · cases heq
  | @notifies n hflagged =>
    have hlt := (List.getElem?_eq_some_iff.1 hflagged).1
    have hflag : t.flag = true := h.flag_iff.2 ⟨.flagged, List.mem_of_getElem? hflagged, rfl⟩
    refine ⟨?_, fun _ => hflag, fun _ => Waiter.suspended_notMem_notified _⟩
    exact iff_of_true hflag ⟨.completed, List.mem_set hlt _, rfl⟩

/-- A token is vigilant after any actions. -/
theorem vigilant_after (h : List TokenAction) : (fresh.after h).Vigilant :=
  List.foldlRecOn h Token.act vigilant_fresh fun _ ht a _ => ht.act a

/-! ### Waiters of a cancelled token -/

/-- The token was cancelled, and no waiter sleeps without having been woken. -/
structure Awake (t : Token) : Prop where
  flag : t.flag = true
  woken : .suspended false ∉ t.waiters

/-- A vigilant token is awake once a canceller has completed. -/
theorem Vigilant.awake (h : t.Vigilant) (hcompleted : .completed ∈ t.cancellers) : t.Awake :=
  ⟨h.flag_of_completed hcompleted, h.woken hcompleted⟩

/-- A token that is awake stays so, whoever makes the next step. -/
theorem Awake.act (h : t.Awake) (a : TokenAction) : (t.act a).Awake where
  flag := (t.effect_act a).flag h.flag
  woken hsleeps := h.woken ((t.effect_act a).slept h.flag hsleeps)

/-- Its own steps bring a waiter nearer to its return, and nothing else sets it back. -/
theorem Awake.left_act (h : t.Awake) (hw : t.waiters[number]? = some w) (a : TokenAction) :
    ∃ w', (t.act a).waiters[number]? = some w' ∧
      w'.stepsLeft = w.stepsLeft - (a == .waiter number).toNat ∧
      w.checksLeft = w'.checksLeft + (t.isCheckOf number a).toNat := by
  -- What is no step of the waiter leaves it as far from its return as it was.
  have hkept {t' : Token} {w' : Waiter} (ha : a ≠ .waiter number)
      (hw' : t'.waiters[number]? = some w') (hsteps : w'.stepsLeft = w.stepsLeft)
      (hchecks : w'.checksLeft = w.checksLeft) :
      ∃ w', t'.waiters[number]? = some w' ∧
        w'.stepsLeft = w.stepsLeft - (a == .waiter number).toNat ∧
        w.checksLeft = w'.checksLeft + (t.isCheckOf number a).toNat := by
    have hnot : (a == .waiter number) = false := beq_eq_false_iff_ne.2 ha
    exact ⟨w', hw', by simp [hnot, hsteps], by simp [isCheckOf, hnot, hchecks]⟩
  have heffect := t.effect_act a
  generalize t.act a = t' at heffect ⊢
  cases heffect with
  | begins =>
    have hlt := (List.getElem?_eq_some_iff.1 hw).1
    exact hkept nofun ((List.getElem?_append_left hlt).trans hw) rfl rfl
  | prepares | rests | flags _ => exact hkept nofun hw rfl rfl
  | @stays n hstays =>
    by_cases hn : n = number
    · subst hn
      obtain rfl : w = .returned := by
        refine (Waiter.step?_eq_none_iff.1 (hstays w hw)).resolve_right ?_
        rintro rfl
        exact h.woken (List.mem_of_getElem? hw)
      refine ⟨.returned, hw, ?_, ?_⟩
      · simp [Waiter.stepsLeft]
      · simp [isCheckOf, hw, Waiter.isChecking]
    · exact hkept (by simpa using hn) hw rfl rfl
  | @steps n w₀ w' hw₀ hstep =>
    by_cases hn : n = number
    · subst hn
      obtain rfl := Option.some.inj (hw.symm.trans hw₀)
      obtain ⟨hsteps, hchecks⟩ := (h.flag ▸ hstep).left
      refine ⟨w', List.getElem?_set_self (List.getElem?_eq_some_iff.1 hw).1, ?_, ?_⟩
      · simp [hsteps]
      · simpa [isCheckOf, hw] using hchecks
    · exact hkept (by simpa using hn) ((List.getElem?_set_ne hn).trans hw) rfl rfl
  | notifies _ =>
    obtain ⟨hsteps, hchecks⟩ := w.left_notified
    exact hkept nofun (by simp [hw]) hsteps hchecks

/-- A token that is awake stays so. -/
theorem Awake.after (h : t.Awake) (later : List TokenAction) : (t.after later).Awake :=
  List.foldlRecOn later Token.act h fun _ ht a _ => ht.act a

/-- A waiter comes nearer to its return with each of its steps, and reads the flag no more often
than it has to. -/
theorem Awake.left_after (h : t.Awake) (hw : t.waiters[number]? = some w)
    (more : List TokenAction) : ∃ w', (t.after more).waiters[number]? = some w' ∧
      w'.stepsLeft = w.stepsLeft - more.count (.waiter number) ∧
      w.checksLeft = w'.checksLeft + t.checks number more := by
  induction more generalizing t w with
  | nil => exact ⟨w, hw, rfl, rfl⟩
  | cons a more ih =>
    obtain ⟨w₁, hw₁, hsteps₁, hchecks₁⟩ := h.left_act hw a
    obtain ⟨w', hw', hsteps, hchecks⟩ := ih (h.act a) hw₁
    refine ⟨w', hw', ?_, ?_⟩
    · have hcount : (a :: more).count (.waiter number) =
          more.count (.waiter number) + (a == .waiter number).toNat := by
        rw [List.count_cons]
        cases a == .waiter number <;> rfl
      rw [hsteps, hsteps₁, hcount]
      omega
    · rw [hchecks₁, hchecks, checks]
      omega

/-- A waiter that cannot go on has returned. -/
theorem Awake.isSome_stepWaiter? (h : t.Awake) (hw : t.waiters[number]? = some w)
    (hnot : t.hasReturned number = false) : (t.stepWaiter? number).isSome = true := by
  have hstep : w.step? t.flag ≠ none := by
    intro hnone
    rcases Waiter.step?_eq_none_iff.1 hnone with rfl | rfl
    · simp [hasReturned, hw] at hnot
    · exact h.woken (List.mem_of_getElem? hw)
  obtain ⟨w', hw'⟩ := Option.ne_none_iff_exists'.1 hstep
  simp [stepWaiter?, hw, hw']

/-! ### The simulation makes a history -/

/-- Cancelling at once is to prepare a canceller and to let it make its two steps. -/
theorem cancel_eq_after (t : Token) :
    t.cancel = t.after
      [.prepare, .canceller t.cancellers.length, .canceller t.cancellers.length] := rfl

/-- A step of a waiter changes this waiter and nothing else. -/
theorem act_waiter_eq (t : Token) (number : Nat) :
    t.act (.waiter number) =
      { t with waiters := t.waiters.modify number fun w => (w.step? t.flag).getD w } := by
  rw [act, stepWaiter?]
  cases hw : t.waiters[number]? with
  | none => rw [List.modify_eq_self (List.getElem?_eq_none_iff.1 hw)]; rfl
  | some w =>
    rw [List.modify_eq_set, hw, Option.getD_some]
    cases hstep : w.step? t.flag with
    | some w' => simp [hstep]
    | none =>
      obtain ⟨hlt, rfl⟩ := List.getElem?_eq_some_iff.1 hw
      simp [hstep]

/-- Steps of one waiter change nothing but that waiter. -/
theorem after_replicate_waiter (t : Token) (number count : Nat) :
    t.after (List.replicate count (.waiter number)) =
      { t with waiters := t.waiters.modify number (Waiter.run t.flag count) } := by
  induction count generalizing t with
  | zero => exact congrArg (fun ws => { t with waiters := ws }) (List.modify_id _ _).symm
  | succ count ih =>
    have hfirst : t.after (List.replicate (count + 1) (.waiter number)) =
        (t.act (.waiter number)).after (List.replicate count (.waiter number)) := rfl
    rw [hfirst, ih, act_waiter_eq, List.modify_modify_eq]
    congr 2
    funext w
    exact (Waiter.run_succ t.flag count w).symm

/-- The history in which the first waiters, one after the other, make all steps they can. -/
private def sweep (count : Nat) : List TokenAction :=
  (List.range count).flatMap fun number => List.replicate Waiter.stepsPerCheck (.waiter number)

private theorem after_sweep (t : Token) (count : Nat) :
    (t.after (sweep count)).flag = t.flag ∧
      (t.after (sweep count)).cancellers = t.cancellers ∧
      ∀ number, (t.after (sweep count)).waiters[number]? =
        (t.waiters[number]?).map fun w =>
          if number < count then w.run t.flag Waiter.stepsPerCheck else w := by
  induction count with
  | zero => simp [sweep, after]
  | succ count ih =>
    obtain ⟨hflag, hcancellers, hwaiters⟩ := ih
    have hsweep : t.after (sweep (count + 1)) = (t.after (sweep count)).after
        (List.replicate Waiter.stepsPerCheck (.waiter count)) := by
      rw [← after_append, sweep, sweep, List.range_succ, List.flatMap_append,
        List.flatMap_singleton]
    rw [hsweep, after_replicate_waiter]
    refine ⟨hflag, hcancellers, fun number => ?_⟩
    rw [List.getElem?_modify, hwaiters, hflag]
    rcases Nat.lt_trichotomy number count with hlt | rfl | hgt
    · simp [hlt, Nat.lt_succ_of_lt hlt, Nat.ne_of_gt hlt]
    · simp
    · simp [Nat.not_lt.2 (Nat.le_of_lt hgt), Nat.not_lt.2 hgt, Nat.ne_of_lt hgt]

/-- When all waiters run until they return or sleep, this makes a history. -/
theorem exists_history_settle (t : Token) : ∃ h, t.settle = t.after h := by
  obtain ⟨hflag, hcancellers, hwaiters⟩ := t.after_sweep t.waiters.length
  refine ⟨sweep t.waiters.length, ?_⟩
  have hall : (t.after (sweep t.waiters.length)).waiters =
      t.waiters.map (Waiter.run t.flag Waiter.stepsPerCheck) := by
    refine List.ext_getElem? fun number => ?_
    rw [hwaiters, List.getElem?_map]
    refine Option.map_congr fun w hw => ?_
    rw [if_pos (List.getElem?_eq_some_iff.1 hw).1]
  rw [settle, ← hall, ← hflag, ← hcancellers]

/-! ### The main statement -/

/-- **No cancellation is missed.** After any history of any number of waiters and cancellers, no
waiter has returned unless a canceller has set the flag. Once a canceller has completed, at no later
time does a waiter sleep without having been woken. Whatever happens then, a waiter reads the flag
at most once more, it can always go on until it returns, and it has returned after three steps of
its own. -/
theorem no_cancellation_is_missed (h : List TokenAction) :
    (∀ number, (fresh.after h).hasReturned number = true →
      (fresh.after h).isCancelled = true ∧ ∃ c ∈ (fresh.after h).cancellers, c ≠ .ready) ∧
    (.completed ∈ (fresh.after h).cancellers → ∀ later,
      .suspended false ∉ (fresh.after (h ++ later)).waiters ∧
      ∀ more number, number < (fresh.after (h ++ later)).waiters.length →
        (fresh.after (h ++ later)).checks number more ≤ 1 ∧
        ((fresh.after (h ++ later ++ more)).hasReturned number = false →
          ((fresh.after (h ++ later ++ more)).stepWaiter? number).isSome = true) ∧
        (Waiter.stepsPerCheck ≤ more.count (.waiter number) →
          (fresh.after (h ++ later ++ more)).hasReturned number = true)) := by
  have hvigilant := vigilant_after h
  refine ⟨?_, ?_⟩
  · intro number hreturned
    have hflag := hvigilant.returned (List.mem_of_getElem? (beq_iff_eq.1 hreturned))
    obtain ⟨c, hc, hflagged⟩ := hvigilant.flag_iff.1 hflag
    refine ⟨hflag, c, hc, ?_⟩
    rintro rfl
    cases hflagged
  · intro hcompleted later
    have hawake := (hvigilant.awake hcompleted).after later
    rw [← after_append] at hawake
    refine ⟨hawake.woken, ?_⟩
    intro more number hlt
    have hw := List.getElem?_eq_getElem hlt
    generalize (fresh.after (h ++ later)).waiters[number] = w at hw
    obtain ⟨w', hw', hsteps, hchecks⟩ := hawake.left_after hw more
    rw [after_append fresh (h ++ later) more]
    refine ⟨?_, (hawake.after more).isSome_stepWaiter? hw', ?_⟩
    · have := w.checksLeft_le
      omega
    · intro hcount
      have := w.stepsLeft_le
      obtain rfl := Waiter.stepsLeft_eq_zero_iff.1 (show w'.stepsLeft = 0 by omega)
      simp [hasReturned, hw']

/-- Of two waiters the first reads the flag just after a canceller has set it, and the second just
before, so that it falls asleep between the two steps of the canceller. A second canceller comes
too late to do anything. -/
def raceHistory : List TokenAction :=
  [.wait, .wait, .prepare, .prepare, .waiter 0, .waiter 1, .waiter 1, .canceller 0, .waiter 0,
    .canceller 1, .canceller 0]

/-- Three steps of each of two waiters, with the last step of a canceller in between. -/
def sharedSteps : List TokenAction :=
  [.waiter 1, .waiter 2, .canceller 1, .waiter 2, .waiter 1, .waiter 1, .waiter 2]

/-- The waiter that has fallen asleep is woken, reads the flag once more and returns, and so does
one that begins to wait when all is over. -/
theorem no_cancellation_is_missed_of_raceHistory :
    (fresh.after raceHistory).waiters = [.returned, .suspended true] ∧
    ((fresh.after raceHistory).isCancelled = true ∧
      ∃ c ∈ (fresh.after raceHistory).cancellers, c ≠ .ready) ∧
    .completed ∈ (fresh.after raceHistory).cancellers ∧
    .suspended false ∉ (fresh.after (raceHistory ++ [.wait])).waiters ∧
    ∀ number ∈ [1, 2],
      (fresh.after (raceHistory ++ [.wait])).checks number sharedSteps ≤ 1 ∧
      (fresh.after (raceHistory ++ [.wait] ++ sharedSteps)).hasReturned number = true := by
  obtain ⟨hreturned, hcancelled⟩ := no_cancellation_is_missed raceHistory
  obtain ⟨hwoken, hlater⟩ := hcancelled (by decide) [.wait]
  refine ⟨rfl, hreturned 0 (by decide), by decide, hwoken, ?_⟩
  intro number hnumber
  obtain ⟨hlt, hcount⟩ : number < 3 ∧ 3 ≤ sharedSteps.count (.waiter number) := by
    revert number
    decide
  obtain ⟨hchecks, -, hreturns⟩ := hlater sharedSteps number hlt
  exact ⟨hchecks, hreturns hcount⟩

end Token

end RunOperator
