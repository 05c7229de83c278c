import Mathlib.Data.List.Induction
import AdminConsole.Upgrade

/-!
# Runs of an upgrade

A timer, requests and readings of the status act on the tracker in any order. What they make of it
is told by the events since the upgrade was last started: ticks count until the status is first
read, and the nineteenth of them gives the upgrade up. So a started upgrade asks for eighteen
readings at most, and ticking comes to an end from wherever it begins.
-/

namespace AdminConsole

inductive UpgradeEvent where
  | started
  | startFailed (e : ApiError)
  | tick
  | observe (reading : Except ApiError UpgradeStatus)
deriving DecidableEq

namespace UpgradeState

/-- Where an upgrade stands after that many ticks, while its status cannot be read. -/
def afterTicks (count : Nat) : UpgradeState :=
  if count ≤ 18 then .upgrading (count + 1) else .failed

theorem afterTicks_of_lt {count : Nat} (h : 18 < count) : afterTicks count = .failed :=
  if_neg (Nat.not_le_of_lt h)

theorem afterTicks_eq_upgrading_iff {count attempt : Nat} :
    afterTicks count = .upgrading attempt ↔ count ≤ 18 ∧ attempt = count + 1 := by
  unfold afterTicks
  split
  · rename_i hle
    simp [hle, eq_comm]
  · rename_i hle
    simp [hle]

def IsResting (s : UpgradeState) : Prop := ∀ attempt, s ≠ .upgrading attempt

theorem isResting_completed : IsResting .completed := nofun

theorem isResting_failed : IsResting .failed := nofun

end UpgradeState

namespace UpgradeTracker

variable {t t' : UpgradeTracker} {event : UpgradeEvent} {events : List UpgradeEvent} {again : Bool}

theorem isPolling_iff : t.isPolling = true ↔ ∃ attempt, t.state = .upgrading attempt := by
  unfold isPolling
  cases t.state <;> simp

-- ---------------------------------------------------------------------------
-- One event
-- ---------------------------------------------------------------------------

def step (t : UpgradeTracker) : UpgradeEvent → UpgradeTracker
  | .started => t.started
  | .startFailed e => t.startFailed e
  | .tick => t.tick.2
  | .observe reading => t.observe reading

def asks (t : UpgradeTracker) : UpgradeEvent → Bool
  | .tick => t.tick.1
  | _ => false

inductive Effect (t : UpgradeTracker) : UpgradeEvent → Bool → UpgradeTracker → Prop
  | started : Effect t .started false ⟨.upgrading 1, none⟩
  | startFailed {e : ApiError} {error : Option String} :
    Effect t (.startFailed e) false { t with error := error }
  | counted {attempt : Nat} (hstate : t.state = .upgrading attempt)
    (hmore : attempt + 1 < maxUpgradeChecks) :
    Effect t .tick true { t with state := .upgrading (attempt + 1) }
  | abandoned {attempt : Nat} {error : Option String} (hstate : t.state = .upgrading attempt)
    (hlast : maxUpgradeChecks ≤ attempt + 1) : Effect t .tick false ⟨.failed, error⟩
  | completed {attempt : Nat} {status : UpgradeStatus} (hstate : t.state = .upgrading attempt) :
    Effect t (.observe (.ok status)) false { t with state := .completed }
  | unread {e : ApiError} : Effect t (.observe (.error e)) false t
  | ignored {event : UpgradeEvent} (hrest : t.state.IsResting) (hne : event ≠ .started) :
    Effect t event false t

theorem effect_step (t : UpgradeTracker) (event : UpgradeEvent) :
    Effect t event (t.asks event) (t.step event) := by
  cases event with
  | started => exact .started
  | startFailed e => exact .startFailed
  | tick =>
    simp only [asks, step, tick]
    split
    · rename_i attempt hstate
      split
      · rename_i hlast
        exact .abandoned hstate hlast
      · rename_i hmore
        exact .counted hstate (Nat.lt_of_not_le hmore)
    · rename_i hstate
      exact .ignored hstate (by simp)
  | observe reading =>
    cases reading with
    | error e => exact .unread
    | ok status =>
      simp only [asks, step, observe]
      split
      · rename_i hpolling
        obtain ⟨attempt, hstate⟩ := isPolling_iff.mp hpolling
        exact .completed hstate
      · rename_i hpolling
        have hrest : t.state.IsResting := fun attempt hstate =>
          hpolling (isPolling_iff.mpr ⟨attempt, hstate⟩)
        exact .ignored hrest (by simp)

theorem tick_eq_true_iff : t.tick.1 = true ↔ ∃ attempt, t.tick.2.state = .upgrading attempt := by
  have heff : Effect t .tick t.tick.1 t.tick.2 := t.effect_step .tick
  generalize t.tick.1 = again at heff ⊢
  generalize t.tick.2 = t' at heff ⊢
  cases heff with
  | counted hstate hmore => simp
  | abandoned hstate hlast => simp
  | ignored hrest => simp [hrest _]

theorem Effect.state_of_isResting (heff : Effect t event again t') (hrest : t.state.IsResting)
    (hne : event ≠ .started) : t'.state = t.state := by
  cases heff with
  | started => exact absurd rfl hne
  | startFailed | unread | ignored => rfl
  | counted hstate | abandoned hstate | completed hstate => exact absurd hstate (hrest _)

theorem Effect.completed_iff (heff : Effect t event again t') :
    t'.state = .completed ↔
      t.state = .completed ∧ event ≠ .started ∨
        (∃ attempt, t.state = .upgrading attempt) ∧ ∃ status, event = .observe (.ok status) := by
  cases heff with
  | started => simp
  | startFailed | unread => simp
  | counted hstate | abandoned hstate | completed hstate => simp [hstate]
  | ignored hrest hne => simp [hrest _, hne]

theorem Effect.afterTicks (heff : Effect t event again t') {count : Nat}
    (hstate : t.state = .afterTicks count) (hne : event ≠ .started)
    (hunread : ∀ status, event ≠ .observe (.ok status)) :
    t'.state = .afterTicks (count + [event].count .tick) := by
  cases heff with
  | started => exact absurd rfl hne
  | startFailed | unread => simpa using hstate
  | @counted attempt hupgrading hmore =>
    obtain ⟨hle, rfl⟩ := UpgradeState.afterTicks_eq_upgrading_iff.mp (hstate.symm.trans hupgrading)
    rw [List.count_singleton_self]
    refine (UpgradeState.afterTicks_eq_upgrading_iff.mpr ⟨?_, rfl⟩).symm
    exact Nat.le_of_lt_succ (Nat.lt_of_succ_lt_succ hmore)
  | @abandoned attempt error hupgrading hlast =>
    obtain ⟨hle, rfl⟩ := UpgradeState.afterTicks_eq_upgrading_iff.mp (hstate.symm.trans hupgrading)
    rw [List.count_singleton_self]
    exact (UpgradeState.afterTicks_of_lt (Nat.lt_of_succ_le (Nat.le_of_succ_le_succ hlast))).symm
  | @completed attempt status => exact absurd rfl (hunread status)
  | ignored hrest =>
    -- Nothing to wait for: the count has passed the last attempt, and more ticks change nothing.
    have hlt : 18 < count := by
      by_contra hle
      exact hrest _ (hstate.trans
        (UpgradeState.afterTicks_eq_upgrading_iff.mpr ⟨Nat.le_of_not_lt hle, rfl⟩))
    rw [hstate, UpgradeState.afterTicks_of_lt hlt,
      UpgradeState.afterTicks_of_lt (Nat.lt_add_right _ hlt)]

theorem Effect.read {status : UpgradeStatus} (heff : Effect t (.observe (.ok status)) again t')
    {count : Nat} (hstate : t.state = .afterTicks count) :
    t'.state = if count ≤ 18 then .completed else .failed := by
  split
  · rename_i hle
    have hupgrading := UpgradeState.afterTicks_eq_upgrading_iff.mpr ⟨hle, rfl⟩
    exact heff.completed_iff.mpr (.inr ⟨⟨_, hstate.trans hupgrading⟩, status, rfl⟩)
  · rename_i hlt
    have hfailed := hstate.trans (UpgradeState.afterTicks_of_lt (Nat.lt_of_not_le hlt))
    have hrest := hfailed ▸ UpgradeState.isResting_failed
    exact (heff.state_of_isResting hrest (by simp)).trans hfailed

/-- Every reading that is asked for uses up one of the attempts that are left. -/
theorem Effect.remaining_le (heff : Effect t event again t') (hne : event ≠ .started) :
    again.toNat + (t'.remaining - 1) ≤ t.remaining - 1 := by
  cases heff with
  | started => exact absurd rfl hne
  | startFailed | unread | ignored => simp [remaining]
  | counted hstate hmore =>
    simp only [remaining, hstate, Bool.toNat_true]
    omega
  | abandoned hstate hlast => simp [remaining]
  | completed hstate => simp [remaining]

-- ---------------------------------------------------------------------------
-- Runs
-- ---------------------------------------------------------------------------

def run (t : UpgradeTracker) (events : List UpgradeEvent) : UpgradeTracker := events.foldl step t

def readings (t : UpgradeTracker) : List UpgradeEvent → Nat
  | [] => 0
  | event :: events => (t.asks event).toNat + (t.step event).readings events

theorem run_append (t : UpgradeTracker) (events later : List UpgradeEvent) :
    t.run (events ++ later) = (t.run events).run later := List.foldl_append

theorem run_concat (t : UpgradeTracker) (events : List UpgradeEvent) (event : UpgradeEvent) :
    t.run (events ++ [event]) = (t.run events).step event := run_append t events [event]

theorem run_started (t : UpgradeTracker) (earlier recent : List UpgradeEvent) :
    t.run (earlier ++ .started :: recent) = (t.run earlier).started.run recent :=
  run_append t earlier (.started :: recent)

theorem state_run_of_isResting (hrest : t.state.IsResting) (hstart : .started ∉ events) :
    (t.run events).state = t.state := by
  induction events generalizing t with
  | nil => rfl
  | cons event events ih =>
    obtain ⟨hne, hstart⟩ := not_or.mp (mt List.mem_cons.mpr hstart)
    have hstep := (t.effect_step event).state_of_isResting hrest (Ne.symm hne)
    exact (ih (hstep ▸ hrest) hstart).trans hstep

theorem state_run_started (hstart : .started ∉ events)
    (hunread : ∀ status, .observe (.ok status) ∉ events) :
    (t.started.run events).state = .afterTicks (events.count .tick) := by
  induction events using List.reverseRecOn with
  | nil => rfl
  | append_singleton events event ih =>
    simp only [List.mem_append, List.mem_singleton, not_or, forall_and] at hstart hunread
    rw [run_concat, List.count_append]
    exact (effect_step _ event).afterTicks (ih hstart.1 hunread.1) (Ne.symm hstart.2)
      fun status => Ne.symm (hunread.2 status)

theorem state_run_read {before after : List UpgradeEvent} {status : UpgradeStatus}
    (hstart : .started ∉ before ++ .observe (.ok status) :: after)
    (hunread : ∀ status, .observe (.ok status) ∉ before) :
    (t.started.run (before ++ .observe (.ok status) :: after)).state =
      if before.count .tick ≤ 18 then .completed else .failed := by
  have hbefore : .started ∉ before := fun hmem => hstart (List.mem_append_left _ hmem)
  have hafter : .started ∉ after := fun hmem =>
    hstart (List.mem_append_right _ (List.mem_cons_of_mem _ hmem))
  have hticks := @state_run_started t before hbefore hunread
  have hread := (effect_step _ (.observe (.ok status))).read hticks
  have hrest : ((t.started.run before).step (.observe (.ok status))).state.IsResting := by
    rw [hread]
    split
    · exact UpgradeState.isResting_completed
    · exact UpgradeState.isResting_failed
  rw [run_append]
  exact (state_run_of_isResting hrest hafter).trans hread

theorem readings_le (hstart : .started ∉ events) :
    t.readings events + ((t.run events).remaining - 1) ≤ t.remaining - 1 := by
  induction events generalizing t with
  | nil => simp [readings, run]
  | cons event events ih =>
    obtain ⟨hne, hstart⟩ := not_or.mp (mt List.mem_cons.mpr hstart)
    have hstep := (t.effect_step event).remaining_le (Ne.symm hne)
    have hrest := @ih (t.step event) hstart
    rw [readings, run, List.foldl_cons]
    rw [run] at hrest
    omega

-- ---------------------------------------------------------------------------
-- Ticking to the end
-- ---------------------------------------------------------------------------

theorem step_tick {again : Bool} (h : t.tick = (again, t')) :
    t.step .tick = t' ∧ t.asks .tick = again := by
  rw [step, asks, h]
  exact ⟨rfl, rfl⟩

theorem run_tickAll (t : UpgradeTracker) :
    (∀ i < t.tickAll.1, (t.run (List.replicate i .tick)).tick.1 = true) ∧
      (t.run (List.replicate t.tickAll.1 .tick)).tick = (false, t.tickAll.2) := by
  fun_induction tickAll t with
  | case1 t t' htick count last hrest ih =>
    rw [hrest] at ih
    have hrun (i : Nat) :
        t.run (List.replicate (i + 1) .tick) = t'.run (List.replicate i .tick) := by
      rw [List.replicate_succ, run, List.foldl_cons, (step_tick htick).1, ← run]
    refine ⟨fun i hi => ?_, (hrun count).symm ▸ ih.2⟩
    cases i with
    | zero => exact congrArg Prod.fst htick
    | succ i =>
      rw [hrun]
      exact ih.1 i (Nat.lt_of_succ_lt_succ hi)
  | case2 t t' htick => exact ⟨fun i hi => absurd hi (Nat.not_lt_zero i), htick⟩

theorem tickAll_le (t : UpgradeTracker) : t.tickAll.1 ≤ t.remaining - 1 := by
  fun_induction tickAll t with
  | case1 t t' htick count last hrest ih =>
    have hstep := (t.effect_step .tick).remaining_le nofun
    rw [(step_tick htick).1, (step_tick htick).2, Bool.toNat_true] at hstep
    rw [hrest] at ih
    dsimp only at ih ⊢
    omega
  | case2 t t' htick => exact Nat.zero_le _

theorem remaining_run_le (events : List UpgradeEvent) : (idle.run events).remaining - 1 ≤ 18 := by
  induction events using List.reverseRecOn with
  | nil => exact Nat.zero_le _
  | append_singleton events event ih =>
    rw [run_concat]
    by_cases hstart : event = .started
    · rw [hstart]
      exact Nat.le_refl 18
    · have hstep := (effect_step (idle.run events) event).remaining_le hstart
      omega

/-- Nothing happens before the first start. From the last start on the ticks are counted until the
status is read, which completes the upgrade unless the nineteenth tick came first and gave it up,
and either end lasts until the next start. A tick asks for a reading exactly if it leaves the
upgrade running, so eighteen times at most, and ticking on reaches a tick that asks for none after
eighteen others at most. There is something to show as long as the upgrade runs. -/
theorem bounded_run (events : List UpgradeEvent) :
    let t := idle.run events
    (.started ∉ events → t.state = .idle ∧ idle.readings events = 0) ∧
    (∀ earlier recent, events = earlier ++ .started :: recent → .started ∉ recent →
      ((∀ status, .observe (.ok status) ∉ recent) →
        t.state = .afterTicks (recent.count .tick)) ∧
      (∀ before status after, recent = before ++ .observe (.ok status) :: after →
        (∀ status, .observe (.ok status) ∉ before) →
        t.state = if before.count .tick ≤ 18 then .completed else .failed) ∧
      (idle.run earlier).started.readings recent ≤ 18) ∧
    (∀ event, (t.step event).state = .completed ↔
      t.state = .completed ∧ event ≠ .started ∨
        (∃ attempt, t.state = .upgrading attempt) ∧ ∃ status, event = .observe (.ok status)) ∧
    (t.state = .completed ∨ t.state = .failed → ∀ event, event ≠ .started →
      (t.step event).state = t.state) ∧
    (t.tick.1 = true ↔ ∃ attempt, t.tick.2.state = .upgrading attempt) ∧
    (t.tickAll.1 ≤ 18 ∧
      (∀ i < t.tickAll.1, (t.run (List.replicate i .tick)).tick.1 = true) ∧
      (t.run (List.replicate t.tickAll.1 .tick)).tick = (false, t.tickAll.2)) ∧
    (t.progress?.isSome = true ↔ t.isPolling = true) := by
  intro t
  refine ⟨fun hstart => ⟨state_run_of_isResting nofun hstart, ?_⟩, ?_,
    fun event => (t.effect_step event).completed_iff, ?_, tick_eq_true_iff,
    ⟨Nat.le_trans t.tickAll_le (remaining_run_le events), t.run_tickAll⟩, ?_⟩
  · have hreadings : _ ≤ 0 := @readings_le idle _ hstart
    exact Nat.eq_zero_of_add_eq_zero_right (Nat.le_zero.mp hreadings)
  · rintro earlier recent rfl hstart
    have ht : t = (idle.run earlier).started.run recent := run_started idle earlier recent
    refine ⟨fun hunread => ?_, ?_, ?_⟩
    · rw [ht]
      exact state_run_started hstart hunread
    · rintro before status after rfl hunread
      rw [ht]
      exact state_run_read hstart hunread
    · exact Nat.le_trans (Nat.le_add_right _ _) (readings_le hstart)
  · intro hover event hne
    refine (t.effect_step event).state_of_isResting ?_ hne
    rcases hover with hover | hover <;> rw [hover]
    · exact UpgradeState.isResting_completed
    · exact UpgradeState.isResting_failed
  · unfold progress? isPolling
    cases t.state <;> simp

end UpgradeTracker

end AdminConsole
