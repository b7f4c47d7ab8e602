import RtuMaster.IoBoard
import RtuMaster.ControlLogic
import Mathlib.Data.Finset.Card
import Mathlib.Logic.Relation

namespace RtuMaster
set_option autoImplicit true

/-- Tk's `after` queue of one panel: the pending ids and the next id `after` hands out. -/
structure Timers where
  pending : Finset Nat
  nextId : Nat
  deriving DecidableEq

def Timers.empty : Timers := ⟨∅, 0⟩

def Timers.after (t : Timers) : Nat × Timers :=
  (t.nextId, ⟨insert t.nextId t.pending, t.nextId + 1⟩)

/-- `window.after_cancel(id)`; a callback that fires leaves the queue the same way. -/
def Timers.afterCancel (t : Timers) (id : Nat) : Timers :=
  ⟨t.pending.erase id, t.nextId⟩

def Timers.Fresh (t : Timers) : Prop := ∀ i ∈ t.pending, i < t.nextId

variable {t : Timers}

@[simp] theorem Timers.after_fst (t : Timers) : t.after.1 = t.nextId := rfl

@[simp] theorem Timers.after_pending (t : Timers) :
    t.after.2.pending = insert t.nextId t.pending := rfl

@[simp] theorem Timers.afterCancel_pending (t : Timers) (id : Nat) :
    (t.afterCancel id).pending = t.pending.erase id := rfl

theorem Timers.Fresh.after (h : t.Fresh) : t.after.2.Fresh := by
  intro i hi
  simp only [after_pending, Finset.mem_insert] at hi
  rcases hi with rfl | hi
  · exact Nat.lt_succ_self _
  · exact Nat.lt_succ_of_lt (h i hi)

theorem Timers.Fresh.afterCancel (h : t.Fresh) (id : Nat) : (t.afterCancel id).Fresh :=
  fun i hi => h i (Finset.mem_of_mem_erase hi)

theorem Timers.Fresh.card_after (h : t.Fresh) : t.after.2.pending.card = t.pending.card + 1 :=
  Finset.card_insert_of_not_mem fun hn => Nat.lt_irrefl _ (h _ hn)

namespace IoBoard

/-- The Auto Digital Output loop: `auto_do_var` and the queued `auto_do_loop` callbacks. -/
structure AutoDo where
  autoDoVar : Bool
  timers : Timers
  deriving DecidableEq

def AutoDo.init : AutoDo := ⟨false, Timers.empty⟩

/-- `auto_do_loop`: one write, then the next run in 500 ms; a raising write skips the `after`. -/
def autoDoLoop (p : Panel) (s : AutoDo) : AutoDo :=
  if s.autoDoVar then
    match doButtonCmd p with
    | .ok _ => { s with timers := s.timers.after.2 }
    | .error _ => s
  else s

def toggleAutoDo (p : Panel) (s : AutoDo) : AutoDo :=
  if s.autoDoVar then autoDoLoop p s else s

def AutoDo.click (s : AutoDo) (p : Panel) : AutoDo :=
  toggleAutoDo p { s with autoDoVar := !s.autoDoVar }

def AutoDo.fire (s : AutoDo) (p : Panel) (id : Nat) : AutoDo :=
  autoDoLoop p { s with timers := s.timers.afterCancel id }

inductive AutoDo.Step (p : Panel) : AutoDo → AutoDo → Prop
  | click (s : AutoDo) : Step p s (s.click p)
  | fire (s : AutoDo) (id : Nat) : id ∈ s.timers.pending → Step p s (s.fire p id)

inductive AutoDo.Reachable : AutoDo → Prop
  | init : Reachable AutoDo.init
  | step (p : Panel) : Reachable s → Step p s s' → Reachable s'

variable {s : AutoDo} {p : Panel} {i : Nat}

@[simp] theorem autoDoLoop_autoDoVar (p : Panel) (s : AutoDo) :
    (autoDoLoop p s).autoDoVar = s.autoDoVar := by
  unfold autoDoLoop; split <;> [split <;> rfl; rfl]

@[simp] theorem AutoDo.click_autoDoVar (s : AutoDo) (p : Panel) :
    (s.click p).autoDoVar = !s.autoDoVar := by
  unfold AutoDo.click toggleAutoDo; split <;> simp

theorem autoDoLoop_fresh (p : Panel) (h : s.timers.Fresh) : (autoDoLoop p s).timers.Fresh := by
  unfold autoDoLoop; split <;> [split <;> [exact h.after; exact h]; exact h]

theorem AutoDo.Reachable.fresh (r : AutoDo.Reachable s) : s.timers.Fresh := by
  induction r with
  | init => intro i hi; simp [AutoDo.init, Timers.empty] at hi
  | step p _ hs ih =>
    cases hs with
    | click => unfold AutoDo.click toggleAutoDo; split <;> [exact autoDoLoop_fresh p ih; exact ih]
    | fire id _ => exact autoDoLoop_fresh p (ih.afterCancel id)

theorem autoDoLoop_of_ok (s : AutoDo) (h : doButtonCmd p = .ok e) (hv : s.autoDoVar = true) :
    autoDoLoop p s = { s with timers := s.timers.after.2 } := by
  simp [autoDoLoop, h, hv]

theorem AutoDo.fire_card (h : doButtonCmd p = .ok e) (hv : s.autoDoVar = true)
    (hf : s.timers.Fresh) (hi : i ∈ s.timers.pending) :
    (s.fire p i).timers.pending.card = s.timers.pending.card := by
  rw [AutoDo.fire, autoDoLoop_of_ok { s with timers := s.timers.afterCancel i } h hv,
    (hf.afterCancel i).card_after, Timers.afterCancel_pending, Finset.card_erase_of_mem hi]
  have := Finset.card_pos.mpr ⟨i, hi⟩
  omega

theorem AutoDo.fire_card_first :
    ((AutoDo.init.click Panel.acked).fire Panel.acked 0).timers.pending.card =
      (AutoDo.init.click Panel.acked).timers.pending.card :=
  AutoDo.fire_card
    (by decide : doButtonCmd Panel.acked =
      .ok (.resultText (some (.writeRegister 11001 0 100)) "write success"))
    (by decide) (AutoDo.Reachable.step _ .init (.click _)).fresh (by decide)

theorem AutoDo.recheck_card (h : doButtonCmd p = .ok e) (hv : s.autoDoVar = true)
    (hf : s.timers.Fresh) :
    ((s.click p).click p).timers.pending.card = s.timers.pending.card + 1 := by
  have hoff : s.click p = { s with autoDoVar := false } := by simp [AutoDo.click, toggleAutoDo, hv]
  rw [hoff, AutoDo.click]
  simp only [Bool.not_false, toggleAutoDo, if_true]
  rw [autoDoLoop_of_ok _ h rfl]
  exact hf.card_after

theorem autoDo_recheck_runs_two_chains :
    AutoDo.Reachable (((AutoDo.init.click Panel.acked).click Panel.acked).click Panel.acked) ∧
      (((AutoDo.init.click Panel.acked).click Panel.acked).click Panel.acked).timers.pending =
        {0, 1} ∧
      ((((AutoDo.init.click Panel.acked).click Panel.acked).click Panel.acked).fire Panel.acked 0
        |>.fire Panel.acked 1).timers.pending = {2, 3} :=
  ⟨.step _ (.step _ (.step _ .init (.click _)) (.click _)) (.click _), by decide, by decide⟩

/-- Each uncheck and recheck inside a pending interval adds a write chain, without bound. -/
theorem autoDo_chains_unbounded (n : Nat) :
    ∃ s, AutoDo.Reachable s ∧ s.autoDoVar = true ∧ s.timers.pending.card = n + 1 := by
  have hok : doButtonCmd Panel.acked =
      .ok (.resultText (some (.writeRegister 11001 0 100)) "write success") := by decide
  induction n with
  | zero =>
    exact ⟨AutoDo.init.click Panel.acked, .step _ .init (.click _), by decide, by decide⟩
  | succ n ih =>
    obtain ⟨s, r, hv, hc⟩ := ih
    refine ⟨(s.click Panel.acked).click Panel.acked, .step _ (.step _ r (.click _)) (.click _),
      by simp [hv], ?_⟩
    rw [AutoDo.recheck_card hok hv r.fresh, hc]

def AutoDo.ReturningStep (s s' : AutoDo) : Prop :=
  ∃ p e, doButtonCmd p = .ok e ∧ AutoDo.Step p s s'

theorem autoDoLoop_pending (h : doButtonCmd p = .ok e) (hv : (autoDoLoop p s).autoDoVar = true) :
    (autoDoLoop p s).timers.pending.Nonempty := by
  rw [autoDoLoop_autoDoVar] at hv
  rw [autoDoLoop_of_ok s h hv]
  exact Finset.insert_nonempty _ _

theorem AutoDo.ReturningStep.pending (hs : AutoDo.ReturningStep s s') (hv : s'.autoDoVar = true) :
    s'.timers.pending.Nonempty := by
  obtain ⟨p, e, h, hs⟩ := hs
  cases hs with
  | click =>
    have hon : (!s.autoDoVar) = true := by rwa [AutoDo.click_autoDoVar] at hv
    unfold AutoDo.click toggleAutoDo at hv ⊢
    simp only [hon, if_true] at hv ⊢
    exact autoDoLoop_pending h hv
  | fire id _ => exact autoDoLoop_pending h hv

end IoBoard

namespace ControlLogic

/-- `manual_read_loop_var`, `manual_read_after_id` and the queued `schedule_manual_read`s. -/
structure ManualReadLoop where
  manualReadLoopVar : Bool
  manualReadAfterId : Option Nat
  timers : Timers
  deriving DecidableEq

def ManualReadLoop.init : ManualReadLoop := ⟨false, none, Timers.empty⟩

/-- `schedule_manual_read`: one read, then the next run in 50 ms; a raising read skips both. -/
def scheduleManualRead (p : Panel) (s : ManualReadLoop) : ManualReadLoop :=
  if s.manualReadLoopVar then
    match manualReadCmd p with
    | .ok _ => { s with manualReadAfterId := some s.timers.after.1, timers := s.timers.after.2 }
    | .error _ => s
  else s

/-- `toggle_manual_read_loop`; the `try` around `after_cancel` never catches here. -/
def toggleManualReadLoop (p : Panel) (s : ManualReadLoop) : ManualReadLoop :=
  if s.manualReadLoopVar then
    match s.manualReadAfterId with
    | none => scheduleManualRead p s
    | some _ => s
  else
    match s.manualReadAfterId with
    | some id => { s with timers := s.timers.afterCancel id, manualReadAfterId := none }
    | none => s

def ManualReadLoop.click (s : ManualReadLoop) (p : Panel) : ManualReadLoop :=
  toggleManualReadLoop p { s with manualReadLoopVar := !s.manualReadLoopVar }

def ManualReadLoop.fire (s : ManualReadLoop) (p : Panel) (id : Nat) : ManualReadLoop :=
  scheduleManualRead p { s with timers := s.timers.afterCancel id }

inductive ManualReadLoop.Step (p : Panel) : ManualReadLoop → ManualReadLoop → Prop
  | click (s : ManualReadLoop) : Step p s (s.click p)
  | fire (s : ManualReadLoop) (id : Nat) : id ∈ s.timers.pending → Step p s (s.fire p id)

inductive ManualReadLoop.Reachable : ManualReadLoop → Prop
  | init : Reachable ManualReadLoop.init
  | step (p : Panel) : Reachable s → Step p s s' → Reachable s'

/-- The queue holds at most the id `manual_read_after_id` names, and nothing while unchecked. -/
structure ManualReadLoop.Inv (s : ManualReadLoop) : Prop where
  subset : s.timers.pending ⊆ s.manualReadAfterId.toFinset
  unchecked : s.manualReadLoopVar = false → s.timers.pending = ∅ ∧ s.manualReadAfterId = none

variable {s : ManualReadLoop} {p : Panel} {i : Nat}

theorem ManualReadLoop.Inv.initial : ManualReadLoop.init.Inv :=
  ⟨by simp [ManualReadLoop.init, Timers.empty], fun _ => ⟨rfl, rfl⟩⟩

theorem scheduleManualRead_inv (p : Panel) (hv : s.manualReadLoopVar = true)
    (hp : s.timers.pending = ∅) : (scheduleManualRead p s).Inv := by
  unfold scheduleManualRead
  simp only [hv, if_true]
  split
  · exact ⟨by simp [hp], by simp [hv]⟩
  · exact ⟨by simp [hp], by simp [hv]⟩

theorem ManualReadLoop.Inv.click (h : s.Inv) (p : Panel) : (s.click p).Inv := by
  unfold ManualReadLoop.click toggleManualReadLoop
  cases hv : s.manualReadLoopVar with
  | false =>
    obtain ⟨hp, ha⟩ := h.unchecked hv
    simp only [Bool.not_false, if_true, ha]
    exact scheduleManualRead_inv p rfl hp
  | true =>
    have hsub := h.subset
    simp only [Bool.not_true, Bool.false_eq_true, if_false]
    cases ha : s.manualReadAfterId with
    | none =>
      have hp : s.timers.pending = ∅ := by simpa [ha] using hsub
      exact ⟨by simp [hp], fun _ => ⟨hp, rfl⟩⟩
    | some id =>
      simp only [ha, Option.toFinset_some] at hsub
      have hp := (Finset.erase_eq_empty_iff _ id).mpr (Finset.subset_singleton_iff.mp hsub)
      exact ⟨by simp [hp], fun _ => ⟨by simp [hp], rfl⟩⟩

theorem ManualReadLoop.Inv.fire (h : s.Inv) (p : Panel) (hi : i ∈ s.timers.pending) :
    (s.fire p i).Inv := by
  cases hv : s.manualReadLoopVar with
  | false => simp [(h.unchecked hv).1] at hi
  | true =>
    have hsub := h.subset
    cases ha : s.manualReadAfterId with
    | none => simp [ha] at hsub; simp [hsub] at hi
    | some id =>
      simp only [ha, Option.toFinset_some] at hsub
      have hid : i = id := Finset.mem_singleton.mp (hsub hi)
      subst hid
      exact scheduleManualRead_inv p hv
        ((Finset.erase_eq_empty_iff _ i).mpr (Finset.subset_singleton_iff.mp hsub))

theorem ManualReadLoop.Reachable.inv (r : ManualReadLoop.Reachable s) : s.Inv := by
  induction r with
  | init => exact .initial
  | step p _ hs ih =>
    cases hs with
    | click => exact ih.click p
    | fire i hi => exact ih.fire p hi

theorem ManualReadLoop.Inv.click_unchecked (h : s.Inv) (hv : s.manualReadLoopVar = false)
    (p : Panel) : s.click p = scheduleManualRead p { s with manualReadLoopVar := true } := by
  simp [ManualReadLoop.click, toggleManualReadLoop, hv, (h.unchecked hv).2]

/-- At most one read is queued, the one `manual_read_after_id` names; a check always schedules. -/
theorem manualReadLoop_one_pending (r : ManualReadLoop.Reachable s) :
    s.timers.pending.card ≤ 1 ∧ s.timers.pending ⊆ s.manualReadAfterId.toFinset ∧
      (s.manualReadLoopVar = false → s.timers.pending = ∅ ∧ s.manualReadAfterId = none) ∧
      (s.manualReadLoopVar = false →
        ∀ p, s.click p = scheduleManualRead p { s with manualReadLoopVar := true }) := by
  have h := r.inv
  refine ⟨(Finset.card_le_card h.subset).trans ?_, h.subset, h.unchecked, h.click_unchecked⟩
  cases s.manualReadAfterId <;> simp

theorem manualReadLoop_one_pending_stale :
    ((ManualReadLoop.init.click Panel.acked).fire { Panel.acked with slaveIdEntry := "" } 0
      ).timers.pending.card ≤ 1 ∧
    ((ManualReadLoop.init.click Panel.acked).fire { Panel.acked with slaveIdEntry := "" } 0
      ).timers.pending ⊆
      ((ManualReadLoop.init.click Panel.acked).fire { Panel.acked with slaveIdEntry := "" } 0
        ).manualReadAfterId.toFinset ∧
    (((ManualReadLoop.init.click Panel.acked).fire { Panel.acked with slaveIdEntry := "" } 0
      ).manualReadLoopVar = false →
      ((ManualReadLoop.init.click Panel.acked).fire { Panel.acked with slaveIdEntry := "" } 0
        ).timers.pending = ∅ ∧
      ((ManualReadLoop.init.click Panel.acked).fire { Panel.acked with slaveIdEntry := "" } 0
        ).manualReadAfterId = none) ∧
    (((ManualReadLoop.init.click Panel.acked).fire { Panel.acked with slaveIdEntry := "" } 0
      ).manualReadLoopVar = false → ∀ p,
      ((ManualReadLoop.init.click Panel.acked).fire { Panel.acked with slaveIdEntry := "" } 0
        ).click p = scheduleManualRead p
        { (ManualReadLoop.init.click Panel.acked).fire { Panel.acked with slaveIdEntry := "" } 0
          with manualReadLoopVar := true }) :=
  manualReadLoop_one_pending (.step _ (.step _ .init (.click _)) (.fire _ 0 (by decide)))

theorem manualReadLoop_recheck_schedules (r : ManualReadLoop.Reachable s)
    (hv : s.manualReadLoopVar = false) :
    s.click p = scheduleManualRead p { s with manualReadLoopVar := true } :=
  r.inv.click_unchecked hv p

theorem manualReadLoop_recheck_schedules_after_uncheck :
    ((ManualReadLoop.init.click Panel.acked).click Panel.acked).click Panel.acked =
      scheduleManualRead Panel.acked
        { (ManualReadLoop.init.click Panel.acked).click Panel.acked with
          manualReadLoopVar := true } :=
  manualReadLoop_recheck_schedules (.step _ (.step _ .init (.click _)) (.click _)) (by decide)

def ManualReadLoop.ReturningStep (s s' : ManualReadLoop) : Prop :=
  ∃ p e, manualReadCmd p = .ok e ∧ ManualReadLoop.Step p s s'

theorem ManualReadLoop.reachable_of_returning
    (r : Relation.ReflTransGen ManualReadLoop.ReturningStep ManualReadLoop.init s) :
    ManualReadLoop.Reachable s := by
  induction r with
  | refl => exact .init
  | tail _ hs ih => obtain ⟨p, _, _, hs⟩ := hs; exact .step p ih hs

@[simp] theorem scheduleManualRead_manualReadLoopVar (p : Panel) (s : ManualReadLoop) :
    (scheduleManualRead p s).manualReadLoopVar = s.manualReadLoopVar := by
  unfold scheduleManualRead; split <;> [split <;> rfl; rfl]

@[simp] theorem ManualReadLoop.click_manualReadLoopVar (s : ManualReadLoop) (p : Panel) :
    (s.click p).manualReadLoopVar = !s.manualReadLoopVar := by
  unfold ManualReadLoop.click toggleManualReadLoop
  split <;> split <;> simp_all

theorem scheduleManualRead_pending (h : manualReadCmd p = .ok e)
    (hv : (scheduleManualRead p s).manualReadLoopVar = true) :
    (scheduleManualRead p s).timers.pending.Nonempty := by
  rw [scheduleManualRead_manualReadLoopVar] at hv
  simp [scheduleManualRead, hv, h, Timers.after]

theorem ManualReadLoop.ReturningStep.pending (hi : s.Inv) (hs : ManualReadLoop.ReturningStep s s')
    (hv : s'.manualReadLoopVar = true) : s'.timers.pending.Nonempty := by
  obtain ⟨p, e, h, hs⟩ := hs
  cases hs with
  | click =>
    have hoff : s.manualReadLoopVar = false := by simpa using hv
    unfold ManualReadLoop.click toggleManualReadLoop at hv ⊢
    simp only [hoff, Bool.not_false, if_true, (hi.unchecked hoff).2] at hv ⊢
    exact scheduleManualRead_pending h hv
  | fire id _ => exact scheduleManualRead_pending h hv

end ControlLogic

/-- A raising tick leaves either loop's box checked with nothing queued. -/
theorem checked_loops_can_stall :
    IoBoard.AutoDo.Reachable (IoBoard.AutoDo.init.click IoBoard.Panel.init) ∧
    (IoBoard.AutoDo.init.click IoBoard.Panel.init).autoDoVar = true ∧
    (IoBoard.AutoDo.init.click IoBoard.Panel.init).timers.pending = ∅ ∧
    ControlLogic.ManualReadLoop.Reachable
      (ControlLogic.ManualReadLoop.init.click ControlLogic.Panel.init) ∧
    (ControlLogic.ManualReadLoop.init.click ControlLogic.Panel.init).manualReadLoopVar = true ∧
    (ControlLogic.ManualReadLoop.init.click ControlLogic.Panel.init).timers.pending = ∅ ∧
    ControlLogic.ManualReadLoop.Reachable
      ((ControlLogic.ManualReadLoop.init.click ControlLogic.Panel.acked).fire
        { ControlLogic.Panel.acked with slaveIdEntry := "" } 0) ∧
    (ControlLogic.ManualReadLoop.init.click ControlLogic.Panel.acked).fire
        { ControlLogic.Panel.acked with slaveIdEntry := "" } 0 =
      ⟨true, some 0, ⟨∅, 1⟩⟩ :=
  ⟨.step _ .init (.click _), by decide, by decide, .step _ .init (.click _), by decide, by decide,
    .step _ (.step _ .init (.click _)) (.fire _ 0 (by decide)), by decide⟩

/-- In a run whose ticks all return, a checked box always has its next tick queued. -/
theorem checked_loops_keep_pending :
    (∀ s, Relation.ReflTransGen IoBoard.AutoDo.ReturningStep IoBoard.AutoDo.init s →
      s.autoDoVar = true → s.timers.pending.Nonempty) ∧
    (∀ s, Relation.ReflTransGen ControlLogic.ManualReadLoop.ReturningStep
      ControlLogic.ManualReadLoop.init s →
      s.manualReadLoopVar = true → s.timers.pending.Nonempty) := by
  refine ⟨fun s r hv => ?_, fun s r hv => ?_⟩
  · cases r with
    | refl => cases hv
    | tail _ hs => exact hs.pending hv
  · cases r with
    | refl => cases hv
    | tail r hs => exact hs.pending (ControlLogic.ManualReadLoop.reachable_of_returning r).inv hv

theorem checked_loops_keep_pending_first_click :
    (IoBoard.AutoDo.init.click IoBoard.Panel.acked).timers.pending.Nonempty ∧
    (ControlLogic.ManualReadLoop.init.click ControlLogic.Panel.acked).timers.pending.Nonempty :=
  ⟨checked_loops_keep_pending.1 _
      (.single ⟨IoBoard.Panel.acked, .resultText (some (.writeRegister 11001 0 100))
        "write success", by decide, .click _⟩) (by decide),
    checked_loops_keep_pending.2 _
      (.single ⟨ControlLogic.Panel.acked, .resultText (some (.readHoldingRegisters 15000 100 100))
        "except error", by decide, .click _⟩) (by decide)⟩

end RtuMaster
