import Mathlib.Data.List.Induction
import RecordRing.Lock

/-!
# One caller at a time

A caller that waits for the lock looks at its token only between polls, so anything may happen in
between: the lock comes free and is taken by another, the token is fired, the holder fails. Every
such order is a list of steps, and what is said here is said of every list.

## What a step can do

The mutex underneath decides who is let in. But from the first state on it is locked exactly while
somebody is in (`Sound`), so what it decides can be read off the callers that are in: there is
nobody, or one. `Moves` lists the steps on these terms, one constructor each, and `Sound.moves` says
that there are no others. Everything else is a case analysis of it.

## The order of the updates

The log of a run is cut into *tenures*: what a caller changes from the step that lets it in to the
one that lets it out, be it by giving the lock back or by failing. Two tenures never overlap, so the
updates one by one are the tenures one by one, in the order in which the callers were let in.

## Main definitions

* `LockState.Sound` — at most one caller is in, and the mutex is locked exactly then
* `LockState.Moves` — what a step can do
* `LockState.log`, `LockEntry` — the steps of a run, with what each told its caller
* `LockState.updates`, `tenure`, `tenures` — the changes of a log, those of one tenure, and all
  tenures

## Main results

* `LockState.Sound.moves` — there are no other steps
* `LockState.Sound.step`, `Sound.run` — what one step preserves, a run preserves
* `LockState.Sound.wait_snd` — one round of a wait
* `LockState.lookup_missed_run` — who has yet to look at its token, and why
* `LockState.Sound.updates_log` — tenures do not overlap
* `LockState.run_excludes` — the lock, whatever its callers do
-/

namespace RecordRing

variable {α μ : Type}

/-- The caller whose wait goes on with this step. -/
def LockAction.waiter? : LockAction α → Option Caller
  | .poll caller _ | .check caller => some caller
  | _ => none

/-! ### The log -/

/-- A step that was made, with what it told the caller. -/
structure LockEntry (α : Type) where
  /-- The step. -/
  action : LockAction α
  /-- What the caller was told. -/
  reply : LockReply α

namespace LockEntry

/-- The caller that was let in. -/
def letIn? : LockEntry α → Option Caller
  | ⟨.poll caller _, .acquired _⟩ | ⟨.tryLock caller, .acquired _⟩ => some caller
  | _ => none

/-- The change that was made, and the caller that made it. -/
def change? : LockEntry α → Option (Caller × (α → α))
  | ⟨.update caller f, .updated _⟩ => some (caller, f)
  | _ => none

/-- The caller that was let out, because it gave the lock back or because it failed. -/
def letOut? : LockEntry α → Option Caller
  | ⟨.release caller, .done⟩ | ⟨.unwind caller, .done⟩ => some caller
  | _ => none

end LockEntry

namespace LockState

/-- The changes that were made, one after the other. -/
def updates (log : List (LockEntry α)) : List (α → α) :=
  log.filterMap fun e => e.change?.map Prod.snd

/-- The changes that `caller` makes until it is let out. -/
def tenure (caller : Caller) : List (LockEntry α) → List (α → α)
  | [] => []
  | e :: log =>
    if e.letOut? = some caller then []
    else ((e.change?.filter (·.1 = caller)).map Prod.snd).toList ++ tenure caller log

/-- The callers that are let in, one after the other, each with the changes that it makes until it
is let out. -/
def tenures : List (LockEntry α) → List (Caller × List (α → α))
  | [] => []
  | e :: log => (e.letIn?.map fun caller => (caller, tenure caller log)).toList ++ tenures log

@[simp] theorem updates_cons (e : LockEntry α) (log : List (LockEntry α)) :
    updates (e :: log) = (e.change?.map Prod.snd).toList ++ updates log := by
  rw [updates, List.filterMap_cons, updates]
  cases e.change?.map Prod.snd <;> rfl

@[simp] theorem tenure_cons (caller : Caller) (e : LockEntry α) (log : List (LockEntry α)) :
    tenure caller (e :: log) =
      if e.letOut? = some caller then []
      else ((e.change?.filter (·.1 = caller)).map Prod.snd).toList ++ tenure caller log := rfl

@[simp] theorem tenures_cons (e : LockEntry α) (log : List (LockEntry α)) :
    tenures (e :: log) =
      (e.letIn?.map fun caller => (caller, tenure caller log)).toList ++ tenures log := rfl

/-- The callers that have yet to look at their token, but for one of them. -/
theorem lookup_missedBut (s : LockState α μ) (caller c : Caller) :
    (s.missedBut caller).lookup c = if c = caller then none else s.missed.lookup c := by
  rw [missedBut]
  induction s.missed with
  | nil => simp
  | cons x missed ih =>
    obtain ⟨c', token⟩ := x
    by_cases hx : c' = caller
    · subst hx
      rw [List.filter_cons_of_neg (by simp), ih]
      by_cases hc : c = c'
      · simp [hc]
      · simp [hc, List.lookup_cons, beq_eq_false_iff_ne.2 hc]
    · rw [List.filter_cons_of_pos (by simp [hx]), List.lookup_cons, List.lookup_cons, ih]
      by_cases hc : c = c'
      · simp [hc, hx]
      · simp [beq_eq_false_iff_ne.2 hc]

variable [RawMutex μ] {s s' : LockState α μ} {a : LockAction α} {reply : LockReply α}

/-- The log of a run: its steps, each with what it told the caller. -/
def log (s : LockState α μ) (actions : List (LockAction α)) : List (LockEntry α) :=
  actions.zipWith LockEntry.mk (s.run actions).2

theorem log_cons (s : LockState α μ) (a : LockAction α) (actions : List (LockAction α)) :
    s.log (a :: actions) = ⟨a, (s.step a).2⟩ :: (s.step a).1.log actions := rfl

theorem run_cons_fst (s : LockState α μ) (a : LockAction α) (actions : List (LockAction α)) :
    (s.run (a :: actions)).1 = ((s.step a).1.run actions).1 := rfl

theorem run_append_fst (s : LockState α μ) (actions more : List (LockAction α)) :
    (s.run (actions ++ more)).1 = ((s.run actions).1.run more).1 := by
  induction actions generalizing s with
  | nil => rfl
  | cons a actions ih => rw [List.cons_append, run_cons_fst, ih, run_cons_fst]

/-! ### One step -/

/-- At most one caller is in, and the mutex is locked exactly while one is. -/
structure Sound (s : LockState α μ) : Prop where
  /-- There are no two callers in. -/
  length_le : s.guards.length ≤ 1
  /-- The mutex says whether there is one. -/
  isLocked_iff : RawMutex.isLocked s.mutex = true ↔ s.guards ≠ []

/-- What a step can do: from `s` it leads to `s'`, and tells the caller `reply`. -/
inductive Moves (s : LockState α μ) :
    LockAction α → LockState α μ → LockReply α → Prop where
  /-- A poll ends while nobody is in. The token makes no difference. -/
  | polled {caller : Caller} {token : CancelToken} {mutex : μ} (hfree : s.guards = [])
      (hmutex : RawMutex.isLocked mutex = true) :
      Moves s (.poll caller token)
        { s with mutex, guards := [caller], missed := s.missedBut caller } (.acquired s.value)
  /-- A poll ends while somebody is in. -/
  | missed {caller : Caller} {token : CancelToken} {mutex : μ} (hheld : s.guards ≠ [])
      (hmutex : RawMutex.isLocked mutex = true) :
      Moves s (.poll caller token)
        { s with mutex, missed := (caller, token) :: s.missedBut caller } .waiting
  /-- After a poll in vain the token is found fired. -/
  | gaveUp {caller : Caller} {token : CancelToken} (hmissed : s.missed.lookup caller = some token)
      (hfired : s.cancellations.isFired token = true) :
      Moves s (.check caller) { s with missed := s.missedBut caller } (.failed .cancelled)
  /-- After a poll in vain the token is not found fired. -/
  | wentOn {caller : Caller} {token : CancelToken} (hmissed : s.missed.lookup caller = some token)
      (hfired : s.cancellations.isFired token = false) :
      Moves s (.check caller) { s with missed := s.missedBut caller } .waiting
  /-- A caller asks while nobody is in. -/
  | took {caller : Caller} {mutex : μ} (hfree : s.guards = [])
      (hmutex : RawMutex.isLocked mutex = true) :
      Moves s (.tryLock caller) { s with mutex, guards := [caller] } (.acquired s.value)
  /-- A caller asks while somebody is in. -/
  | blocked {caller : Caller} {mutex : μ} (hheld : s.guards ≠ [])
      (hmutex : RawMutex.isLocked mutex = true) :
      Moves s (.tryLock caller) { s with mutex } (.failed .wouldBlock)
  /-- The caller that is in changes the value. -/
  | changed {caller : Caller} {f : α → α} (hheld : s.guards = [caller]) :
      Moves s (.update caller f) { s with value := f s.value } (.updated (f s.value))
  /-- The caller that is in gives the lock back, or fails. -/
  | left {a : LockAction α} {caller : Caller} {mutex : μ}
      (ha : a = .release caller ∨ a = .unwind caller) (hheld : s.guards = [caller])
      (hmutex : RawMutex.isLocked mutex = false) :
      Moves s a { s with mutex, guards := [] } .done
  /-- A token is fired. -/
  | fired {token : CancelToken} :
      Moves s (.cancel token) { s with cancellations := s.cancellations.fire token } .done
  /-- There is no poll in vain to look back on. -/
  | strayCheck {caller : Caller} (hmissed : s.missed.lookup caller = none) :
      Moves s (.check caller) s .refused
  /-- The step is for the caller that is in, and this one is not. -/
  | stray {a : LockAction α} {caller : Caller} (hout : caller ∉ s.guards)
      (ha : a = .release caller ∨ a = .unwind caller ∨ ∃ f, a = .update caller f) :
      Moves s a s .refused

theorem sound_new [LawfulRawMutex μ] (v : α) : (new v : LockState α μ).Sound where
  length_le := Nat.zero_le 1
  isLocked_iff := by
    rw [new, LawfulRawMutex.isLocked_free]
    simp

theorem Sound.guards_eq_nil (h : s.Sound) (hfree : RawMutex.isLocked s.mutex = false) :
    s.guards = [] := by
  by_contra hheld
  rw [h.isLocked_iff.2 hheld] at hfree
  exact absurd hfree nofun

theorem Sound.guards_eq_singleton (h : s.Sound) {caller : Caller} (hmem : caller ∈ s.guards) :
    s.guards = [caller] := by
  have hlength := h.length_le
  match hguards : s.guards with
  | [] => simp [hguards] at hmem
  | [c] => simpa [hguards, eq_comm] using hmem
  | c :: c' :: rest =>
    rw [hguards] at hlength
    simp at hlength

theorem Sound.moves_giveBack [LawfulRawMutex μ] (h : s.Sound) {caller : Caller}
    (ha : a = .release caller ∨ a = .unwind caller) :
    s.Moves a (s.giveBack caller).1 (s.giveBack caller).2 := by
  rw [giveBack]
  split
  · next hmem =>
    have hheld : s.guards = [caller] := h.guards_eq_singleton hmem
    rw [hheld, List.erase_cons_head]
    exact .left ha hheld (LawfulRawMutex.isLocked_unlock s.mutex)
  · next hout =>
    refine .stray hout ?_
    rcases ha with rfl | rfl <;> simp

/-- **There are no other steps.** -/
theorem Sound.moves [LawfulRawMutex μ] (h : s.Sound) (a : LockAction α) :
    s.Moves a (s.step a).1 (s.step a).2 := by
  cases a with
  | poll caller token =>
    have hgot := LawfulRawMutex.tryLockFor_snd s.mutex
    have hlocked := LawfulRawMutex.isLocked_tryLockFor s.mutex
    rw [step]
    rcases hpoll : RawMutex.tryLockFor s.mutex with ⟨mutex, _ | _⟩ <;> rw [hpoll] at hgot hlocked
    · exact .missed (h.isLocked_iff.1 (by simpa using hgot)) hlocked
    · have hfree : s.guards = [] := h.guards_eq_nil (by simpa using hgot)
      simp only [hfree]
      exact .polled hfree hlocked
  | check caller =>
    rw [step]
    cases hmissed : s.missed.lookup caller with
    | none => exact .strayCheck hmissed
    | some token =>
      by_cases hfired : s.cancellations.isFired token = true
      · simp only [if_pos hfired]
        exact .gaveUp hmissed hfired
      · simp only [if_neg hfired]
        exact .wentOn hmissed (by simpa using hfired)
  | tryLock caller =>
    have hgot := LawfulRawMutex.tryLock_snd s.mutex
    have hlocked := LawfulRawMutex.isLocked_tryLock s.mutex
    rw [step]
    rcases hask : RawMutex.tryLock s.mutex with ⟨mutex, _ | _⟩ <;> rw [hask] at hgot hlocked
    · exact .blocked (h.isLocked_iff.1 (by simpa using hgot)) hlocked
    · have hfree : s.guards = [] := h.guards_eq_nil (by simpa using hgot)
      simp only [hfree]
      exact .took hfree hlocked
  | update caller f =>
    rw [step]
    split
    · next hmem => exact .changed (h.guards_eq_singleton hmem)
    · next hout => exact .stray hout (by simp)
  | release caller => exact h.moves_giveBack (.inl rfl)
  | unwind caller => exact h.moves_giveBack (.inr rfl)
  | cancel token => exact .fired

/-- What one step preserves. -/
theorem Sound.of_moves (h : s.Sound) (hmove : s.Moves a s' reply) : s'.Sound := by
  cases hmove with
  | polled hfree hmutex | took hfree hmutex => exact ⟨Nat.le_refl 1, by simp [hmutex]⟩
  | missed hheld hmutex | blocked hheld hmutex => exact ⟨h.length_le, by simp [hmutex, hheld]⟩
  | left ha hheld hmutex => exact ⟨Nat.zero_le 1, by simp [hmutex]⟩
  | gaveUp | wentOn | changed | fired | strayCheck | stray => exact ⟨h.length_le, h.isLocked_iff⟩

theorem Sound.step [LawfulRawMutex μ] (h : s.Sound) (a : LockAction α) : (s.step a).1.Sound :=
  h.of_moves (h.moves a)

/-- **A caller has yet to look at its token** because it has just polled in vain, or did so before
and its wait has not gone on. -/
theorem Moves.lookup_missed (hmove : s.Moves a s' reply) {caller : Caller} {token : CancelToken}
    (h : s'.missed.lookup caller = some token) :
    (a = .poll caller token ∧ s.guards ≠ []) ∨
      (a.waiter? ≠ some caller ∧ s.missed.lookup caller = some token) := by
  have hbut : ∀ {c : Caller}, (s.missedBut c).lookup caller = some token →
      c ≠ caller ∧ s.missed.lookup caller = some token := by
    intro c hc
    rw [lookup_missedBut] at hc
    by_cases heq : caller = c
    · simp [heq] at hc
    · exact ⟨Ne.symm heq, by simpa [heq] using hc⟩
  cases hmove with
  | polled | gaveUp | wentOn =>
    obtain ⟨hne, hbefore⟩ := hbut h
    exact .inr ⟨by simpa [LockAction.waiter?] using hne, hbefore⟩
  | @missed c token' mutex hheld hmutex =>
    by_cases heq : caller = c
    · subst heq
      obtain rfl : token' = token := by simpa using h
      exact .inl ⟨rfl, hheld⟩
    · rw [List.lookup_cons, beq_eq_false_iff_ne.2 heq] at h
      obtain ⟨hne, hbefore⟩ := hbut h
      exact .inr ⟨by simpa [LockAction.waiter?] using hne, hbefore⟩
  | @strayCheck c hmissed =>
    refine .inr ⟨?_, h⟩
    rintro heq
    obtain rfl : c = caller := Option.some.inj heq
    exact absurd (hmissed.symm.trans h) nofun
  | left ha => rcases ha with rfl | rfl <;> exact .inr ⟨nofun, h⟩
  | stray hout ha => rcases ha with rfl | rfl | ⟨f, rfl⟩ <;> exact .inr ⟨nofun, h⟩
  | took | blocked | changed | fired => exact .inr ⟨nofun, h⟩

/-- A wait that is given up had ended in vain, and its token is fired. -/
theorem Moves.of_cancelled (hmove : s.Moves a s' (.failed .cancelled)) :
    ∃ caller token, a = .check caller ∧ s.missed.lookup caller = some token ∧
      s.cancellations.isFired token = true := by
  cases hmove with
  | gaveUp hmissed hfired => exact ⟨_, _, rfl, hmissed, hfired⟩

/-- A caller that does not wait is turned away only while somebody is in. -/
theorem Moves.of_wouldBlock (hmove : s.Moves a s' (.failed .wouldBlock)) :
    (∃ caller, a = .tryLock caller) ∧ s.guards ≠ [] := by
  cases hmove with
  | blocked hheld => exact ⟨⟨_, rfl⟩, hheld⟩

/-- Neither a wait that goes on nor a call that fails changes the value, or who is in. -/
theorem Moves.of_not_letIn (hmove : s.Moves a s' reply)
    (h : reply = .waiting ∨ ∃ e, reply = .failed e) :
    s'.value = s.value ∧ s'.guards = s.guards := by
  cases hmove with
  | missed | gaveUp | wentOn | blocked => exact ⟨rfl, rfl⟩
  | polled | took | changed | left | fired | strayCheck | stray => simp at h

/-- Where nobody is in, whoever asks is let in. -/
theorem Moves.of_free (hmove : s.Moves a s' reply) (hfree : s.guards = []) {caller : Caller}
    (ha : a = .tryLock caller ∨ ∃ token, a = .poll caller token) :
    reply = .acquired s.value ∧ s'.guards = [caller] := by
  rcases ha with rfl | ⟨token, rfl⟩
  · cases hmove with
    | took => exact ⟨rfl, rfl⟩
    | blocked hheld => exact absurd hfree hheld
    | left ha | stray hout ha => simp at ha
  · cases hmove with
    | polled => exact ⟨rfl, rfl⟩
    | missed hheld => exact absurd hfree hheld
    | left ha | stray hout ha => simp at ha

/-- **One round of a wait**: who has the lock and whether the token is fired decide how it ends, if
it does. -/
theorem Sound.wait_snd [LawfulRawMutex μ] (h : s.Sound) (caller : Caller) (token : CancelToken) :
    (s.wait caller token).2 =
      match acquisition? (!s.guards.isEmpty) (s.cancellations.isFired token) with
      | some .granted => .acquired s.value
      | some .cancelled => .failed .cancelled
      | none => .waiting := by
  have hmove := h.moves (.poll caller token)
  rw [wait]
  rcases hpoll : s.step (.poll caller token) with ⟨s', reply⟩
  rw [hpoll] at hmove
  cases hmove with
  | polled hfree => simp [hfree, acquisition?]
  | missed hheld =>
    cases hfired : s.cancellations.isFired token <;>
      simp [LockState.step, acquisition?, hfired, hheld]
  | left ha | stray hout ha => simp at ha

/-! ### Runs -/

section Runs

variable [LawfulRawMutex μ] {actions : List (LockAction α)} {caller : Caller} {token : CancelToken}

/-- **What one step preserves, a run preserves.** -/
theorem Sound.run (h : s.Sound) (actions : List (LockAction α)) : (s.run actions).1.Sound := by
  induction actions generalizing s with
  | nil => exact h
  | cons a actions ih => exact ih (h.step a)

/-- A token is fired if it was, or if a step fires it. -/
theorem Sound.isFired_run (h : s.Sound) (actions : List (LockAction α)) (token : CancelToken) :
    (s.run actions).1.cancellations.isFired token = true ↔
      s.cancellations.isFired token = true ∨ .cancel token ∈ actions := by
  induction actions generalizing s with
  | nil => simp [LockState.run]
  | cons a actions ih =>
    rw [run_cons_fst, ih (h.step a), List.mem_cons]
    have hmove := h.moves a
    generalize (s.step a).1 = s', (s.step a).2 = reply at hmove ⊢
    cases hmove with
    | fired =>
      rw [Cancellations.isFired_fire]
      simp [or_assoc, or_left_comm]
    | left ha => rcases ha with rfl | rfl <;> simp
    | stray hout ha => rcases ha with rfl | rfl | ⟨f, rfl⟩ <;> simp
    | polled | missed | gaveUp | wentOn | took | blocked | changed | strayCheck => simp

/-- **Who has yet to look at its token polled in vain**: somebody was in when the poll ended, and
the wait has not gone on since. -/
theorem lookup_missed_run (v : α)
    (h : ((new v : LockState α μ).run actions).1.missed.lookup caller = some token) :
    ∃ earlier later, actions = earlier ++ .poll caller token :: later ∧
      (∀ b ∈ later, b.waiter? ≠ some caller) ∧
      ((new v : LockState α μ).run earlier).1.guards ≠ [] := by
  induction actions using List.reverseRecOn with
  | nil => exact absurd h nofun
  | append_singleton actions a ih =>
    rw [run_append_fst] at h
    rcases (((sound_new v).run actions).moves a).lookup_missed h with
      ⟨rfl, hheld⟩ | ⟨hwaiter, hbefore⟩
    · exact ⟨actions, [], rfl, nofun, hheld⟩
    · obtain ⟨earlier, later, rfl, hlater, hheld⟩ := ih hbefore
      refine ⟨earlier, later ++ [a], by simp, ?_, hheld⟩
      intro b hb
      rcases List.mem_append.1 hb with hb | hb
      · exact hlater b hb
      · rwa [List.mem_singleton.1 hb]

/-! ### Tenures -/

/-- The value is that of the changes, one after the other. -/
theorem Sound.value_run (h : s.Sound) (actions : List (LockAction α)) :
    (s.run actions).1.value = (updates (s.log actions)).foldl (fun v f => f v) s.value := by
  induction actions generalizing s with
  | nil => rfl
  | cons a actions ih =>
    rw [run_cons_fst, ih (h.step a), log_cons]
    have hmove := h.moves a
    generalize (s.step a).1 = s', (s.step a).2 = reply at hmove ⊢
    cases hmove with
    | changed => rfl
    | left ha => rcases ha with rfl | rfl <;> rfl
    | stray hout ha => rcases ha with rfl | rfl | ⟨f, rfl⟩ <;> rfl
    | polled | missed | gaveUp | wentOn | took | blocked | fired | strayCheck => rfl

/-- **Tenures do not overlap**: the changes of a run are those of the caller that is in, until it is
let out, and then those of one tenure after the other. -/
theorem Sound.updates_log (h : s.Sound) (actions : List (LockAction α)) :
    updates (s.log actions) =
      s.guards.flatMap (tenure · (s.log actions)) ++
        (tenures (s.log actions)).flatMap Prod.snd := by
  induction actions generalizing s with
  | nil => simp [log, updates, tenure, tenures]
  | cons a actions ih =>
    have hrest := ih (h.step a)
    rw [log_cons]
    have hmove := h.moves a
    generalize (s.step a).1 = s', (s.step a).2 = reply at hmove hrest ⊢
    generalize s'.log actions = log at hrest ⊢
    cases hmove with
    | polled hfree | took hfree =>
      rw [hfree]
      simpa [LockEntry.letIn?, LockEntry.change?] using hrest
    | changed hheld =>
      rw [hheld] at hrest ⊢
      simpa [LockEntry.letIn?, LockEntry.change?, LockEntry.letOut?, Option.filter] using hrest
    | left ha hheld =>
      rw [hheld]
      rcases ha with rfl | rfl <;>
        simpa [LockEntry.letIn?, LockEntry.change?, LockEntry.letOut?] using hrest
    | stray hout ha =>
      rcases ha with rfl | rfl | ⟨f, rfl⟩ <;>
        simpa [LockEntry.letIn?, LockEntry.change?, LockEntry.letOut?] using hrest
    | missed | gaveUp | wentOn | blocked | fired | strayCheck =>
      simpa [LockEntry.letIn?, LockEntry.change?, LockEntry.letOut?] using hrest

/-- **One caller at a time**, whatever any number of callers do in whatever order. At most one is
in. A wait is given up only if its token, or a copy of it, was fired, and somebody was in when its
last poll ended; a caller that does not wait is turned away only while somebody is in. Neither
changes the value, or who is in. A fired token stays fired, and so do its copies, but whoever asks
while nobody is in is let in, whatever the token. And the value is that of the changes tenure by
tenure, in the order in which the callers were let in, whether they gave the lock back or failed: no
change of a caller that is in is refused, and none is lost. -/
theorem run_excludes (μ : Type) [RawMutex μ] [LawfulRawMutex μ] (v : α)
    (actions : List (LockAction α)) :
    let start : LockState α μ := new v
    let s := (start.run actions).1
    s.guards.length ≤ 1 ∧
      (∀ a, (s.step a).2 = .failed .cancelled → ∃ caller token earlier later,
        a = .check caller ∧ actions = earlier ++ .poll caller token :: later ∧
          (∀ b ∈ later, b.waiter? ≠ some caller) ∧ (start.run earlier).1.guards ≠ [] ∧
          ∃ fired, .cancel fired ∈ actions ∧ fired.flag = token.flag) ∧
      (∀ a, (s.step a).2 = .failed .wouldBlock →
        (∃ caller, a = .tryLock caller) ∧ s.guards ≠ []) ∧
      (∀ a, ((s.step a).2 = .waiting ∨ ∃ e, (s.step a).2 = .failed e) →
        (s.step a).1.value = s.value ∧ (s.step a).1.guards = s.guards) ∧
      (∀ token copy more, s.cancellations.isFired token = true → copy.flag = token.flag →
        (s.run more).1.cancellations.isFired copy = true) ∧
      (s.guards = [] → ∀ caller a, (a = .tryLock caller ∨ ∃ token, a = .poll caller token) →
        (s.step a).2 = .acquired s.value ∧ (s.step a).1.guards = [caller]) ∧
      (∀ caller f, caller ∈ s.guards → (s.step (.update caller f)).2 = .updated (f s.value)) ∧
      updates (start.log actions) = (tenures (start.log actions)).flatMap Prod.snd ∧
      s.value = (updates (start.log actions)).foldl (fun v f => f v) v := by
  intro start s
  have hstart : start.Sound := sound_new v
  have hs : s.Sound := hstart.run actions
  refine ⟨hs.length_le, ?_, ?_, ?_, ?_, ?_, ?_, hstart.updates_log actions,
    hstart.value_run actions⟩
  · intro a h
    obtain ⟨caller, token, rfl, hmissed, hfired⟩ := (h ▸ hs.moves a).of_cancelled
    obtain ⟨earlier, later, hactions, hlater, hheld⟩ := lookup_missed_run v hmissed
    have hcancel : .cancel token ∈ actions := by
      simpa [start, new, Cancellations.none, Cancellations.isFired] using
        (hstart.isFired_run actions token).1 hfired
    exact ⟨caller, token, earlier, later, rfl, hactions, hlater, hheld, token, hcancel, rfl⟩
  · intro a h
    exact (h ▸ hs.moves a).of_wouldBlock
  · intro a h
    exact (hs.moves a).of_not_letIn h
  · rintro ⟨flag⟩ ⟨flag'⟩ more hfired rfl
    exact (hs.isFired_run more _).2 (.inl hfired)
  · intro hfree caller a ha
    exact (hs.moves a).of_free hfree ha
  · intro caller f hmem
    rw [step, if_pos hmem]

/-- A caller polls in vain while another is in. Its token is fired, and the other changes the value
once more and fails. The wait is given up, although nobody is in now; but the next poll with the
same token is let in, and sees both changes. -/
theorem run_excludes_after_unwinding :
    let actions : List (LockAction Nat) :=
      [.tryLock 1, .update 1 (· + 5), .poll 2 ⟨7⟩, .tryLock 3, .cancel ⟨7⟩, .update 1 (· * 2),
        .unwind 1]
    let start : LockState Nat Latch := new 3
    let s := (start.run actions).1
    LawfulRawMutex Latch ∧ s.guards = [] ∧ s.value = 16 ∧
      (s.step (.check 2)).2 = .failed .cancelled ∧ (s.step (.check 2)).1.value = s.value ∧
      (∃ token earlier later, actions = earlier ++ .poll 2 token :: later ∧
        (start.run earlier).1.guards ≠ [] ∧ ∃ fired, .cancel fired ∈ actions ∧
        fired.flag = token.flag) ∧
      (s.step (.poll 2 ⟨7⟩)).2 = .acquired s.value ∧
      (tenures (start.log actions)).map Prod.fst = [1] ∧
      s.value = ((tenures (start.log actions)).flatMap Prod.snd).foldl (fun v f => f v) 3 := by
  intro actions start s
  have hfree : s.guards = [] := by decide
  have hcancelled : (s.step (.check 2)).2 = .failed .cancelled := by decide
  obtain ⟨-, hgaveUp, -, hsame, -, hlets, -, hupdates, hvalue⟩ := run_excludes Latch 3 actions
  obtain ⟨caller, token, earlier, later, hcheck, hactions, -, hheld, hfired⟩ :=
    hgaveUp _ hcancelled
  obtain rfl : 2 = caller := LockAction.check.inj hcheck
  refine ⟨inferInstance, hfree, by decide, hcancelled, (hsame _ (.inr ⟨_, hcancelled⟩)).1,
    ⟨token, earlier, later, hactions, hheld, hfired⟩, (hlets hfree 2 _ (.inr ⟨_, rfl⟩)).1, rfl, ?_⟩
  rw [← hupdates]
  exact hvalue

end Runs

end LockState

end RecordRing
