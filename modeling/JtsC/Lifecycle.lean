import Mathlib

/-! # `initJTS`, `finishJTS` and the host threads

The wrapper keeps its process-wide state in four statics: the VM libgcj creates, the factory
`jtsGeomFactory`, and the two callbacks `NOTICE_MESSAGE` and `ERROR_MESSAGE`
(`JtsC.Process`). Any number of host threads call `initJTS`, `finishJTS` and the API in any
interleaving (`JtsC.runFrom`, over a trace of `(thread, call)` events).

`initJTS` creates the VM and attaches the calling thread only while `jtsGeomFactory` is NULL,
that is at the first `initJTS` of the process; `finishJTS` detaches its caller. So the one
thread attached at any point is the thread of the first `initJTS`, until it calls
`finishJTS` (`JtsC.attached_iff`); a later `initJTS`, from another thread or after
`finishJTS`, attaches no one (`JtsC.initJTS_again_detached`). Each `initJTS` does replace the
callbacks (`JtsC.callbacks_eq_lastInit`), and the VM is created once
(`JtsC.javaVMs_eq`).
-/

namespace JtsC

/-- A host thread, by its identity. -/
abbrev Thread := Nat

/-- A `JTSMessageHandler` as the statics hold it: the callback's address. -/
abbrev MessageHandler := Nat

/-- **The process-wide state** of the wrapper, and which host threads the VM has attached. -/
structure Process where
  /-- How many times `JvCreateJavaVM` ran. -/
  javaVMs : Nat
  /-- Whether `jtsGeomFactory` is non-NULL. -/
  factory : Bool
  /-- `NOTICE_MESSAGE`. -/
  noticeMessage : Option MessageHandler
  /-- `ERROR_MESSAGE`. -/
  errorMessage : Option MessageHandler
  attached : Thread → Bool

/-- The process before any call: no VM, NULL statics, no thread attached. -/
def Process.initial : Process := ⟨0, false, none, none, fun _ => false⟩

/-- A call a host thread makes. -/
inductive Call
  | initJTS (notice error : MessageHandler)
  | finishJTS
  /-- Any exported function: it leaves the process state as it is. -/
  | api
  deriving DecidableEq, Repr

/-- `initJTS (nf, ef)` on thread `t`: the VM, the attachment of `t` and the factory only when
`jtsGeomFactory == NULL`, the callbacks always. -/
def initJTS (p : Process) (t : Thread) (nf ef : MessageHandler) : Process :=
  if p.factory then { p with noticeMessage := some nf, errorMessage := some ef }
  else ⟨p.javaVMs + 1, true, some nf, some ef, Function.update p.attached t true⟩

/-- `finishJTS ()` on thread `t`: `JvDetachCurrentThread ()`. -/
def finishJTS (p : Process) (t : Thread) : Process :=
  { p with attached := Function.update p.attached t false }

/-- One event of a trace: a call and the thread that makes it. -/
def step (p : Process) : Thread × Call → Process
  | (t, .initJTS nf ef) => initJTS p t nf ef
  | (t, .finishJTS) => finishJTS p t
  | (_, .api) => p

/-- The process after a trace of events. -/
def runFrom (p : Process) (trace : List (Thread × Call)) : Process := trace.foldl step p

section

variable (p : Process) (t u : Thread) (nf ef : MessageHandler)

@[simp] theorem initJTS_attached :
    (initJTS p t nf ef).attached = if p.factory then p.attached else Function.update p.attached t true := by
  unfold initJTS; split <;> rfl

@[simp] theorem initJTS_factory : (initJTS p t nf ef).factory = true := by
  unfold initJTS; split <;> simp_all

@[simp] theorem initJTS_javaVMs :
    (initJTS p t nf ef).javaVMs = if p.factory then p.javaVMs else p.javaVMs + 1 := by
  unfold initJTS; split <;> rfl

@[simp] theorem initJTS_noticeMessage : (initJTS p t nf ef).noticeMessage = some nf := by
  unfold initJTS; split <;> rfl

@[simp] theorem initJTS_errorMessage : (initJTS p t nf ef).errorMessage = some ef := by
  unfold initJTS; split <;> rfl

@[simp] theorem finishJTS_attached :
    (finishJTS p t).attached = Function.update p.attached t false := rfl

@[simp] theorem finishJTS_factory : (finishJTS p t).factory = p.factory := rfl

@[simp] theorem finishJTS_javaVMs : (finishJTS p t).javaVMs = p.javaVMs := rfl

@[simp] theorem finishJTS_noticeMessage : (finishJTS p t).noticeMessage = p.noticeMessage := rfl

@[simp] theorem finishJTS_errorMessage : (finishJTS p t).errorMessage = p.errorMessage := rfl

@[simp] theorem step_initJTS : step p (t, .initJTS nf ef) = initJTS p t nf ef := rfl

@[simp] theorem step_finishJTS : step p (t, .finishJTS) = finishJTS p t := rfl

@[simp] theorem step_api : step p (t, .api) = p := rfl

end

@[simp] theorem runFrom_nil (p : Process) : runFrom p [] = p := rfl

@[simp] theorem runFrom_cons (p : Process) (e : Thread × Call) (rest : List (Thread × Call)) :
    runFrom p (e :: rest) = runFrom (step p e) rest := rfl

/-- The thread of a trace's first `initJTS`, the one that finds `jtsGeomFactory` NULL, and the
events after it. -/
def firstInit : List (Thread × Call) → Option (Thread × List (Thread × Call))
  | [] => none
  | (t, .initJTS _ _) :: rest => some (t, rest)
  | _ :: rest => firstInit rest

/-- Once the factory is set, a thread stays attached exactly until it calls `finishJTS`. -/
theorem runFrom_attached_of_factory (trace : List (Thread × Call)) {p : Process}
    (set : p.factory = true) (t : Thread) :
    (runFrom p trace).attached t = true ↔ p.attached t = true ∧ (t, .finishJTS) ∉ trace := by
  induction trace generalizing p with
  | nil => simp
  | cons e rest ih =>
      obtain ⟨u, call⟩ := e
      cases call with
      | initJTS nf ef => simp [ih, set]
      | finishJTS =>
          rw [runFrom_cons, ih (by simp [set])]
          by_cases same : t = u
          · subst same; simp
          · simp [Function.update_noteq same, same]
      | api => simp [ih set]

/-- Before the factory is set no thread is attached, and the thread of the first `initJTS`
is the one that gets attached. -/
theorem runFrom_attached_of_fresh (trace : List (Thread × Call)) {p : Process}
    (fresh : p.factory = false) (none : ∀ u, p.attached u = false) (t : Thread) :
    (runFrom p trace).attached t = true ↔
      ∃ rest, firstInit trace = some (t, rest) ∧ (t, .finishJTS) ∉ rest := by
  induction trace generalizing p with
  | nil => simp [none, firstInit]
  | cons e rest ih =>
      obtain ⟨u, call⟩ := e
      cases call with
      | initJTS nf ef =>
          rw [runFrom_cons, step_initJTS, runFrom_attached_of_factory rest (initJTS_factory p u nf ef)]
          simp only [initJTS_attached, fresh, firstInit, Option.some.injEq, Prod.mk.injEq]
          by_cases same : t = u
          · subst same; simp
          · simp [Function.update_noteq same, none, Ne.symm same]
      | finishJTS =>
          rw [runFrom_cons, ih (by simp [fresh]) (by simp [Function.update_apply, none])]
          rfl
      | api => exact ih fresh none

/-- The callbacks of the last `initJTS` of a trace. -/
def lastInit : List (Thread × Call) → Option (MessageHandler × MessageHandler)
  | [] => none
  | (_, .initJTS nf ef) :: rest => (lastInit rest).or (some (nf, ef))
  | _ :: rest => lastInit rest

theorem runFrom_callbacks (trace : List (Thread × Call)) (p : Process) :
    (runFrom p trace).noticeMessage = ((lastInit trace).map Prod.fst).or p.noticeMessage ∧
      (runFrom p trace).errorMessage = ((lastInit trace).map Prod.snd).or p.errorMessage := by
  induction trace generalizing p with
  | nil => simp [lastInit]
  | cons e rest ih =>
      obtain ⟨u, call⟩ := e
      cases call with
      | initJTS nf ef => cases last : lastInit rest <;> simp [lastInit, last, ih]
      | finishJTS => simpa [lastInit] using ih (finishJTS p u)
      | api => simpa [lastInit] using ih p

/-- **Which threads are attached.** After any interleaving of calls, a thread is attached
exactly when it made the process's first `initJTS` and has not called `finishJTS` since; the
callbacks are those of the last `initJTS`, which each `initJTS` replaces. -/
theorem attached_iff (trace : List (Thread × Call)) (t : Thread) :
    ((runFrom .initial trace).attached t = true ↔
      ∃ rest, firstInit trace = some (t, rest) ∧ (t, .finishJTS) ∉ rest) ∧
    (runFrom .initial trace).noticeMessage = (lastInit trace).map Prod.fst ∧
      (runFrom .initial trace).errorMessage = (lastInit trace).map Prod.snd := by
  refine ⟨runFrom_attached_of_fresh trace rfl (fun _ => rfl) t, ?_⟩
  simpa [Process.initial] using runFrom_callbacks trace .initial

/-- Whether `t`'s most recent `initJTS` or `finishJTS` in a trace is an `initJTS`. -/
def initializedLast (t : Thread) (trace : List (Thread × Call)) : Bool :=
  trace.foldl (fun last (u, call) =>
    if u = t then
      match call with
      | .initJTS _ _ => true
      | .finishJTS => false
      | .api => last
    else last) false

/-- `initJTS`, `finishJTS`, `initJTS` on one thread: its last lifecycle call is `initJTS`, and
it is not attached. -/
theorem initJTS_again_detached :
    ¬ ∀ (trace : List (Thread × Call)) (t : Thread), initializedLast t trace = true →
      (runFrom .initial trace).attached t = true := by
  intro attachedAfterInit
  have := attachedAfterInit [(0, .initJTS 1 2), (0, .finishJTS), (0, .initJTS 1 2)] 0 rfl
  exact absurd this (by decide)

/-- **The callbacks** after any trace are those of its last `initJTS`, NULL before the first. -/
theorem callbacks_eq_lastInit (trace : List (Thread × Call)) :
    (runFrom .initial trace).noticeMessage = (lastInit trace).map Prod.fst ∧
      (runFrom .initial trace).errorMessage = (lastInit trace).map Prod.snd := by
  simpa [Process.initial] using runFrom_callbacks trace .initial

theorem runFrom_javaVMs_of_factory (trace : List (Thread × Call)) {p : Process}
    (set : p.factory = true) : (runFrom p trace).javaVMs = p.javaVMs := by
  induction trace generalizing p with
  | nil => rfl
  | cons e rest ih =>
      obtain ⟨u, call⟩ := e
      cases call <;> simp [ih, set]

/-- **The VM is created once**: after any trace, `JvCreateJavaVM` has run once if the trace
has an `initJTS` and never otherwise. -/
theorem javaVMs_eq (trace : List (Thread × Call)) :
    (runFrom .initial trace).javaVMs = if (firstInit trace).isSome then 1 else 0 := by
  suffices ∀ p : Process, p.factory = false →
      (runFrom p trace).javaVMs = p.javaVMs + if (firstInit trace).isSome then 1 else 0 from
    (this .initial rfl).trans (Nat.zero_add _)
  induction trace with
  | nil => simp [firstInit]
  | cons e rest ih =>
      intro p fresh
      obtain ⟨u, call⟩ := e
      cases call with
      | initJTS nf ef =>
          simp [runFrom_javaVMs_of_factory rest (initJTS_factory p u nf ef), fresh, firstInit]
      | finishJTS => simpa [firstInit] using ih (finishJTS p u) fresh
      | api => simpa [firstInit] using ih p fresh

end JtsC
