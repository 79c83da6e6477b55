import JtsC.Api.Calls
import JtsC.Lifecycle

/-! # Lifecycle and calls in one process

`JtsC.runFrom` follows the statics and the attached threads through `initJTS` and `finishJTS`,
and `JtsC.Export.run` runs one exported call. A session puts the two in one machine
(`JtsC.Session`): host threads make lifecycle calls and exported calls in any interleaving,
and each exported call runs in the process state the events before it left. Two rules of the
runtime meet there. libgcj serves Java only on threads `JvAttachCurrentThread` registered
("this must be called once from each thread, before that thread makes any other Java or CNI
calls"), and a report calls through `NOTICE_MESSAGE` or `ERROR_MESSAGE`, which are NULL until
the first `initJTS` and stay NULL if it was given NULL. A call that breaks either rule is
undefined behaviour (`JtsC.apiCall`).

Forgetting the exported calls' arguments maps a session onto the lifecycle machine
(`JtsC.Session.runFrom_process`), so what is proved of the lifecycle holds of sessions. The
two together say what each call of a session does (`JtsC.session_calls`): a call into Java
runs as the plain call exactly on the thread of the process's first `initJTS`
(`JtsC.liveThread`), until that thread calls `finishJTS`. After that no call into Java is
defined again, from any thread, whatever `initJTS` calls follow (`JtsC.session_no_restart`).
The test program's pattern, `initJTS` with two handlers on its one thread and then only
exported calls, adds nothing: every call runs as the plain call (`JtsC.session_after_init`).
-/

namespace JtsC

/-- The thread the VM has attached after a trace: the thread of its first `initJTS`, until
that thread calls `finishJTS`. -/
def liveThread (trace : List (Thread × Call)) : Option Thread :=
  match firstInit trace with
  | some (u, rest) => if (u, Call.finishJTS) ∈ rest then none else some u
  | none => none

theorem liveThread_eq_some_iff (trace : List (Thread × Call)) (t : Thread) :
    liveThread trace = some t ↔ ∃ rest, firstInit trace = some (t, rest) ∧ (t, .finishJTS) ∉ rest := by
  unfold liveThread
  rcases firstInit trace with _ | ⟨u, rest⟩
  · simp
  · dsimp only
    split_ifs with finished
    · simp only [Option.some.injEq, Prod.mk.injEq, reduceCtorEq, false_iff, not_exists, not_and]
      rintro _ ⟨rfl, rfl⟩
      exact not_not.mpr finished
    · simp only [Option.some.injEq, Prod.mk.injEq]
      exact ⟨by rintro rfl; exact ⟨rest, ⟨rfl, rfl⟩, finished⟩, by rintro ⟨_, ⟨rfl, -⟩, -⟩; rfl⟩

/-- From the initial process, the one attached thread is the live one. -/
theorem attached_initial_iff (trace : List (Thread × Call)) (t : Thread) :
    (runFrom .initial trace).attached t = true ↔ liveThread trace = some t := by
  rw [liveThread_eq_some_iff]
  exact runFrom_attached_of_fresh trace rfl (fun _ => rfl) t

theorem firstInit_append {pre : List (Thread × Call)} {u : Thread} {rest : List (Thread × Call)}
    (first : firstInit pre = some (u, rest)) (post : List (Thread × Call)) :
    firstInit (pre ++ post) = some (u, rest ++ post) := by
  induction pre with
  | nil => cases first
  | cons e more ih =>
      obtain ⟨v, call⟩ := e
      cases call with
      | initJTS nf ef =>
          simp only [firstInit, Option.some.injEq, Prod.mk.injEq] at first
          obtain ⟨rfl, rfl⟩ := first
          rfl
      | finishJTS => exact ih first
      | api => exact ih first

/-- Once the thread of the first `initJTS` has called `finishJTS`, no thread is live again. -/
theorem liveThread_append_none {pre : List (Thread × Call)}
    (started : (firstInit pre).isSome = true) (finished : liveThread pre = none)
    (post : List (Thread × Call)) : liveThread (pre ++ post) = none := by
  obtain ⟨⟨u, rest⟩, first⟩ := Option.isSome_iff_exists.mp started
  have gone : (u, Call.finishJTS) ∈ rest := by
    by_contra alive
    simp [liveThread, first, alive] at finished
  simp [liveThread, firstInit_append first post, gone]

theorem firstInit_of_liveThread {trace : List (Thread × Call)} {t : Thread}
    (live : liveThread trace = some t) : ∃ rest, firstInit trace = some (t, rest) := by
  obtain ⟨rest, first, -⟩ := (liveThread_eq_some_iff trace t).mp live
  exact ⟨rest, first⟩

/-- The function a report calls through when the two statics hold `statics`: the notice
handler for a notice, the error handler for an error. -/
def Report.handler : Report → MessageHandler × MessageHandler → MessageHandler
  | .notice .., (nf, _) => nf
  | .error .., (_, ef) => ef

/-- The static a report calls through, `NOTICE_MESSAGE` or `ERROR_MESSAGE`, as an address.
Both are zero-initialised, so an unset static is NULL, 0, as is a NULL handler given to
`initJTS`. -/
def Process.callback (p : Process) (r : Report) : MessageHandler :=
  r.handler (p.noticeMessage.getD 0, p.errorMessage.getD 0)

/-- After a trace, a report calls through the matching handler of the last `initJTS`, and
through NULL before the first. -/
theorem callback_runFrom (trace : List (Thread × Call)) (r : Report) :
    (runFrom .initial trace).callback r = r.handler ((lastInit trace).getD (0, 0)) := by
  obtain ⟨notice, error⟩ := runFrom_callbacks trace .initial
  cases last : lastInit trace <;> cases r <;>
    simp only [Process.callback, Report.handler, notice, error, last] <;> rfl

variable {Coord : Type}

/-- Whether an exported function calls into Java: all of them but `JTSHasZ`, which returns
`false`, and `JTSPolygonize`, which only reports. -/
def Export.usesJava : Export Coord → Bool
  | .polygonize _ | .hasZ _ => false
  | _ => true

section

variable (engine : Engine Coord)

/-- **An exported call by thread `t` in process state `p`.** The plain call when its Java
calls are made on an attached thread and each of its reports calls through a callback that is
not NULL; undefined behaviour otherwise. -/
def apiCall (p : Process) (t : Thread) (call : Export Coord) : Run (Value Coord) :=
  if (call.usesJava = true → p.attached t = true) ∧
      ∀ r ∈ (call.run engine).reports, p.callback r ≠ 0 then
    call.run engine
  else Run.undefinedBehaviour

/-- An exported call after a trace from the initial process: the conditions of
`JtsC.apiCall` read off the trace. -/
theorem apiCall_runFrom (pre : List (Thread × Call)) (t : Thread) (call : Export Coord) :
    apiCall engine (runFrom .initial pre) t call =
      if (call.usesJava = true → liveThread pre = some t) ∧
          ∀ r ∈ (call.run engine).reports, r.handler ((lastInit pre).getD (0, 0)) ≠ 0 then
        call.run engine
      else Run.undefinedBehaviour := by
  refine if_congr ?_ rfl rfl
  simp only [attached_initial_iff, callback_runFrom]

end

/-- An event of a session: a lifecycle call, or an exported call with its arguments. -/
inductive Event (Coord : Type)
  | initJTS (notice error : MessageHandler)
  | finishJTS
  | api (call : Export Coord)

/-- The lifecycle call an event makes, an exported call's arguments forgotten. -/
def Event.toCall : Event Coord → Call
  | .initJTS nf ef => .initJTS nf ef
  | .finishJTS => .finishJTS
  | .api _ => .api

/-- **A session**: the process state, and what each exported call so far gave its thread. -/
structure Session (Coord : Type) where
  process : Process
  results : List (Thread × Run (Value Coord))

namespace Session

/-- The session before any event. -/
def initial : Session Coord := ⟨.initial, []⟩

@[simp] theorem initial_process : (initial : Session Coord).process = .initial := rfl

/-- A session trace seen by the lifecycle machine. -/
def lifecycle (trace : List (Thread × Event Coord)) : List (Thread × Call) :=
  trace.map fun (t, e) => (t, e.toCall)

theorem lifecycle_append (first second : List (Thread × Event Coord)) :
    lifecycle (first ++ second) = lifecycle first ++ lifecycle second :=
  List.map_append _ _ _

section

variable (engine : Engine Coord)

/-- What an event gives its thread: the result of an exported call, nothing for a lifecycle
call. -/
def result (p : Process) : Thread × Event Coord → List (Thread × Run (Value Coord))
  | (t, .api call) => [(t, apiCall engine p t call)]
  | _ => []

/-- One event: the lifecycle step on the process, and an exported call's result. -/
def step (s : Session Coord) (event : Thread × Event Coord) : Session Coord :=
  ⟨JtsC.step s.process (event.1, event.2.toCall), s.results ++ result engine s.process event⟩

/-- The session after a trace of events. -/
def runFrom (s : Session Coord) (trace : List (Thread × Event Coord)) : Session Coord :=
  trace.foldl (step engine) s

/-- **Sessions refine the lifecycle machine**: after any trace, the process state is the
lifecycle machine's after the trace's lifecycle calls. -/
theorem runFrom_process (s : Session Coord) (trace : List (Thread × Event Coord)) :
    (s.runFrom engine trace).process = JtsC.runFrom s.process (lifecycle trace) := by
  induction trace generalizing s with
  | nil => rfl
  | cons e rest ih => exact ih (s.step engine e)

theorem runFrom_append_api (s : Session Coord) (pre : List (Thread × Event Coord)) (t : Thread)
    (call : Export Coord) :
    (s.runFrom engine (pre ++ [(t, .api call)])).results =
      (s.runFrom engine pre).results ++ [(t, apiCall engine (s.runFrom engine pre).process t call)] := by
  simp only [runFrom, List.foldl_append, List.foldl_cons, List.foldl_nil]
  rfl

end

end Session

variable (engine : Engine Coord)

/-- **No restart.** Once the thread of the first `initJTS` has called `finishJTS`, every later
call into Java, from any thread, is undefined behaviour, whatever `initJTS` calls follow. -/
theorem session_no_restart (pre post : List (Thread × Event Coord))
    (started : (firstInit (Session.lifecycle pre)).isSome = true)
    (finished : liveThread (Session.lifecycle pre) = none) (t : Thread) (call : Export Coord)
    (java : call.usesJava = true) :
    (Session.initial.runFrom engine (pre ++ post ++ [(t, .api call)])).results =
      (Session.initial.runFrom engine (pre ++ post)).results ++ [(t, Run.undefinedBehaviour)] := by
  have dead : liveThread (Session.lifecycle (pre ++ post)) = none := by
    rw [Session.lifecycle_append]
    exact liveThread_append_none started finished _
  rw [Session.runFrom_append_api, Session.runFrom_process, Session.initial_process, apiCall_runFrom]
  simp [java, dead]

theorem session_no_restart_reinit :
    (firstInit (Session.lifecycle ([(0, .initJTS 1 2), (0, .finishJTS)] : List (Thread × Event Unit)))).isSome = true ∧
      liveThread (Session.lifecycle ([(0, .initJTS 1 2), (0, .finishJTS)] : List (Thread × Event Unit))) = none ∧
      (Export.binary .disjoint (some (.point 0 none)) (some (.point 0 none)) : Export Unit).usesJava = true ∧
      (Session.initial.runFrom (default : Engine Unit)
          ([(0, .initJTS 1 2), (0, .finishJTS)] ++ [(0, .initJTS 1 2)] ++
            [(0, .api (.binary .disjoint (some (.point 0 none)) (some (.point 0 none))))])).results =
        (Session.initial.runFrom (default : Engine Unit)
          ([(0, .initJTS 1 2), (0, .finishJTS)] ++ [(0, .initJTS 1 2)])).results ++
          [(0, Run.undefinedBehaviour)] :=
  ⟨rfl, rfl, rfl, session_no_restart default [(0, .initJTS 1 2), (0, .finishJTS)] [(0, .initJTS 1 2)]
    rfl rfl 0 _ rfl⟩

/-- The thread of a call into Java that is not undefined behaviour is the live one. -/
theorem liveThread_of_defined {pre : List (Thread × Call)} {t : Thread} {call : Export Coord}
    (java : call.usesJava = true)
    (defined : apiCall engine (runFrom .initial pre) t call ≠ Run.undefinedBehaviour) :
    liveThread pre = some t := by
  rw [apiCall_runFrom] at defined
  split_ifs at defined with allowed
  · exact allowed.1 java
  · exact absurd rfl defined

/-- **One thread runs Java.** In every session, two calls into Java that are not undefined
behaviour, wherever they stand in the trace, are made by one thread, the thread of the first
`initJTS`. So the reader and writer that `JTSGeomFromWKT`, `JTSGeomFromWKB` and
`JTSGeomToWKB` keep in statics are never used by two threads. -/
theorem session_one_thread (pre mid : List (Thread × Event Coord)) (t u : Thread)
    (first second : Export Coord) (java : first.usesJava = true ∧ second.usesJava = true)
    (defined : apiCall engine (Session.initial.runFrom engine pre).process t first ≠ Run.undefinedBehaviour ∧
      apiCall engine (Session.initial.runFrom engine (pre ++ (t, .api first) :: mid)).process u second ≠
        Run.undefinedBehaviour) :
    t = u := by
  simp only [Session.runFrom_process, Session.initial_process] at defined
  obtain ⟨rest, firstT⟩ := firstInit_of_liveThread (liveThread_of_defined engine java.1 defined.1)
  obtain ⟨rest', firstU⟩ := firstInit_of_liveThread (liveThread_of_defined engine java.2 defined.2)
  rw [Session.lifecycle_append, firstInit_append firstT] at firstU
  exact (Prod.mk.inj (Option.some.inj firstU)).1

theorem session_one_thread_getSRID :
    ((Export.getSRID (some (.point 0 none)) : Export Unit).usesJava = true ∧
        (Export.getSRID (some (.point 0 none)) : Export Unit).usesJava = true) ∧
      apiCall (default : Engine Unit) (Session.initial.runFrom (default : Engine Unit) [(0, .initJTS 1 2)]).process 0
          (.getSRID (some (.point 0 none))) ≠ Run.undefinedBehaviour ∧
        apiCall (default : Engine Unit)
            (Session.initial.runFrom (default : Engine Unit)
              ([(0, .initJTS 1 2)] ++ (0, .api (.getSRID (some (.point 0 none)))) :: [] :
                List (Thread × Event Unit))).process 0
            (.getSRID (some (.point 0 none))) ≠ Run.undefinedBehaviour :=
  have _sameThread := session_one_thread (default : Engine Unit) [(0, .initJTS 1 2)] [] 0 0
    (.getSRID (some (.point 0 none))) (.getSRID (some (.point 0 none))) ⟨rfl, rfl⟩
    ⟨(nomatch congrArg Run.outcome ·), (nomatch congrArg Run.outcome ·)⟩
  ⟨⟨rfl, rfl⟩, (nomatch congrArg Run.outcome ·), (nomatch congrArg Run.outcome ·)⟩

theorem lastInit_lifecycle_api (t : Thread) (calls : List (Export Coord)) :
    lastInit (Session.lifecycle (calls.map fun call => (t, .api call))) = none := by
  induction calls with
  | nil => rfl
  | cons call rest ih => exact ih

/-- A trace that opens with `initJTS` on thread `t` and then has only exported calls by `t`
leaves `t` live and that `initJTS`'s callbacks in the statics. -/
theorem liveThread_init_api (t : Thread) (nf ef : MessageHandler) (calls : List (Export Coord)) :
    liveThread (Session.lifecycle ((t, .initJTS nf ef) :: calls.map fun call => (t, .api call))) = some t ∧
      lastInit (Session.lifecycle ((t, .initJTS nf ef) :: calls.map fun call => (t, .api call))) =
        some (nf, ef) := by
  refine ⟨by simp [Session.lifecycle, liveThread, firstInit, Event.toCall], ?_⟩
  show (lastInit (Session.lifecycle (calls.map fun call => (t, .api call)))).or (some (nf, ef)) = _
  rw [lastInit_lifecycle_api]
  rfl

/-- **The test program's session.** It calls `initJTS (notice, log_and_exit)`, two handlers
that are not NULL, on its one thread, then only exported functions, and never `finishJTS`. In
such a session the calling context adds no undefined behaviour of its own: every call, however
many, gives exactly what the call gives alone, which is how `JtsC.doAll` takes them. -/
theorem session_after_init (t : Thread) (nf ef : MessageHandler) (set : nf ≠ 0 ∧ ef ≠ 0)
    (calls : List (Export Coord)) :
    (Session.initial.runFrom engine ((t, .initJTS nf ef) :: calls.map fun call => (t, .api call))).results =
      calls.map fun call => (t, call.run engine) := by
  induction calls using List.reverseRecOn with
  | nil => rfl
  | append_singleton calls call ih =>
      obtain ⟨live, last⟩ := liveThread_init_api t nf ef calls
      have reported (r : Report) : r.handler ((some (nf, ef)).getD (0, 0)) ≠ 0 := by
        cases r
        · exact set.1
        · exact set.2
      rw [List.map_append, List.map_append, List.map_singleton, List.map_singleton, ← List.cons_append,
        Session.runFrom_append_api, ih, Session.runFrom_process, Session.initial_process, apiCall_runFrom,
        last, if_pos ⟨fun _ => live, fun r _ => reported r⟩]

theorem session_after_init_disjoint :
    ((1 : MessageHandler) ≠ 0 ∧ (2 : MessageHandler) ≠ 0) ∧
      (Session.initial.runFrom (default : Engine Unit)
          ((0, .initJTS 1 2) :: ([.binary .disjoint (some (.point 0 none)) (some (.point 0 none))] :
            List (Export Unit)).map fun call => (0, .api call))).results =
        ([.binary .disjoint (some (.point 0 none)) (some (.point 0 none))] : List (Export Unit)).map
          fun call => (0, call.run default) :=
  ⟨⟨by decide, by decide⟩, session_after_init default 0 1 2 ⟨by decide, by decide⟩ _⟩

end JtsC
