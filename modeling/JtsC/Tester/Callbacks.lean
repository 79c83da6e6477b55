import JtsC.Api.Boundary

/-! # The tester's callbacks

`jtstest.c` registers two callbacks with `initJTS`: `notice`, which prints `NOTICE: ` and the
expansion of its format on stdout, and `log_and_exit`, which prints `ERROR: ` and the
expansion on stderr and calls `exit (1)`. Both expand the format with `vasprintf` first, and
test `!vasprintf (...)` to catch its failure; but `vasprintf` returns the length of the
expansion, so the test fires on an empty expansion, and the callback then returns without
printing: `log_and_exit` without exiting (`JtsC.callback`).

`JtsC.Host` is a piece of the tester's run: what it writes on each stream, and how it ends:
it returns, exits with a status, aborts because an exception left an exported function into
C code that has no handler for it, or has undefined behaviour. `JtsC.Run.host` runs the
wrapper inside the tester: its reports go to the tester's callbacks in the order it makes
them.

The header asks for an error callback that exits, "so you can avoid checking for
'exceptional' returns from every function call". Under `log_and_exit`, the wrapper's handler
gives the tester its sentinel exactly when the caught exception's message is empty; for any
other message the tester prints it and exits with status 1, or has undefined behaviour when
the message holds a `%` conversion printf cannot make; an exception with no message aborts
the tester (`JtsC.host_withHandler`). The tester calls `exit` with no other status than 1
(`JtsC.Host.ExitsOne`).
-/

namespace JtsC

/-- The tester's output streams. -/
inductive StdStream
  | stdout | stderr
  deriving DecidableEq, Repr

/-- How a piece of the tester ends. -/
inductive Ending (α : Type)
  | returns (value : α)
  /-- `exit (status)`. -/
  | exits (status : Int)
  /-- An exception left an exported function into C, which has no handler for it: libgcj's
  `_Jv_Throw` and the C++ runtime's `std::terminate` then abort. -/
  | aborts (raised : Exception)
  | undefined
  deriving DecidableEq, Repr

/-- **A piece of the tester's run**: what it writes, stream by stream in order, and how it
ends. -/
structure Host (α : Type) where
  output : List (StdStream × CString)
  ending : Ending α
  deriving DecidableEq, Repr

namespace Host

variable {α β γ : Type}

/-- Sequencing: the second part runs only when the first returns. -/
def bind (h : Host α) (next : α → Host β) : Host β :=
  match h.ending with
  | .returns value => ⟨h.output ++ (next value).output, (next value).ending⟩
  | .exits status => ⟨h.output, .exits status⟩
  | .aborts raised => ⟨h.output, .aborts raised⟩
  | .undefined => ⟨h.output, .undefined⟩

instance : Monad Host where
  pure value := ⟨[], .returns value⟩
  bind := bind

/-- `printf`, `fprintf`, `putc` or `putchar` of the bytes `text` on `stream`. -/
def write (stream : StdStream) (text : CString) : Host Unit := ⟨[(stream, text)], .returns ()⟩

/-- `exit (status)`. -/
def exit (status : Int) : Host α := ⟨[], .exits status⟩

def undefinedBehaviour : Host α := ⟨[], .undefined⟩

theorem bind_of_returns {h : Host α} {value : α} (returns : h.ending = .returns value)
    (next : α → Host β) :
    h >>= next = ⟨h.output ++ (next value).output, (next value).ending⟩ := by
  show bind h next = _
  simp only [bind, returns]

instance : LawfulMonad Host := LawfulMonad.mk' Host
  (fun h => by
    show bind h (pure ∘ id) = h
    obtain ⟨output, ending⟩ := h
    cases ending <;> simp [bind, pure])
  (fun value next => bind_of_returns rfl next)
  (fun h next last => by
    show bind (bind h next) last = bind h fun value => bind (next value) last
    obtain ⟨output, ending⟩ := h
    cases ending with
    | returns value =>
        simp only [bind]
        cases (next value).ending <;> simp
    | _ => rfl)

/-- A sequence returns only when both parts do. -/
theorem returns_of_bind {h : Host α} {next : α → Host β} {value : β}
    (returns : (h >>= next).ending = .returns value) :
    ∃ first, h.ending = .returns first ∧ (next first).ending = .returns value := by
  obtain ⟨output, ending⟩ := h
  cases ending with
  | returns first =>
      rw [bind_of_returns rfl] at returns
      exact ⟨first, rfl, returns⟩
  | _ => nomatch returns

@[simp] theorem write_bind (stream : StdStream) (text : CString) (next : Unit → Host β) :
    write stream text >>= next = ⟨(stream, text) :: (next ()).output, (next ()).ending⟩ :=
  bind_of_returns rfl next

@[simp] theorem exit_bind (status : Int) (next : α → Host β) :
    (exit status : Host α) >>= next = exit status := rfl

@[simp] theorem undefinedBehaviour_bind (next : α → Host β) :
    (undefinedBehaviour : Host α) >>= next = undefinedBehaviour := rfl

@[simp] theorem aborts_bind (raised : Exception) (next : α → Host β) :
    (⟨[], .aborts raised⟩ : Host α) >>= next = ⟨[], .aborts raised⟩ := rfl

/-- A piece of the tester that calls `exit` only with status 1. -/
def ExitsOne (h : Host α) : Prop := ∀ status, h.ending = .exits status → status = 1

namespace ExitsOne

theorem pure (value : α) : ExitsOne (Pure.pure value : Host α) := fun _ => nofun

theorem write (stream : StdStream) (text : CString) : ExitsOne (Host.write stream text) :=
  fun _ => nofun

theorem undefinedBehaviour : ExitsOne (Host.undefinedBehaviour : Host α) := fun _ => nofun

theorem aborts (raised : Exception) : ExitsOne (⟨[], .aborts raised⟩ : Host α) := fun _ => nofun

theorem bind {h : Host α} {next : α → Host β} (first : ExitsOne h) (rest : ∀ value, ExitsOne (next value)) :
    ExitsOne (h >>= next) := by
  intro status exits
  obtain ⟨output, ending⟩ := h
  cases ending with
  | returns value =>
      rw [bind_of_returns rfl] at exits
      exact rest value status exits
  | exits code =>
      cases exits
      exact first status rfl
  | aborts raised => nomatch exits
  | undefined => nomatch exits

end ExitsOne

end Host

/-- What `vasprintf (&msg, fmt, ap)` returns for the expansion `msg`: its length, or -1 when
the length does not fit an `int`, leaving `msg` undefined. -/
def vasprintfResult (msg : CString) : Int := if msg.length < 2 ^ 31 then msg.length else -1

/-- **The body `notice` and `log_and_exit` share**: `vasprintf`, then
`if (!vasprintf (...)) return;`, then `print` of the expansion. An expansion printf cannot
make is undefined behaviour, and so is printing `msg` after a -1. -/
def callback (print : CString → Host Unit) (fmt : CString) (args : List CString) : Host Unit :=
  match vformat fmt args with
  | none => Host.undefinedBehaviour
  | some msg =>
      if vasprintfResult msg = 0 then pure ()
      else if vasprintfResult msg < 0 then Host.undefinedBehaviour
      else print msg

/-- The tester's `notice`: `printf ("NOTICE: %s\n", msg)`. -/
def notice : CString → List CString → Host Unit :=
  callback fun msg => Host.write .stdout (cString "NOTICE: " ++ msg ++ cString "\n")

/-- The tester's `log_and_exit`: `fprintf (stderr, "ERROR: %s\n", msg)`, then `exit (1)`. -/
def logAndExit : CString → List CString → Host Unit :=
  callback fun msg => do
    Host.write .stderr (cString "ERROR: " ++ msg ++ cString "\n")
    Host.exit 1

/-- The wrapper's reports, each to its callback in turn. -/
def playReports : List Report → Host Unit
  | [] => pure ()
  | .notice fmt args :: rest => notice fmt args >>= fun _ => playReports rest
  | .error fmt args :: rest => logAndExit fmt args >>= fun _ => playReports rest

/-- **A run of the wrapper inside the tester**: its reports played against the tester's
callbacks, then its value; an exception that leaves the wrapper aborts the tester. -/
def Run.host {α : Type} (run : Run α) : Host α :=
  playReports run.reports >>= fun _ =>
    match run.outcome with
    | .returns value => pure value
    | .unwinds raised => ⟨[], .aborts raised⟩
    | .undefined => Host.undefinedBehaviour

section

open Host

variable {α : Type}

theorem callback_of_lt {print : CString → Host Unit} {fmt : CString} {args : List CString}
    {msg : CString} (expands : vformat fmt args = some msg) (short : msg.length < 2 ^ 31) :
    callback print fmt args = if msg = [] then pure () else print msg := by
  have result : vasprintfResult msg = msg.length := if_pos short
  simp only [callback, expands, result, Nat.cast_eq_zero, List.length_eq_zero]
  split_ifs <;> first | rfl | omega

theorem encodeString_eq_nil_iff (m : JString) : encodeString m = [] ↔ m = [] := by
  constructor
  · intro empty
    have atLeast := length_le_utfLength m
    rw [← length_encodeString, empty] at atLeast
    exact List.length_eq_zero.mp (Nat.le_zero.mp atLeast)
  · rintro rfl
    rfl

/-- `log_and_exit` on a converted message, with no argument: nothing for the empty message;
otherwise `ERROR: ` and the expansion, then `exit (1)`, or undefined behaviour when printf
cannot expand it. -/
theorem logAndExit_message (m : JString) (bounded : utfLength m < 2 ^ 31) :
    logAndExit (encodeString m) [] =
      match vformat (encodeString m) [] with
      | none => undefinedBehaviour
      | some msg =>
          if m = [] then pure () else ⟨[(.stderr, cString "ERROR: " ++ msg ++ cString "\n")], .exits 1⟩ := by
  rcases expands : vformat (encodeString m) [] with _ | msg
  · simp only [logAndExit, callback, expands]
  · have shorter := (vformat_nil_length rfl expands).1
    rw [length_encodeString] at shorter
    have empty : msg = [] ↔ m = [] := by
      rw [← encodeString_eq_nil_iff, ← vformat_nil_eq_nil_iff (encodeString m), expands,
        Option.some.injEq]
    rw [logAndExit, callback_of_lt expands (by omega)]
    simp only [empty]
    split_ifs <;> rfl

theorem playReports_append (first second : List Report) :
    playReports (first ++ second) = playReports first >>= fun _ => playReports second := by
  induction first with
  | nil => exact (pure_bind () fun _ => playReports second).symm
  | cons r rest ih =>
      show playReports (r :: (rest ++ second)) = _
      cases r <;> simp only [playReports, ih, bind_assoc]

namespace Run

variable {β : Type}

@[simp] theorem host_pure (value : α) : (pure value : Run α).host = pure value := rfl

@[simp] theorem host_throwJava (thrown : Throwable) :
    (throwJava thrown : Run α).host = ⟨[], .aborts (.java thrown)⟩ := rfl

@[simp] theorem host_report_error (fmt : CString) (args : List CString) :
    (report (.error fmt args)).host = logAndExit fmt args := by
  simp only [Run.host, report, playReports, bind_pure_unit]

theorem host_prepend (reports : List Report) (run : Run α) :
    (⟨reports ++ run.reports, run.outcome⟩ : Run α).host = playReports reports >>= fun _ => run.host := by
  simp only [Run.host, playReports_append, bind_assoc]

/-- Playing a run is a monad morphism: a sequence plays as its two parts in turn. -/
theorem host_bind (run : Run α) (next : α → Run β) :
    (run >>= next).host = run.host >>= fun value => (next value).host := by
  obtain ⟨reports, outcome⟩ := run
  cases outcome with
  | returns value =>
      rw [bind_of_returns rfl, host_prepend]
      simp only [Run.host, bind_assoc, LawfulMonad.pure_bind]
  | unwinds raised =>
      rw [bind_of_unwinds rfl]
      simp only [Run.host, bind_assoc]
      rfl
  | undefined =>
      show (⟨reports, .undefined⟩ : Run β).host = _
      simp only [Run.host, bind_assoc]
      rfl

end Run

theorem host_catchThrowable_java {body : Run α} {thrown : Throwable}
    (unwinds : body.outcome = .unwinds (.java thrown)) (handler : Throwable → Run α) :
    (catchThrowable body handler).host = playReports body.reports >>= fun _ => (handler thrown).host := by
  rw [← Run.host_prepend]
  simp only [catchThrowable, unwinds]

/-- The handler's report as the tester plays it: `log_and_exit` on the text `StringToChar`
makes of the message, or an abort when `StringToChar` itself throws. -/
theorem host_reportThrowable (className : String) (m : JString) :
    (reportThrowable ⟨className, some m⟩).host =
      if utfLength m % 2 ^ 32 < 2 ^ 31 then logAndExit ((encodeString m).take (utfLength m % 2 ^ 32)) []
      else ⟨[], .aborts (.java outOfMemoryError)⟩ := by
  unfold reportThrowable
  rw [Run.host_bind]
  split_ifs with fits
  · rw [stringToCharText_of_fits fits, Run.host_pure, pure_bind, Run.host_report_error]
  · rw [stringToCharText_of_negative (by omega), Run.host_throwJava, Host.aborts_bind]

/-- With no argument and fewer than 2^31 bytes, `log_and_exit` comes back exactly on the empty
format. -/
theorem logAndExit_returns_iff {fmt : CString} (short : fmt.length < 2 ^ 31) :
    (logAndExit fmt []).ending = .returns () ↔ fmt = [] := by
  constructor
  · intro returns
    rcases expands : vformat fmt [] with _ | msg
    · simp only [logAndExit, callback, expands] at returns
      nomatch returns
    · have shorter := (vformat_nil_length rfl expands).1
      rw [logAndExit, callback_of_lt expands (by omega)] at returns
      split_ifs at returns with empty
      · exact (vformat_nil_eq_nil_iff fmt).mp (empty ▸ expands)
      · nomatch returns
  · rintro rfl
    rfl

/-- **When the tester gets a sentinel.** Under `log_and_exit`, the handler's sentinel comes
back to the tester only for a caught exception whose message `StringToChar` turns into the
empty text: an empty message, or one whose length in bytes is a multiple of 2^32. -/
theorem sentinel_received {sentinel value : α} {thrown : Throwable}
    (received : (withHandler sentinel ⟨[], .unwinds (.java thrown)⟩).host.ending = .returns value) :
    value = sentinel ∧ ∃ className m, thrown = ⟨className, some m⟩ ∧ utfLength m % 2 ^ 32 = 0 := by
  rw [withHandler, host_catchThrowable_java rfl, Run.host_bind] at received
  obtain ⟨_, -, played⟩ := returns_of_bind received
  obtain ⟨⟨⟩, reported, returned⟩ := returns_of_bind played
  obtain ⟨className, _ | m⟩ := thrown
  · rw [reportThrowable_null, Run.host_throwJava] at reported
    nomatch reported
  · rw [host_reportThrowable] at reported
    split_ifs at reported with fits
    · have length : ((encodeString m).take (utfLength m % 2 ^ 32)).length = utfLength m % 2 ^ 32 := by
        rw [List.length_take, length_encodeString]
        exact min_eq_left (Nat.mod_le _ _)
      have empty := (logAndExit_returns_iff (by omega)).mp reported
      rw [empty, List.length_nil] at length
      exact ⟨(Ending.returns.inj returned).symm, className, m, rfl, length.symm⟩

/-- A caught exception whose message `StringToChar` turns into the empty text: `log_and_exit`
gets the empty format and comes back without a word, and the tester receives the sentinel. -/
theorem host_withHandler_empty (sentinel : α) {className : String} {m : JString}
    (empty : utfLength m % 2 ^ 32 = 0) :
    (withHandler sentinel ⟨[], .unwinds (.java ⟨className, some m⟩)⟩).host = pure sentinel := by
  rw [withHandler, host_catchThrowable_java rfl, Run.host_bind, host_reportThrowable,
    if_pos (by omega), empty, List.take_zero]
  rfl

/-- **The header's contract under `log_and_exit`.** For every exception the handler catches
after the body's reports: with a message, the tester gets the sentinel when the message is
empty, and otherwise prints `ERROR: ` and the message's expansion and exits with status 1,
or has undefined behaviour when printf cannot expand it; with no message, the tester
aborts on the handler's own `NullPointerException`. -/
theorem host_withHandler (sentinel : α) (reports : List Report) (className : String) :
    (∀ m : JString, utfLength m < 2 ^ 31 →
      (withHandler sentinel ⟨reports, .unwinds (.java ⟨className, some m⟩)⟩).host =
        playReports reports >>= fun _ =>
          match vformat (encodeString m) [] with
          | none => undefinedBehaviour
          | some msg =>
              if m = [] then pure sentinel
              else ⟨[(.stderr, cString "ERROR: " ++ msg ++ cString "\n")], .exits 1⟩) ∧
    (withHandler sentinel ⟨reports, .unwinds (.java ⟨className, none⟩)⟩).host =
      playReports reports >>= fun _ => ⟨[], .aborts (.java nullPointerException)⟩ := by
  refine ⟨fun m bounded => ?_, ?_⟩
  · rw [withHandler_message sentinel reports className bounded, Run.host, playReports_append,
      bind_assoc]
    congr 1
    funext
    simp only [playReports, bind_assoc, logAndExit_message m bounded]
    rcases vformat (encodeString m) [] with _ | msg
    · rfl
    · split_ifs <;> rfl
  · rw [withHandler_null_message sentinel reports className]
    rfl

end

end JtsC
