import JtsC.Runtime.Printf

/-! # Calls across the `extern "C"` boundary

A call into the wrapper runs C++ that calls Java through libgcj. It ends in one of three
ways (`JtsC.Outcome`): it returns to its C caller, an exception unwinds out of it (a Java
`Throwable` or a C++ exception), or the program has undefined behaviour. On the way it may
call the two callbacks `initJTS` registered (`JtsC.Report`). `JtsC.Run` pairs the two and is
the monad the exported functions are written in; `catch (Throwable *t)` is
`JtsC.catchThrowable`, which lets C++ exceptions and undefined behaviour through.
-/

namespace JtsC

/-- A Java exception object as a handler sees it: its class, and what `getMessage()`
returns, which is null for most exceptions the runtime raises itself. -/
structure Throwable where
  className : String
  message : Option JString
  deriving DecidableEq, Repr

/-- A `Throwable` with an empty message. -/
instance : Inhabited Throwable := ⟨⟨"java.lang.Throwable", some []⟩⟩

/-- Text of U+0000..U+007F written as a Java string. -/
def asciiString (text : String) : JString := text.toList.map jchar

/-- What libgcj raises for a call through a NULL pointer: its segmentation handler turns the
fault into a `NullPointerException` with no message. -/
def nullPointerException : Throwable := ⟨"java.lang.NullPointerException", none⟩

/-- What `_Jv_AllocBytes` raises when the collector cannot serve a request: libgcj's
preallocated `OutOfMemoryError`, which has no message. -/
def outOfMemoryError : Throwable := ⟨"java.lang.OutOfMemoryError", none⟩

/-- What `JvNewByteArray` raises for a negative length. -/
def negativeArraySizeException : Throwable := ⟨"java.lang.NegativeArraySizeException", none⟩

/-- What an array access out of bounds raises: the message is the index in decimal. -/
def arrayIndexOutOfBoundsException (index : Int) : Throwable :=
  ⟨"java.lang.ArrayIndexOutOfBoundsException", some (asciiString (toString index))⟩

/-- An exception in flight. -/
inductive Exception
  /-- A Java exception, thrown as a `Throwable *`. -/
  | java (thrown : Throwable)
  /-- A C++ exception, which `catch (Throwable *)` does not match. -/
  | cxx (what : String)
  deriving DecidableEq, Repr

/-- How a call into the wrapper ends. -/
inductive Outcome (α : Type)
  /-- It returns `value` to its C caller. -/
  | returns (value : α)
  /-- `raised` unwinds out of it, across the `extern "C"` boundary. -/
  | unwinds (raised : Exception)
  /-- The C++ program has undefined behaviour. -/
  | undefined
  deriving DecidableEq, Repr

/-- A call of one of the callbacks `initJTS` registered: a printf format and its arguments. -/
inductive Report
  /-- `NOTICE_MESSAGE (fmt, args...)`. -/
  | notice (fmt : CString) (args : List CString)
  /-- `ERROR_MESSAGE (fmt, args...)`. -/
  | error (fmt : CString) (args : List CString)
  deriving DecidableEq, Repr

/-- **A run of wrapper code.** The callback calls it made, in order, and how it ended. -/
structure Run (α : Type) where
  reports : List Report
  outcome : Outcome α
  deriving DecidableEq, Repr

namespace Run

variable {α β : Type}

/-- Sequencing: the second part runs only when the first returns. -/
def bind (run : Run α) (next : α → Run β) : Run β :=
  match run.outcome with
  | .returns value => ⟨run.reports ++ (next value).reports, (next value).outcome⟩
  | .unwinds raised => ⟨run.reports, .unwinds raised⟩
  | .undefined => ⟨run.reports, .undefined⟩

instance : Monad Run where
  pure value := ⟨[], .returns value⟩
  bind := bind

/-- A Java exception thrown here. -/
def throwJava (thrown : Throwable) : Run α := ⟨[], .unwinds (.java thrown)⟩

/-- A Java call: its result, or the exception it throws. -/
def ofJava : Except Throwable α → Run α
  | .ok value => pure value
  | .error thrown => throwJava thrown

/-- One callback call. -/
def report (message : Report) : Run Unit := ⟨[message], .returns ()⟩

/-- Undefined behaviour. -/
def undefinedBehaviour : Run α := ⟨[], .undefined⟩

@[simp] theorem pure_reports (value : α) : (pure value : Run α).reports = [] := rfl

@[simp] theorem pure_outcome (value : α) : (pure value : Run α).outcome = .returns value := rfl

@[simp] theorem throwJava_reports (thrown : Throwable) : (throwJava thrown : Run α).reports = [] :=
  rfl

@[simp] theorem throwJava_outcome (thrown : Throwable) :
    (throwJava thrown : Run α).outcome = .unwinds (.java thrown) := rfl

theorem bind_of_returns {run : Run α} {value : α} (returns : run.outcome = .returns value)
    (next : α → Run β) :
    run >>= next = ⟨run.reports ++ (next value).reports, (next value).outcome⟩ := by
  show bind run next = _
  simp only [bind, returns]

theorem bind_of_unwinds {run : Run α} {raised : Exception} (unwinds : run.outcome = .unwinds raised)
    (next : α → Run β) : run >>= next = ⟨run.reports, .unwinds raised⟩ := by
  show bind run next = _
  simp only [bind, unwinds]

@[simp] theorem pure_bind (value : α) (next : α → Run β) : (pure value : Run α) >>= next = next value :=
  bind_of_returns rfl next

@[simp] theorem throwJava_bind (thrown : Throwable) (next : α → Run β) :
    (throwJava thrown : Run α) >>= next = throwJava thrown :=
  bind_of_unwinds rfl next

@[simp] theorem report_bind (message : Report) (next : Unit → Run β) :
    report message >>= next = ⟨message :: (next ()).reports, (next ()).outcome⟩ :=
  bind_of_returns rfl next

@[simp] theorem undefinedBehaviour_bind (next : α → Run β) :
    (undefinedBehaviour : Run α) >>= next = undefinedBehaviour := by
  show bind _ next = _
  rfl

@[simp] theorem ofJava_ok (value : α) : ofJava (.ok value : Except Throwable α) = pure value := rfl

@[simp] theorem ofJava_error (thrown : Throwable) :
    ofJava (.error thrown : Except Throwable α) = throwJava thrown := rfl

end Run

/-- `try { body } catch (Throwable *t) { handler }`: a Java exception leaving `body` runs the
handler after the callback calls `body` made; a C++ exception and undefined behaviour are
not caught. -/
def catchThrowable {α : Type} (body : Run α) (handler : Throwable → Run α) : Run α :=
  match body.outcome with
  | .unwinds (.java thrown) => ⟨body.reports ++ (handler thrown).reports, (handler thrown).outcome⟩
  | _ => body

section

variable {α : Type}

@[simp] theorem catchThrowable_pure (value : α) (handler : Throwable → Run α) :
    catchThrowable (pure value) handler = pure value := rfl

@[simp] theorem catchThrowable_throwJava (thrown : Throwable) (handler : Throwable → Run α) :
    catchThrowable (Run.throwJava thrown) handler = handler thrown := by
  simp [catchThrowable, Run.throwJava]

theorem catchThrowable_of_returns {body : Run α} {value : α} (returns : body.outcome = .returns value)
    (handler : Throwable → Run α) : catchThrowable body handler = body := by
  simp only [catchThrowable, returns]

end

end JtsC
