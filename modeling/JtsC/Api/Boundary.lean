import JtsC.Api.Exports

/-! # Exceptions at the `extern "C"` boundary

The handler returns its sentinel after one error report whenever the exception it catches
carries a message that `StringToChar` can convert (`JtsC.withHandler_message`,
`JtsC.withHandler_returns`). Four things get past it:

* an exception with no message: the handler's own `StringToChar (NULL)` faults, and that
  second `NullPointerException` leaves the call (`JtsC.withHandler_null_message`);
* the functions with no handler, `JTSGeomTypeId` and `JTSSetSRID` (and `JTSversion`);
* the C++ exception `std::string s = pat;` throws for a NULL pattern in `JTSRelatePattern`.

`JtsC.exported_calls_unwind` shows each on a NULL handle or pattern, which is what the
wrapper itself returns from a failed call.

The error report hands the message to the callback as its printf format, with no argument.
Its expansion is the message exactly when the message has no `%`
(`JtsC.withHandler_error_expansion_iff`); only `JTSGeomTypeId` passes its text as the argument
of an explicit `%s`.
-/

namespace JtsC

section

variable {α : Type}

@[simp] theorem reportThrowable_null (className : String) :
    reportThrowable ⟨className, none⟩ = Run.throwJava nullPointerException := by
  simp [reportThrowable]

theorem reportThrowable_of_lt (className : String) {m : JString} (bounded : utfLength m < 2 ^ 31) :
    reportThrowable ⟨className, some m⟩ = Run.report (.error (encodeString m) []) := by
  simp [reportThrowable, stringToCharText_of_lt bounded]

/-- The handler returns its sentinel after reporting a message it can convert. -/
theorem withHandler_message (sentinel : α) (reports : List Report) (className : String)
    {m : JString} (bounded : utfLength m < 2 ^ 31) :
    withHandler sentinel ⟨reports, .unwinds (.java ⟨className, some m⟩)⟩ =
      ⟨reports ++ [.error (encodeString m) []], .returns sentinel⟩ := by
  simp [withHandler, catchThrowable, reportThrowable_of_lt className bounded]

/-- An exception with no message makes the handler fault in turn. -/
theorem withHandler_null_message (sentinel : α) (reports : List Report) (className : String) :
    withHandler sentinel ⟨reports, .unwinds (.java ⟨className, none⟩)⟩ =
      ⟨reports, .unwinds (.java nullPointerException)⟩ := by
  simp [withHandler, catchThrowable]

/-- What the handler needs of its body: it returns, or a Java exception whose message
converts leaves it. -/
def Recoverable (body : Run α) : Prop :=
  (∃ value, body.outcome = .returns value) ∨
    ∃ className m, body.outcome = .unwinds (.java ⟨className, some m⟩) ∧ utfLength m < 2 ^ 31

/-- **The handler at work.** Around a recoverable body, the call returns, with at most one
report more than the body made. -/
theorem withHandler_returns (sentinel : α) {body : Run α} (recoverable : Recoverable body) :
    ∃ value, (withHandler sentinel body).outcome = .returns value ∧
      (withHandler sentinel body).reports.length ≤ body.reports.length + 1 := by
  obtain ⟨reports, outcome⟩ := body
  rcases recoverable with ⟨value, returns⟩ | ⟨className, m, unwinds, bounded⟩
  · subst returns
    exact ⟨value, rfl, by simp [withHandler, catchThrowable]⟩
  · subst unwinds
    rw [withHandler_message sentinel reports className bounded]
    exact ⟨sentinel, rfl, by simp⟩

/-- A JTS call whose exception, if it throws one, carries a message that converts. -/
def Converts (result : Except Throwable α) : Prop :=
  ∀ thrown, result = .error thrown → ∃ m, thrown.message = some m ∧ utfLength m < 2 ^ 31

namespace Recoverable

variable {β : Type}

theorem pure (value : α) : Recoverable (pure value : Run α) := .inl ⟨value, rfl⟩

theorem report (message : Report) : Recoverable (Run.report message) := .inl ⟨(), rfl⟩

theorem ofJava {result : Except Throwable α} (converts : Converts result) :
    Recoverable (Run.ofJava result) := by
  cases result with
  | ok value => exact .inl ⟨value, rfl⟩
  | error thrown =>
      obtain ⟨className, message⟩ := thrown
      obtain ⟨m, rfl, bounded⟩ := converts _ rfl
      exact .inr ⟨className, m, rfl, bounded⟩

theorem bind {first : Run α} {next : α → Run β} (recoverable : Recoverable first)
    (rest : ∀ value, first.outcome = .returns value → Recoverable (next value)) :
    Recoverable (first >>= next) := by
  rcases recoverable with ⟨value, returns⟩ | ⟨className, m, unwinds, bounded⟩
  · rw [Run.bind_of_returns returns]
    exact rest value returns
  · rw [Run.bind_of_unwinds unwinds]
    exact .inr ⟨className, m, rfl, bounded⟩

end Recoverable

/-- The expansion of the error report for a message `m`: exactly `m`'s bytes when `m` has
no `%`, and something else, or undefined, when it has one. -/
theorem withHandler_error_expansion_iff (sentinel : α) (reports : List Report)
    (className : String) (m : JString) (bounded : utfLength m < 2 ^ 31) :
    (withHandler sentinel ⟨reports, .unwinds (.java ⟨className, some m⟩)⟩).reports =
        reports ++ [.error (encodeString m) []] ∧
      (vformat (encodeString m) [] = some (encodeString m) ↔ jchar '%' ∉ m) := by
  rw [withHandler_message sentinel reports className bounded, vformat_self_iff,
    percent_mem_encodeString_iff]
  exact ⟨rfl, Iff.rfl⟩

/-- A message of two characters, `%s`, raised anywhere a handler reports it: the callback's
format is `%s` with no argument, which printf cannot expand. -/
theorem withHandler_percentS_message :
    utfLength (asciiString "%s") < 2 ^ 31 ∧
      ((withHandler (2 : Byte) ⟨[], .unwinds (.java ⟨"java.lang.IllegalArgumentException",
          some (asciiString "%s")⟩)⟩).reports =
        [] ++ [.error (encodeString (asciiString "%s")) []] ∧
      (vformat (encodeString (asciiString "%s")) [] = some (encodeString (asciiString "%s")) ↔
        jchar '%' ∉ asciiString "%s")) :=
  ⟨by decide, withHandler_error_expansion_iff 2 [] _ _ (by decide)⟩

end

variable {Coord : Type}

/-- **Four ways out of the boundary.** For every engine: `JTSDisjoint` on a NULL handle,
whose `NullPointerException` has no message; `JTSGeomTypeId` and `JTSSetSRID` on a NULL
handle, with no handler; `JTSRelatePattern` on a NULL pattern, a C++ exception. -/
theorem exported_calls_unwind (engine : Engine Coord) (g : Handle Coord) (srid : Int) :
    jtsDisjoint engine none g = ⟨[], .unwinds (.java nullPointerException)⟩ ∧
      jtsGeomTypeId (none : Handle Coord) = ⟨[], .unwinds (.java nullPointerException)⟩ ∧
      jtsSetSRID (none : Handle Coord) srid = ⟨[], .unwinds (.java nullPointerException)⟩ ∧
      jtsRelatePattern engine g g none = ⟨[], .unwinds (.cxx "std::logic_error")⟩ :=
  ⟨withHandler_null_message 2 [] _, rfl, rfl, rfl⟩

end JtsC
