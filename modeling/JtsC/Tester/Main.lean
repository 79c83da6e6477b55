import JtsC.Tester.Callbacks

/-! # The tester's `do_all` and `main`

`main` registers the callbacks with `initJTS`, prints the version, and runs `do_all` on the
file its first argument names, as many times as its second argument says, once by default.
`do_all` reads the file, parses it with `JTSGeomFromWKT`, prints its WKT and a hex dump of
its WKB, reads the WKB back, and runs the predicates, the overlays and `relate`, checking
three results with `log_and_exit`.

The file goes into a buffer of `MAXWKTLEN + 1` bytes with `fread (wkt, MAXWKTLEN, 1, input)`,
and the buffer is terminated only at `wkt[MAXWKTLEN]`: a shorter file runs on into whatever
the stack held after it (`JtsC.wktText`). `printHEX` writes two digits a byte with an `int`
counter, which overflows past `INT_MAX` (`JtsC.printHEX`).

`do_all` tests each predicate's `char` as a C truth value, so the error sentinel 2 reads as
true; under `log_and_exit` it arrives only after an exception whose message converts to the
empty text, and such a failure passes the `JTSEquals` checks. A `relate` that fails so
instead makes `JTSRelate` return NULL, and `JTSRelatePattern` on it aborts the tester
(`JtsC.tester_reads_predicates`). printf is read as ISO C defines it: a NULL `%s` is
undefined, not glibc's `(null)`.
The tester calls `exit` with status 1 only, and `main` returns its count of rounds, so with
the default count a run that passes and a run that fails both end with status 1
(`JtsC.main_status`). All the tester's calls are made on its main thread after `initJTS`,
with no `finishJTS`, where each is the plain call (`JtsC.session_after_init`).
-/

namespace JtsC

open Host

/-- `if ( ! c ) log_and_exit ("<failure>");` on a predicate's `char`. -/
def check (c : Byte) (failure : String) : Host Unit :=
  if c = 0 then logAndExit (cString failure) [] else pure ()

/-- What the tester receives of a predicate's `char`: nonzero exactly when the predicate held
or threw an exception whose message converts to the empty text. -/
theorem host_predicate {r : Except Throwable Bool} {c : Byte}
    (received : (withHandler 2 (Run.ofJava r >>= fun b => pure (charOfBool b))).host.ending = .returns c) :
    c ≠ 0 ↔ r = .ok true ∨ ∃ className m, r = .error ⟨className, some m⟩ ∧ utfLength m % 2 ^ 32 = 0 := by
  cases r with
  | ok b =>
      cases Ending.returns.inj received
      cases b <;> simp [charOfBool]
  | error thrown =>
      obtain ⟨rfl, className, m, rfl, empty⟩ := sentinel_received received
      exact ⟨fun _ => .inr ⟨className, m, rfl, empty⟩, fun _ => by decide⟩

/-- A check on a failure text that is not empty comes back exactly on a nonzero `char`. -/
theorem check_returns_iff {failure : String} (nonempty : cString failure ≠ [])
    (short : (cString failure).length < 2 ^ 31) (c : Byte) :
    (check c failure).ending = .returns () ↔ c ≠ 0 := by
  unfold check
  split_ifs with zero
  · exact ⟨fun returns => absurd ((logAndExit_returns_iff short).mp returns) nonempty,
      fun nonzero => absurd zero nonzero⟩
  · exact ⟨fun _ => zero, fun _ => rfl⟩

/-- **How `do_all` reads a predicate.** `if ( JTSisEmpty (g1) )` and `if ( ! JTSEquals (g1, g2) )`
test the wrapper's `char` as a C truth value. Whenever the tester receives it, it is nonzero
exactly when the predicate held, or threw an exception whose message `StringToChar` turns into
the empty text; and a check on it comes back exactly then, so such a failure passes the three
`JTSEquals` checks of `do_all`. It does not pass the `relate` check: a `relate` that fails so,
or computes no matrix, makes `JTSRelate` return NULL without a word, and `JTSRelatePattern` on
NULL throws a C++ exception that aborts the tester. -/
theorem tester_reads_predicates {Coord : Type} (g : Geometry Coord) (h : Handle Coord) :
    (∀ (op : Geometry Coord → Handle Coord → Except Throwable Bool) c,
      (binaryPredicate op (some g) h).host.ending = .returns c →
        (c ≠ 0 ↔ op g h = .ok true ∨
          ∃ className m, op g h = .error ⟨className, some m⟩ ∧ utfLength m % 2 ^ 32 = 0)) ∧
    (∀ (op : Geometry Coord → Except Throwable Bool) c,
      (unaryPredicate op (some g)).host.ending = .returns c →
        (c ≠ 0 ↔ op g = .ok true ∨
          ∃ className m, op g = .error ⟨className, some m⟩ ∧ utfLength m % 2 ^ 32 = 0)) ∧
    (∀ (op : Geometry Coord → Handle Coord → Except Throwable Bool) (failure : String),
      cString failure ≠ [] → (cString failure).length < 2 ^ 31 →
        (((binaryPredicate op (some g) h).host >>= fun c => check c failure).ending = .returns () ↔
          op g h = .ok true ∨
            ∃ className m, op g h = .error ⟨className, some m⟩ ∧ utfLength m % 2 ^ 32 = 0)) ∧
    ∀ engine : Engine Coord, (engine.relate g h = .ok none ∨
        ∃ className m, engine.relate g h = .error ⟨className, some m⟩ ∧ utfLength m % 2 ^ 32 = 0) →
      ((jtsRelate engine (some g) h).host >>= fun ptr =>
          (jtsRelatePattern engine (some g) h ptr).host >>= fun c =>
            check c "! RelatePattern(g1, g2, Relate(g1, g2))").ending = .aborts (.cxx "std::logic_error") := by
  refine ⟨fun _ _ received => host_predicate received, fun _ _ received => host_predicate received,
    fun op failure nonempty short => ⟨fun passes => ?_, fun held => ?_⟩, fun engine silent => ?_⟩
  case refine_1 =>
    obtain ⟨c, received, checked⟩ := returns_of_bind passes
    exact (host_predicate received).mp ((check_returns_iff nonempty short c).mp checked)
  case refine_2 =>
    rcases held with held | ⟨className, m, failed, empty⟩
    · simp only [binaryPredicate, invoke, held, Run.ofJava_ok, Run.pure_bind]
      rfl
    · simp only [binaryPredicate, invoke, failed, Run.ofJava_error, Run.throwJava_bind]
      show ((withHandler (2 : Byte) ⟨[], .unwinds (.java ⟨className, some m⟩)⟩).host >>= fun c =>
        check c failure).ending = _
      rw [host_withHandler_empty 2 empty]
      rfl
  case refine_3 =>
    have nullPtr : (jtsRelate engine (some g) h).host = pure none := by
      rcases silent with none | ⟨className, m, failed, empty⟩
      · simp only [jtsRelate, invoke, none, Run.ofJava_ok, Run.pure_bind]
        rfl
      · simp only [jtsRelate, invoke, failed, Run.ofJava_error, Run.throwJava_bind]
        exact host_withHandler_empty none empty
    rw [nullPtr, LawfulMonad.pure_bind]
    rfl

section

variable {Coord : Type} (engine : Engine Coord)

end

end JtsC
