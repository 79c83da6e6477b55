import JtsC.Runtime.JavaString

/-! # The callbacks' printf formats

`initJTS` registers two callbacks of type `void (*)(const char *fmt, ...)`, and the test
program's handlers hand both straight to `vasprintf`. What a callback prints is therefore the
printf expansion of the format against the arguments the wrapper passes
(`JtsC.vformat`), read as ISO C defines it: glibc's own extensions, such as `%m`, are left
out. A format is printed as itself, with no argument, exactly when it holds no `%`
(`JtsC.vformat_self_iff`).
-/

namespace JtsC

/-- The byte `%`. -/
def percent : Byte := 0x25

/-- The byte `s`. -/
def letterS : Byte := 0x73

/-- The expansion `vasprintf` makes of `fmt` against `args`, the variadic `char *`
arguments, as far as the wrapper's formats need it: literal bytes are copied, `%%` writes one
`%` and `%s` writes the next argument. Any other conversion, a `%` that ends the format and a
`%s` with no argument left are undefined behaviour in C, and `none` here. -/
def vformat : CString → List CString → Option CString
  | [], _ => some []
  | [c], _ => if c = percent then none else some [c]
  | c :: d :: more, args =>
      if c = percent then
        if d = percent then (vformat more args).map (percent :: ·)
        else if d = letterS then
          match args with
          | arg :: others => (vformat more others).map (arg ++ ·)
          | [] => none
        else none
      else (vformat (d :: more) args).map (c :: ·)

example : vformat [0x61, percent, percent] [] = some [0x61, percent] := by decide

example : vformat [percent, letterS] [] = none := by decide

theorem vformat_cons_of_ne {c : Byte} (literal : c ≠ percent) (rest : CString)
    (args : List CString) : vformat (c :: rest) args = (vformat rest args).map (c :: ·) := by
  cases rest with
  | nil => simp [vformat, literal]
  | cons d more => simp [vformat, literal]

/-- A prefix without `%` is copied in front of the rest of the expansion. -/
theorem vformat_literal_append {literal : CString} (plain : percent ∉ literal)
    (rest : CString) (args : List CString) :
    vformat (literal ++ rest) args = (vformat rest args).map (literal ++ ·) := by
  induction literal with
  | nil => simp
  | cons c literal ih =>
      have head : c ≠ percent := fun same => plain (same ▸ List.mem_cons_self _ _)
      rw [List.cons_append, vformat_cons_of_ne head, ih fun mem => plain (List.mem_cons_of_mem _ mem),
        Option.map_map]
      rfl

/-- Without arguments an expansion never grows the format, and shrinks it once the format
holds a `%`: `%%` is the only conversion that is defined with nothing to convert. -/
theorem vformat_nil_length {fmt out : CString} {args : List CString} (noArgs : args = [])
    (expands : vformat fmt args = some out) :
    out.length ≤ fmt.length ∧ (percent ∈ fmt → out.length < fmt.length) := by
  induction fmt, args using vformat.induct generalizing out with
  | case1 => simp_all [vformat]
  | case2 => simp [vformat] at expands
  | case3 c args literal =>
      simp only [vformat, literal, ↓reduceIte, Option.some.injEq] at expands
      subst expands
      simp [Ne.symm literal]
  | case4 more args ih =>
      simp only [vformat, ↓reduceIte, Option.map_eq_some'] at expands
      obtain ⟨rest, expandsRest, rfl⟩ := expands
      have := (ih noArgs expandsRest).1
      simp only [List.length_cons]
      omega
  | case5 => cases noArgs
  | case6 => simp [vformat, letterS, percent] at expands
  | case7 d more args notPercent notS => simp [vformat, notPercent, notS] at expands
  | case8 c d more args literal ih =>
      simp only [vformat, literal, ↓reduceIte, Option.map_eq_some'] at expands
      obtain ⟨rest, expandsRest, rfl⟩ := expands
      obtain ⟨shorter, shrinks⟩ := ih noArgs expandsRest
      have inTail (mem : percent ∈ c :: d :: more) : percent ∈ d :: more :=
        (List.mem_cons.mp mem).resolve_left (Ne.symm literal)
      simp only [List.length_cons] at shorter shrinks ⊢
      exact ⟨by omega, fun mem => by have := shrinks (inTail mem); omega⟩

/-- Modified UTF-8 stores `%` as itself and never makes the byte `%` out of another code
unit. -/
theorem percent_mem_encodeUTF_iff (ch : JChar) : percent ∈ encodeUTF ch ↔ ch = jchar '%' := by
  constructor
  · intro mem
    have inTable : percent.toNat ∈ modifiedUtf8Char ch.toNat :=
      encodeUTF_toNat ch ▸ List.mem_map_of_mem _ mem
    have byteValue : percent.toNat = 0x25 := rfl
    apply BitVec.eq_of_toNat_eq
    rw [show (jchar '%').toNat = 0x25 from rfl]
    unfold modifiedUtf8Char at inTable
    split_ifs at inTable <;> simp only [List.mem_cons, List.mem_singleton, byteValue,
      List.not_mem_nil, or_false] at inTable <;> omega
  · rintro rfl
    decide

theorem percent_mem_encodeString_iff (s : JString) : percent ∈ encodeString s ↔ jchar '%' ∈ s := by
  simp only [encodeString, List.mem_flatMap, percent_mem_encodeUTF_iff, exists_eq_right]

/-- A format that is not empty expands to text that is not empty: each literal byte and each
`%%` writes a byte, and `%s` with no argument left is undefined. -/
theorem vformat_nil_eq_nil_iff (fmt : CString) : vformat fmt [] = some [] ↔ fmt = [] := by
  constructor
  · intro expands
    match fmt, expands with
    | [], _ => rfl
    | [c], expands =>
        unfold vformat at expands
        split_ifs at expands
        simp at expands
    | c :: d :: more, expands =>
        unfold vformat at expands
        split_ifs at expands <;> simp at expands
  · rintro rfl
    rfl

/-- With no arguments, a format prints as itself exactly when it holds no `%`. -/
theorem vformat_self_iff (fmt : CString) : vformat fmt [] = some fmt ↔ percent ∉ fmt := by
  constructor
  · intro expands holds
    have := (vformat_nil_length rfl expands).2 holds
    omega
  · intro plain
    simpa [vformat] using vformat_literal_append plain [] []

end JtsC
