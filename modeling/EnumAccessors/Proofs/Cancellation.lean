import EnumAccessors.Proofs.Pass

/-!
# Cancelled passes

A pass asks before each declaration whether it has been cancelled.  Somebody else may cancel it at
any time while it runs, so the answers are arbitrary, and what a pass gives is told from them and
the configuration alone.

* `Compilation.run_of_fault`: a configuration that makes no sense is refused, whatever the answers.
* `Compilation.run_eq_error_cancelled_iff`: else a pass is cancelled exactly if one of the
  questions before its declarations is answered with yes; a compilation without declarations
  cannot be cancelled.
* `Compilation.run_all_or_nothing`: a pass that is not cancelled gives all that it gives if nobody
  ever cancels it, and one that is cancelled gives nothing.
-/

namespace EnumAccessors

namespace Compilation

variable {c : Compilation} {o : Options} {cancelled later : Nat → Bool}

/-- The configuration is looked at before the first question. -/
theorem run_of_fault {fault : ConfigFault} (h : o.fault? = some fault) :
    c.run o cancelled = .error (.invalidConfig fault) := by
  rw [run, h]

/-- One yes before a declaration is enough, however much of the output there is by then. -/
theorem run_of_cancelled (ho : o.fault? = none)
    (h : ∃ i < c.enums.length, cancelled i = true) : c.run o cancelled = .error .cancelled := by
  obtain ⟨i, hi, hcancelled⟩ := h
  have hplace : i < 0 + c.enums.length := by omega
  simp only [run, ho]
  exact Output.extendAll_eq_error _ ⟨i, Nat.zero_le i, hplace, hcancelled⟩

theorem forall_eq_false_of_not_cancelled (h : ¬ ∃ i < c.enums.length, cancelled i = true) :
    ∀ i < c.enums.length, cancelled i = false := by
  intro i hi
  have hnot : ¬ cancelled i = true := fun hcancelled => h ⟨i, hi, hcancelled⟩
  exact eq_false_of_ne_true hnot

theorem run_eq_error_cancelled_iff (ho : o.fault? = none) :
    c.run o cancelled = .error .cancelled ↔ ∃ i < c.enums.length, cancelled i = true := by
  constructor
  · intro hrun
    by_cases h : ∃ i < c.enums.length, cancelled i = true
    · exact h
    · rw [run_eq_ok ho (forall_eq_false_of_not_cancelled h)] at hrun
      cases hrun
  · exact run_of_cancelled ho

/-- Where the answer is always the same, it decides as soon as there is a declaration. -/
theorem run_const_eq_error_cancelled_iff (ho : o.fault? = none) (answer : Bool) :
    c.run o (fun _ => answer) = .error .cancelled ↔ c.enums ≠ [] ∧ answer = true := by
  rw [run_eq_error_cancelled_iff ho, ← List.length_pos_iff]
  constructor
  · rintro ⟨i, hi, hanswer⟩
    exact ⟨Nat.zero_lt_of_lt hi, hanswer⟩
  · rintro ⟨hpos, hanswer⟩
    exact ⟨0, hpos, hanswer⟩

theorem run_const_eq_ok (ho : o.fault? = none) {answer : Bool}
    (h : ¬ (c.enums ≠ [] ∧ answer = true)) : c.run o (fun _ => answer) = .ok (c.output o) := by
  refine run_eq_ok ho fun i hi => ?_
  have hne : c.enums ≠ [] := List.ne_nil_of_length_pos (Nat.zero_lt_of_lt hi)
  exact eq_false_of_ne_true fun hanswer => h ⟨hne, hanswer⟩

/-- Only the answers before declarations count. -/
theorem run_congr (h : ∀ i < c.enums.length, later i = cancelled i) :
    c.run o later = c.run o cancelled := by
  cases ho : o.fault? with
  | some fault => rw [run_of_fault ho, run_of_fault ho]
  | none =>
    by_cases hsome : ∃ i < c.enums.length, cancelled i = true
    · obtain ⟨i, hi, hcancelled⟩ := hsome
      have hlater : later i = true := (h i hi).trans hcancelled
      rw [run_of_cancelled ho ⟨i, hi, hcancelled⟩, run_of_cancelled ho ⟨i, hi, hlater⟩]
    · have hnone := forall_eq_false_of_not_cancelled hsome
      have hlater : ∀ i < c.enums.length, later i = false :=
        fun i hi => (h i hi).trans (hnone i hi)
      rw [run_eq_ok ho hnone, run_eq_ok ho hlater]

/-- Compilations of equally many declarations are refused and cancelled alike, so what is known of
their outputs decides how the results of their passes differ. -/
theorem run_eq_map {c' : Compilation} {f : Output → Output}
    (hlength : c'.enums.length = c.enums.length) (houtput : c'.output o = f (c.output o))
    (cancelled : Nat → Bool) : c'.run o cancelled = (c.run o cancelled).map f := by
  cases ho : o.fault? with
  | some fault =>
    rw [run_of_fault ho, run_of_fault ho]
    rfl
  | none =>
    by_cases h : ∃ i < c.enums.length, cancelled i = true
    · rw [run_of_cancelled ho h, run_of_cancelled ho (hlength ▸ h)]
      rfl
    · have hnone := forall_eq_false_of_not_cancelled h
      rw [run_eq_ok ho hnone, run_eq_ok ho (hlength ▸ hnone), houtput]
      rfl

/-- **Cancellation is all or nothing.**  A configuration that makes no sense is refused in any
case.  Else the pass is cancelled exactly if the token is seen cancelled before some declaration,
and if it is not, its output is that of a pass which nobody cancels.  So there is no other output,
and a cancellation after the last question changes nothing. -/
theorem run_all_or_nothing (c : Compilation) (o : Options) (cancelled : Nat → Bool) :
    (∀ fault, o.fault? = some fault → c.run o cancelled = .error (.invalidConfig fault)) ∧
    (o.fault? = none →
      (c.run o cancelled = .error .cancelled ↔ ∃ i < c.enums.length, cancelled i = true) ∧
      ((¬ ∃ i < c.enums.length, cancelled i = true) →
        ∃ out, c.run o (fun _ => false) = .ok out ∧ c.run o cancelled = .ok out)) ∧
    (∀ out, c.run o cancelled = .ok out → c.run o (fun _ => false) = .ok out) ∧
    ∀ later : Nat → Bool, (∀ i < c.enums.length, later i = cancelled i) →
      c.run o later = c.run o cancelled := by
  refine ⟨fun fault => run_of_fault, ?_, ?_, fun later => run_congr⟩
  · intro ho
    refine ⟨run_eq_error_cancelled_iff ho, fun hnone => ?_⟩
    have hrun := run_eq_ok ho (forall_eq_false_of_not_cancelled hnone)
    exact ⟨c.output o, run_eq_ok ho fun _ _ => rfl, hrun⟩
  · intro out hrun
    obtain ⟨ho, -, rfl⟩ := run_eq_ok_iff.1 hrun
    exact run_eq_ok ho fun _ _ => rfl

/-- A configuration that is refused although the pass is cancelled, a cancellation that comes while
the first of two declarations is processed, and one that comes while the second is. -/
theorem run_all_or_nothing_between :
    let c : Compilation := { enums := [.unresolved "A" none, .unresolved "B" none] }
    c.run { receiver := "1" } (fun _ => true) = .error (.invalidConfig (.badReceiver "1")) ∧
      Options.fault? {} = none ∧ c.run {} (fun i => decide (1 ≤ i)) = .error .cancelled ∧
      ∃ out, out.diagnostics.length = 2 ∧ c.run {} (fun _ => false) = .ok out ∧
        c.run {} (fun i => decide (2 ≤ i)) = .ok out := by
  intro c
  have hfault : Options.fault? { receiver := "1" } = some (.badReceiver "1") := by decide
  have hrefused := (run_all_or_nothing c { receiver := "1" } fun _ => true).1 _ hfault
  have ho : Options.fault? {} = none := by decide
  obtain ⟨hcancelled, -⟩ := (run_all_or_nothing c {} fun i => decide (1 ≤ i)).2.1 ho
  obtain ⟨-, houtput⟩ := (run_all_or_nothing c {} fun i => decide (2 ≤ i)).2.1 ho
  have hfirst : ∃ i < c.enums.length, decide (1 ≤ i) = true := ⟨1, by decide, by decide⟩
  have hnone : ¬ ∃ i < c.enums.length, decide (2 ≤ i) = true := by decide
  obtain ⟨out, hnever, hrun⟩ := houtput hnone
  have hout : c.run {} (fun _ => false) = .ok (c.output {}) := rfl
  obtain rfl : c.output {} = out := Except.ok.inj (hout.symm.trans hnever)
  exact ⟨hrefused, ho, hcancelled.2 hfirst, c.output {}, rfl, hnever, hrun⟩

end Compilation

end EnumAccessors
