import EnumAccessors.Pass.Basic

/-!
# Outputs of passes

A pass puts its output together declaration by declaration, while it asks again and again whether
it has been cancelled.

* `Compilation.output` is the output told at once; `Compilation.run_eq_ok_iff`: a pass gives this
  output if its configuration makes sense and it is not cancelled, and else none.
* `Output.Coherent`: what is stored twice agrees, and each report is about the declaration that
  its place says.
* `Compilation.run_append`: the output for two lists of declarations is that for the first
  followed by that for the second, its places moved up; the diagnostics of the project stand at
  the head once.
-/

namespace EnumAccessors

/-! ### Parts of an output -/

/-- The source file for the type that a declaration stands for. -/
def Declaration.unit? (o : Options) (project : Option Naming) (d : Declaration) :
    Option SourceUnit :=
  (d.analyze project).value.bind fun descriptor => descriptor.generate o

namespace Report

/-- The report on a declaration at a place, if there is anything to report. -/
def of? (project : Option Naming) (d : Declaration) (index : Nat) : Option Report :=
  if (d.analyze project).diagnostics = [] then none
  else some ⟨index, d.name, (d.analyze project).diagnostics⟩

/-- The reports on declarations, the first of which has the place `start`. -/
def all (project : Option Naming) (start : Nat) (ds : List Declaration) : List Report :=
  (ds.zipIdx start).filterMap fun p => of? project p.1 p.2

/-- The report with its place moved up. -/
def shift (offset : Nat) (r : Report) : Report := { r with index := offset + r.index }

variable {project : Option Naming} {d : Declaration} {index : Nat} {r : Report}

theorem of?_eq_some_iff :
    of? project d index = some r ↔
      (d.analyze project).diagnostics ≠ [] ∧
        r = ⟨index, d.name, (d.analyze project).diagnostics⟩ := by
  unfold of?
  split
  · next h => simp [h]
  · next h => simp [h, eq_comm]

@[simp] theorem shift_of? (offset : Nat) :
    (of? project d index).map (shift offset) = of? project d (offset + index) := by
  unfold of?
  split <;> rfl

@[simp] theorem diagnostics_of? :
    ((of? project d index).toList.flatMap Report.diagnostics) =
      (d.analyze project).diagnostics := by
  unfold of?
  split
  · next h => simp [h]
  · simp

theorem all_cons (project : Option Naming) (start : Nat) (d : Declaration)
    (ds : List Declaration) :
    all project start (d :: ds) = (of? project d start).toList ++ all project (start + 1) ds := by
  simp only [all, List.zipIdx_cons, List.filterMap_cons]
  cases of? project d start <;> rfl

/-- The places of later declarations are counted on. -/
theorem all_append (project : Option Naming) (xs ys : List Declaration) :
    all project 0 (xs ++ ys) = all project 0 xs ++ (all project 0 ys).map (shift xs.length) := by
  -- the later declarations have the places they have alone, counted on
  have hshift : ((fun p : Declaration × Nat => of? project p.1 p.2) ∘
      fun p : Declaration × Nat => (p.1, xs.length + p.2)) =
        fun p => (of? project p.1 p.2).map (shift xs.length) := by
    funext p
    exact (shift_of? xs.length).symm
  rw [all, List.zipIdx_append, List.filterMap_append, Nat.zero_add,
    List.zipIdx_eq_map_add (l := ys), List.filterMap_map, hshift, all, all, List.map_filterMap]

theorem mem_all {ds : List Declaration} :
    r ∈ all project 0 ds ↔ ∃ d, ds[r.index]? = some d ∧ of? project d r.index = some r := by
  simp only [all, List.mem_filterMap, List.mem_zipIdx_iff_getElem?, Prod.exists]
  constructor
  · rintro ⟨d, index, hd, hr⟩
    obtain ⟨-, rfl⟩ := of?_eq_some_iff.1 hr
    exact ⟨d, hd, hr⟩
  · rintro ⟨d, hd, hr⟩
    exact ⟨d, r.index, hd, hr⟩

/-- The places of reports increase. -/
theorem pairwise_index_all (project : Option Naming) (start : Nat) (ds : List Declaration) :
    (all project start ds).Pairwise fun r s => r.index < s.index := by
  have hplaces : (ds.zipIdx start).Pairwise fun p q => p.2 < q.2 := by
    rw [← List.pairwise_map (f := Prod.snd) (R := (· < ·)), List.zipIdx_map_snd]
    exact List.pairwise_lt_range'
  refine hplaces.filterMap _ fun p q hpq r hr s hs => ?_
  obtain ⟨-, rfl⟩ := of?_eq_some_iff.1 hr
  obtain ⟨-, rfl⟩ := of?_eq_some_iff.1 hs
  exact hpq

theorem flatMap_diagnostics_all (project : Option Naming) (start : Nat)
    (ds : List Declaration) :
    (all project start ds).flatMap Report.diagnostics =
      ds.flatMap fun d => (d.analyze project).diagnostics := by
  induction ds generalizing start with
  | nil => rfl
  | cons d ds ih => rw [all_cons, List.flatMap_append, diagnostics_of?, ih, List.flatMap_cons]

end Report

/-! ### The whole output -/

namespace Output

variable {cancelled : Nat → Bool} {o : Options} {project : Option Naming}

/-- What one declaration adds. -/
theorem extend_eq (out : Output) (o : Options) (project : Option Naming) (index : Nat)
    (d : Declaration) :
    out.extend o project index d =
      { units := out.units ++ (d.unit? o project).toList
        diagnostics := out.diagnostics ++ (d.analyze project).diagnostics
        reports := out.reports ++ (Report.of? project d index).toList } := by
  simp only [extend, Declaration.unit?, Report.of?, List.isEmpty_iff]
  split <;> simp

/-- What all declarations add, if there is no cancellation before any of them. -/
theorem extendAll_eq_ok {index : Nat} {ds : List Declaration} (out : Output)
    (h : ∀ i, index ≤ i → i < index + ds.length → cancelled i = false) :
    extendAll cancelled o project index out ds =
      .ok { units := out.units ++ ds.filterMap (Declaration.unit? o project)
            diagnostics := out.diagnostics ++ ds.flatMap fun d => (d.analyze project).diagnostics
            reports := out.reports ++ Report.all project index ds } := by
  induction ds generalizing index out with
  | nil => simp [extendAll, Report.all]
  | cons d ds ih =>
    -- the question before `d` has the number `index`, the others follow
    have hhead : cancelled index = false := h index (Nat.le_refl _) (by simp)
    have htail : ∀ i, index + 1 ≤ i → i < index + 1 + ds.length → cancelled i = false :=
      fun i hle hlt => h i (by omega) (by simp only [List.length_cons]; omega)
    rw [extendAll, hhead, if_neg Bool.false_ne_true, ih _ htail, extend_eq, Report.all_cons]
    cases hu : d.unit? o project <;> simp [hu]

/-- A cancellation before any declaration leaves nothing. -/
theorem extendAll_eq_error {index : Nat} {ds : List Declaration} (out : Output)
    (h : ∃ i, index ≤ i ∧ i < index + ds.length ∧ cancelled i = true) :
    extendAll cancelled o project index out ds = .error .cancelled := by
  induction ds generalizing index out with
  | nil =>
    obtain ⟨i, hle, hlt, -⟩ := h
    exact absurd hlt (Nat.not_lt.2 hle)
  | cons d ds ih =>
    rw [extendAll]
    split
    · rfl
    · next hhead =>
      obtain ⟨i, hle, hlt, hi⟩ := h
      have hne : i ≠ index := fun he => hhead (he ▸ hi)
      simp only [List.length_cons] at hlt
      exact ih _ ⟨i, by omega, by omega, hi⟩

end Output

namespace Compilation

variable {c : Compilation} {o : Options} {cancelled : Nat → Bool} {out : Output}

/-- The output of a pass, told at once. -/
def output (c : Compilation) (o : Options) : Output :=
  let project := Check.projectNaming c.naming
  { units := c.enums.filterMap (Declaration.unit? o project.value)
    diagnostics :=
      project.diagnostics ++ c.enums.flatMap fun d => (d.analyze project.value).diagnostics
    reports := Report.all project.value 0 c.enums }

theorem run_eq_ok (ho : o.fault? = none) (h : ∀ i < c.enums.length, cancelled i = false) :
    c.run o cancelled = .ok (c.output o) := by
  simp only [run, ho]
  rw [Output.extendAll_eq_ok _ fun i _ hi => h i (by omega)]
  simp [output]

/-- A pass gives its output exactly if the configuration makes sense and no cancellation comes
before a declaration. -/
theorem run_eq_ok_iff :
    c.run o cancelled = .ok out ↔
      o.fault? = none ∧ (∀ i < c.enums.length, cancelled i = false) ∧ out = c.output o := by
  constructor
  · intro hrun
    cases ho : o.fault? with
    | some fault => simp [run, ho] at hrun
    | none =>
      by_cases h : ∀ i < c.enums.length, cancelled i = false
      · rw [run_eq_ok ho h] at hrun
        exact ⟨rfl, h, (Except.ok.inj hrun).symm⟩
      · obtain ⟨i, hi⟩ := Classical.not_forall.1 h
        obtain ⟨hlt, hi⟩ := Classical.not_imp.1 hi
        simp only [run, ho] at hrun
        rw [Output.extendAll_eq_error _ ⟨i, Nat.zero_le i, by omega, by simpa using hi⟩] at hrun
        cases hrun
  · rintro ⟨ho, h, rfl⟩
    exact run_eq_ok ho h

end Compilation

/-! ### Coherence -/

/-- The parts of an output fit together and to the compilation. -/
structure Output.Coherent (out : Output) (c : Compilation) : Prop where
  diagnostics : out.diagnostics =
    (Check.projectNaming c.naming).diagnostics ++ out.reports.flatMap Report.diagnostics
  increasing : out.reports.Pairwise fun r s => r.index < s.index
  nonempty : ∀ r ∈ out.reports, r.diagnostics ≠ []
  /-- A report has the name and the diagnostics of the declaration at its place. -/
  sound : ∀ r ∈ out.reports, ∃ d, c.enums[r.index]? = some d ∧ r.name = d.name ∧
    r.diagnostics = (d.analyze (Check.projectNaming c.naming).value).diagnostics
  complete : ∀ i d, c.enums[i]? = some d →
    (d.analyze (Check.projectNaming c.naming).value).diagnostics ≠ [] →
      ∃ r ∈ out.reports, r.index = i

theorem Compilation.coherent_output (c : Compilation) (o : Options) :
    (c.output o).Coherent c where
  diagnostics := by simp only [output, Report.flatMap_diagnostics_all]
  increasing := Report.pairwise_index_all _ 0 c.enums
  nonempty := fun r hr => by
    obtain ⟨d, -, hd⟩ := Report.mem_all.1 hr
    obtain ⟨hne, hr'⟩ := Report.of?_eq_some_iff.1 hd
    rw [hr']
    exact hne
  sound := fun r hr => by
    obtain ⟨d, hget, hd⟩ := Report.mem_all.1 hr
    obtain ⟨-, hr'⟩ := Report.of?_eq_some_iff.1 hd
    exact ⟨d, hget, congrArg Report.name hr', congrArg Report.diagnostics hr'⟩
  complete := fun i d hget hne =>
    ⟨⟨i, d.name, _⟩, Report.mem_all.2 ⟨d, hget, Report.of?_eq_some_iff.2 ⟨hne, rfl⟩⟩, rfl⟩

/-! ### Composition -/

/-- **Passes compose.**  The output for two lists of declarations is that for the first followed
by that for the second, with its places counted on and the diagnostics of the project once; and
every output is coherent. -/
theorem Compilation.run_append (naming : Option Attribute) (xs ys : List Declaration)
    {o : Options} (ho : o.fault? = none) :
    (∃ out outx outy, run ⟨naming, xs ++ ys⟩ o (fun _ => false) = .ok out ∧
      run ⟨naming, xs⟩ o (fun _ => false) = .ok outx ∧
      run ⟨naming, ys⟩ o (fun _ => false) = .ok outy ∧
      out.units = outx.units ++ outy.units ∧
      out.diagnostics = (Check.projectNaming naming).diagnostics ++
        (xs.flatMap fun d => (d.analyze (Check.projectNaming naming).value).diagnostics) ++
        ys.flatMap (fun d => (d.analyze (Check.projectNaming naming).value).diagnostics) ∧
      out.reports = outx.reports ++ outy.reports.map (Report.shift xs.length)) ∧
    ∀ (c : Compilation) (o : Options) (cancelled : Nat → Bool) (out : Output),
      c.run o cancelled = .ok out → out.Coherent c := by
  constructor
  · refine ⟨_, _, _, run_eq_ok ho fun _ _ => rfl, run_eq_ok ho fun _ _ => rfl,
      run_eq_ok ho fun _ _ => rfl, ?_, ?_, ?_⟩
    · simp [output]
    · simp [output]
    · exact Report.all_append _ xs ys
  · intro c o cancelled out hrun
    obtain ⟨-, -, rfl⟩ := run_eq_ok_iff.1 hrun
    exact coherent_output c o

/-- A malformed preference of the project, and reports before and after a silent declaration. -/
theorem Compilation.run_append_unresolved :
    let xs : List Declaration := [.unresolved "A" none]
    let ys : List Declaration := [.resolved (.ofName "S" "" .private), .unresolved "B" none]
    Options.fault? {} = none ∧ ∃ out outx outy,
      run ⟨some {}, xs ++ ys⟩ {} (fun _ => false) = .ok out ∧
      run ⟨some {}, xs⟩ {} (fun _ => false) = .ok outx ∧
      run ⟨some {}, ys⟩ {} (fun _ => false) = .ok outy ∧
      out.reports = outx.reports ++ outy.reports.map (Report.shift 1) ∧
      out.diagnostics.map Diagnostic.kind =
        [.namingArguments, .unresolvedDeclaration, .unresolvedDeclaration] := by
  intro xs ys
  have ho : Options.fault? {} = none := by decide
  obtain ⟨⟨out, outx, outy, hout, houtx, houty, -, hdiagnostics, hreports⟩, -⟩ :=
    run_append (some {}) xs ys ho
  refine ⟨ho, out, outx, outy, hout, houtx, houty, hreports, ?_⟩
  rw [hdiagnostics]
  decide

end EnumAccessors
