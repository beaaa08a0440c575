import EnumAccessors.Proofs.Pass
import EnumAccessors.Proofs.Raised
import Mathlib.Data.List.Basic
import Mathlib.Data.Set.Card

/-!
# Messages of diagnostics

The template of a kind has at most one slot, and whoever raises a diagnostic supplies exactly the
arguments that the template takes.  Hence no slot is left in a message, and what an argument brings
along is not taken for one.

* `Diagnostic.isComplete_of_isSupplied`: with as many arguments as its kind takes, a diagnostic is
  complete (`Diagnostic.IsComplete`).
* `Declaration.isSupplied_analyze`: the analysis supplies that many, wherever it raises something.
* `Compilation.isComplete_of_run`: all that a pass reports is complete.
-/

namespace EnumAccessors

open Checked

/-- Up to where the first text can start, nothing is replaced. -/
theorem Text.replace_append_left {c : Char} {before : List Char} (h : c ∉ before)
    (old new cs : List Char) :
    replace (c :: old) new (before ++ cs) = before ++ replace (c :: old) new cs := by
  induction before with
  | nil => rfl
  | cons b rest ih =>
    rw [List.mem_cons, not_or] at h
    have hstart : ¬ c :: old <+: b :: (rest ++ cs) := fun hpre =>
      h.1 (List.cons_prefix_cons.1 hpre).1
    rw [List.cons_append, replace_cons hstart, ih h.2, List.cons_append]

/-- A text that can start at one place only is replaced there.  What takes its place is not looked
at again. -/
theorem Text.replace_around {c : Char} {before after : List Char} (hbefore : c ∉ before)
    (hafter : c ∉ after) (old new : List Char) :
    replace (c :: old) new (before ++ c :: old ++ after) = before ++ new ++ after := by
  have hrest : replace (c :: old) new after = after :=
    replace_eq_self (fun h => hafter (h.subset List.mem_cons_self)) new
  rw [List.append_assoc, replace_append_left hbefore, replace_append (List.cons_ne_nil c old),
    hrest, List.append_assoc]

namespace Diagnostic

/-! ### Slots -/

/-- The numbers of the slots in a text. -/
def slotsIn (cs : List Char) : Set Nat := {index | slot index <:+: cs}

/-- How a text with at most one slot is filled. -/
inductive Fills : List Char → List String → List Char → Prop where
  | plain {cs : List Char} (h : slotsIn cs = ∅) : Fills cs [] cs
  | single {before after : List Char} (arg : String) (hbefore : slotsIn before = ∅)
    (hafter : slotsIn after = ∅) :
    Fills (before ++ slot 0 ++ after) [arg] (before ++ arg.toList ++ after)

theorem slot_eq (index : Nat) : slot index = '\x7b' :: (Nat.toDigits 10 index ++ ['\x7d']) := by
  rw [slot, Nat.toString_eq_ofList_toDigits, String.toList_ofList, List.cons_append]

theorem slotsIn_eq_empty {cs : List Char} (h : '\x7b' ∉ cs) : slotsIn cs = ∅ := by
  rw [Set.eq_empty_iff_forall_notMem]
  intro index hindex
  exact h (hindex.subset List.mem_cons_self)

/-- A slot is the only one if no other is opened around it. -/
theorem slotsIn_around {before after : List Char} (hbefore : '\x7b' ∉ before)
    (hafter : '\x7b' ∉ after) (index : Nat) :
    slotsIn (before ++ slot index ++ after) = {index} := by
  ext other
  rw [Set.mem_singleton_iff]
  constructor
  · rintro ⟨s, t, h⟩
    have hdigits : ∀ (n : Nat) (rest : List Char),
        (Nat.toDigits 10 n ++ '\x7d' :: rest).takeWhile Char.isDigit = Nat.toDigits 10 n := by
      intro n rest
      rw [List.takeWhile_append_of_pos
        fun c hc => Nat.isDigit_of_mem_toDigits (by decide) (by decide) hc]
      simp
    -- both slots are opened at the same place, and closed behind the same digits
    have hopen : '\x7b' ∉ Nat.toDigits 10 index ++ '\x7d' :: after := by
      simp only [List.mem_append, List.mem_cons, not_or]
      refine ⟨fun hc => ?_, by decide, hafter⟩
      exact absurd (Nat.isDigit_of_mem_toDigits (by decide) (by decide) hc) (by decide)
    have hsplit : before ++ '\x7b' :: (Nat.toDigits 10 index ++ '\x7d' :: after) =
        s ++ '\x7b' :: (Nat.toDigits 10 other ++ '\x7d' :: t) := by
      simpa [slot_eq] using h.symm
    obtain ⟨-, -, hrest⟩ := (List.append_cons_inj_of_notMem hbefore hopen).1 hsplit
    have hsame := congrArg (List.takeWhile Char.isDigit) hrest
    rw [hdigits, hdigits] at hsame
    rw [← Nat.ofDigitChars_ten_toDigits (n := other), ← hsame, Nat.ofDigitChars_ten_toDigits]
  · rintro rfl
    exact ⟨before, after, rfl⟩

/-! ### Templates -/

/-- How many arguments the message of a kind takes. -/
def Kind.arity : Kind → Nat
  | namingAbsent | namingArguments | prefixAbsent | displayNameAbsent | membershipArguments => 0
  | _ => 1

/-- A template opens as many slots as the kind takes arguments, and has the first slot if there
is one. -/
theorem Kind.count_template (k : Kind) :
    k.template.toList.count '\x7b' = k.arity ∧
      (k.arity = 1 → slot 0 <:+: k.template.toList) := by
  have hslot : slot 0 = ['\x7b', '0', '\x7d'] := by decide
  rw [hslot]
  cases k <;> rw [template, String.toList_ofList] <;> decide

theorem Kind.arity_eq_zero_or_one (k : Kind) : k.arity = 0 ∨ k.arity = 1 := by
  cases k <;> decide

/-- The template of a kind that takes an argument has one slot, in a text without slots. -/
theorem Kind.exists_template {k : Kind} (harity : k.arity = 1) :
    ∃ before after, '\x7b' ∉ before ∧ '\x7b' ∉ after ∧
      k.template.toList = before ++ slot 0 ++ after := by
  obtain ⟨hcount, hslot⟩ := k.count_template
  obtain ⟨before, after, h⟩ := hslot harity
  have hopen : (slot 0).count '\x7b' = 1 := by decide
  rw [harity, ← h, List.count_append, List.count_append, hopen] at hcount
  refine ⟨before, after, ?_, ?_, h.symm⟩
  · exact List.count_eq_zero.1 (by omega)
  · exact List.count_eq_zero.1 (by omega)

/-! ### Complete diagnostics -/

/-- As many arguments are supplied as the kind takes. -/
def IsSupplied (d : Diagnostic) : Prop := d.args.length = d.kind.arity

/-- A diagnostic from which nothing is missing. -/
structure IsComplete (d : Diagnostic) : Prop where
  /-- There is an argument for each slot of the template. -/
  count : (slotsIn d.kind.template.toList).ncard = d.args.length
  severity : d.severity = d.kind.severity
  /-- The message is the template with the argument as it is in place of the slot. -/
  message : Fills d.kind.template.toList d.args d.message.toList

theorem isComplete_of_isSupplied {d : Diagnostic} (h : d.IsSupplied) : d.IsComplete := by
  rw [IsSupplied] at h
  rcases d.kind.arity_eq_zero_or_one with harity | harity
  · have hargs : d.args = [] := List.length_eq_zero_iff.1 (h.trans harity)
    have hnone : slotsIn d.kind.template.toList = ∅ :=
      slotsIn_eq_empty (List.count_eq_zero.1 (d.kind.count_template.1.trans harity))
    have hmessage : d.message.toList = d.kind.template.toList := by
      rw [message, hargs, fillFrom, String.toList_ofList]
    refine ⟨?_, rfl, ?_⟩
    · rw [hnone, hargs, Set.ncard_empty, List.length_nil]
    · rw [hmessage, hargs]
      exact .plain hnone
  · obtain ⟨arg, hargs⟩ := List.length_eq_one_iff.1 (h.trans harity)
    obtain ⟨before, after, hbefore, hafter, htemplate⟩ := Kind.exists_template harity
    have hmessage : d.message.toList = before ++ arg.toList ++ after := by
      rw [message, hargs, fillFrom, fillFrom, String.toList_ofList, htemplate]
      exact Text.replace_around hbefore hafter _ _
    refine ⟨?_, rfl, ?_⟩
    · rw [htemplate, slotsIn_around hbefore hafter, hargs, Set.ncard_singleton,
        List.length_singleton]
    · rw [hmessage, hargs, htemplate]
      exact .single arg (slotsIn_eq_empty hbefore) (slotsIn_eq_empty hafter)

end Diagnostic

/-! ### What is raised -/

section Raising

open Diagnostic

theorem Check.isSupplied_projectNaming (attr : Option Attribute) :
    (projectNaming attr).RaisesOnly IsSupplied :=
  raisesOnly_projectNaming (fun _ _ => rfl) (fun _ _ => rfl) (fun _ => rfl) attr

theorem EnumType.isSupplied_describe (e : EnumType) (project : Option Naming) :
    (e.describe project).RaisesOnly IsSupplied := by
  have hpre : Check.IdentifierKinds.accessorPrefix.Raise IsSupplied :=
    ⟨fun _ => rfl, fun _ _ => rfl, fun _ _ => rfl⟩
  have habsent : IsSupplied ⟨.namingAbsent, none, []⟩ := rfl
  refine (Check.raisesOnly_identifier hpre _ _).bind fun _ => ?_
  refine (Check.raisesOnly_typeNaming (fun _ _ => rfl) (fun _ _ => rfl) (fun _ => rfl) habsent
    _ _).bind fun _ => ?_
  refine (raisesOnly_each (fun m => ?_) _).bind fun _ => ?_
  · exact m.raisesOnly_analyze (fun _ _ => rfl) ⟨fun _ => rfl, fun _ _ => rfl, fun _ _ => rfl⟩
      hpre
  refine RaisesOnly.bind ?_ fun _ => ?_
  · exact GroupDeclaration.raisesOnly_collectFrom ⟨fun _ => rfl, fun _ _ => rfl, fun _ _ => rfl⟩
      ⟨fun _ => rfl, fun _ _ => rfl, fun _ _ => rfl⟩ _ _ _
  refine RaisesOnly.bind (raisesOnly_each (fun m => ?_) _) fun _ => raisesOnly_ok _
  exact (GroupDeclaration.raisesOnly_resolve (fun _ _ => rfl) (fun _ _ => rfl) (fun _ => rfl)
    _ _).map _

theorem EnumType.isSupplied_analyze (e : EnumType) (project : Option Naming) :
    (e.analyze project).RaisesOnly IsSupplied := by
  unfold analyze
  split
  · refine (Check.raisesOnly_exclusion (fun _ _ => rfl) _).bind fun isExcluded => ?_
    split
    · exact raisesOnly_ok _
    · exact (e.isSupplied_describe project).bind fun _ => raisesOnly_ok _
  · exact raisesOnly_ok _

theorem Declaration.isSupplied_analyze (d : Declaration) (project : Option Naming) :
    (d.analyze project).RaisesOnly IsSupplied := by
  unfold analyze
  split
  · exact EnumType.isSupplied_analyze _ _
  · exact raisesOnly_defaulted _ rfl

end Raising

namespace Compilation

theorem isSupplied_output (c : Compilation) (o : Options) :
    (∀ d ∈ (c.output o).diagnostics, d.IsSupplied) ∧
      ∀ r ∈ (c.output o).reports, ∀ d ∈ r.diagnostics, d.IsSupplied := by
  constructor
  · intro d hd
    rw [output, List.mem_append, List.mem_flatMap] at hd
    rcases hd with hd | ⟨declaration, -, hd⟩
    · exact Check.isSupplied_projectNaming _ d hd
    · exact declaration.isSupplied_analyze _ d hd
  · intro r hr d hd
    obtain ⟨declaration, -, hr⟩ := Report.mem_all.1 hr
    obtain ⟨-, hr⟩ := Report.of?_eq_some_iff.1 hr
    rw [hr] at hd
    exact declaration.isSupplied_analyze _ d hd

/-- **All that a pass reports is complete.**  A pass with options that make sense gives an output
unless it is cancelled.  Each diagnostic in it has an argument for each slot of its template, and a
message that shows the template with the argument as it is, slots in it included. -/
theorem isComplete_of_run (c : Compilation) {o : Options} (ho : o.fault? = none) :
    (∃ out, c.run o (fun _ => false) = .ok out) ∧
      ∀ cancelled out, c.run o cancelled = .ok out →
        (∀ d ∈ out.diagnostics, d.IsComplete) ∧
          ∀ r ∈ out.reports, ∀ d ∈ r.diagnostics, d.IsComplete := by
  refine ⟨⟨_, run_eq_ok ho fun _ _ => rfl⟩, fun cancelled out hrun => ?_⟩
  obtain ⟨-, -, rfl⟩ := run_eq_ok_iff.1 hrun
  obtain ⟨hdiagnostics, hreports⟩ := c.isSupplied_output o
  exact ⟨fun d hd => Diagnostic.isComplete_of_isSupplied (hdiagnostics d hd),
    fun r hr d hd => Diagnostic.isComplete_of_isSupplied (hreports r hr d hd)⟩

/-- A reference to a group whose name looks like slots, beside a diagnostic without arguments. -/
theorem isComplete_of_run_braced :
    let e : EnumType :=
      { name := "E", fullName := "E", accessibility := .public
        members := [{ name := "A", groups := [{ args := [.text "\x7b0\x7d\x7b1\x7d"] }] }] }
    let c : Compilation := { enums := [.resolved e] }
    let d : Diagnostic := ⟨.unknownGroup, none, ["\x7b0\x7d\x7b1\x7d"]⟩
    Options.fault? {} = none ∧ ∃ out, c.run {} (fun _ => false) = .ok out ∧
      out.diagnostics = [⟨.namingAbsent, none, []⟩, d] ∧
      ((∀ d ∈ out.diagnostics, d.IsComplete) ∧
        ∀ r ∈ out.reports, ∀ d ∈ r.diagnostics, d.IsComplete) ∧
      d.message = "Cannot add flag to group, unknown group name '\x7b0\x7d\x7b1\x7d'" := by
  intro e c d
  have ho : Options.fault? {} = none := by decide
  obtain ⟨⟨out, hout⟩, hcomplete⟩ := isComplete_of_run c ho
  have houtput : (c.output {}).diagnostics = [⟨.namingAbsent, none, []⟩, d] := by decide
  obtain ⟨-, -, rfl⟩ := run_eq_ok_iff.1 hout
  exact ⟨ho, _, hout, houtput, hcomplete _ _ hout, by decide +kernel⟩

end Compilation

end EnumAccessors
