import EnumAccessors.Proofs.Fixes
import EnumAccessors.Proofs.Listings
import Mathlib.Data.List.Basic

/-!
# What is offered for unknown groups

The fixes for the diagnostics of a pass are listed in two ways: as pairs of a diagnostic and an
edit (`Output.fixes`), and as the lines that the command `fixes` prints (`Command.fixListing`).
Both go through the reports and look up the type that a report is about.  A type that has nothing
to report has no report, and two types may have diagnostics that look the same.

* `Diagnostic.Offered` says what is offered for a diagnostic against a type: nothing if the type
  mentions the group in a declaration, else to declare it or to drop a reference to it.
* `Output.exists_offers`: both listings are read off one list of offers (`Output.Offers`), one for
  each unknown group of the pass in order, each made against the type that its report is about.
-/

namespace EnumAccessors

/-! ### One diagnostic -/

/-- The edits that are offered for a diagnostic against the type `e`. -/
inductive Diagnostic.Offered (e : EnumType) : Diagnostic → List Edit → Prop where
  /-- The type mentions the group in a declaration. -/
  | mentioned {location : Option Location} {group : String} {a : Attribute} (ha : a ∈ e.groups)
    (hgroup : a.arg? 0 = some (.text group)) : Offered e ⟨.unknownGroup, location, [group]⟩ []
  /-- No declaration mentions the group, and the reference `a` to it can be dropped, which stands
  at the place of the diagnostic if that has one. -/
  | pending {location : Option Location} {group : String} {m : Member} {index : Nat}
    {a : Attribute} (hgroups : ∀ b ∈ e.groups, b.arg? 0 ≠ some (.text group))
    (hm : m ∈ e.members) (ha : m.groups[index]? = some a) (hargs : a.args = [.text group])
    (hplace : ∀ l ∈ location, a.location = some l) :
    Offered e ⟨.unknownGroup, location, [group]⟩
      [.addGroup group, .removeMembership m.name index]

/-- The reference that is found stands on a member of the type. -/
theorem EnumType.exists_getElem?_of_findReference {e : EnumType} {group member : String}
    {location : Option Location} {index : Nat}
    (h : e.findReference group location = some (member, index)) :
    ∃ m ∈ e.members, m.name = member ∧ ∃ a, m.groups[index]? = some a ∧
      isReference group location a = true := by
  obtain ⟨m, hm, hfound⟩ := List.exists_of_findSome?_eq_some h
  obtain ⟨i, hi, hpair⟩ := Option.map_eq_some_iff.1 hfound
  obtain ⟨rfl, rfl⟩ := Prod.mk.inj hpair
  obtain ⟨hlt, ha, -⟩ := List.findIdx?_eq_some_iff_getElem.1 hi
  exact ⟨m, hm, rfl, m.groups[i], List.getElem?_eq_getElem hlt, ha⟩

/-- What the fixes of an unknown group are. -/
theorem Diagnostic.offered_fixes {d : Diagnostic} {e : EnumType} {project : Option Naming}
    (hd : d ∈ (e.analyze project).diagnostics) (hkind : d.kind = .unknownGroup) :
    Offered e d (d.fixes e) := by
  obtain ⟨-, a, ha, group, hargs, -, rfl⟩ := EnumType.mem_diagnostics_unknownGroup.1 ⟨hd, hkind⟩
  have hfixes := fixes_eq_nil_iff ha hargs
  cases hmentions : e.mentionsGroup group with
  | true =>
    obtain ⟨b, hb, hgroup⟩ := EnumType.mentionsGroup_iff.1 hmentions
    rw [hfixes.2 hmentions]
    exact .mentioned hb hgroup
  | false =>
    have hgroups := EnumType.mentionsGroup_eq_false_iff.1 hmentions
    cases hfind : e.findReference group a.location with
    | none => simp [fixes, hmentions, hfind] at hfixes
    | some found =>
      obtain ⟨member, index⟩ := found
      obtain ⟨m, hm, rfl, b, hb, hfits⟩ := EnumType.exists_getElem?_of_findReference hfind
      obtain ⟨hbargs, hplace⟩ := EnumType.isReference_iff.1 hfits
      simp only [fixes, hmentions, hfind]
      refine .pending hgroups hm hb hbargs fun l hl => ?_
      rcases hplace with hnone | hsame
      · rw [hnone] at hl
        cases hl
      · exact hsame.trans hl

/-! ### All diagnostics -/

/-- What is offered for one diagnostic of a report. -/
structure Offer where
  report : Report
  diagnostic : Diagnostic
  edits : List Edit

namespace Offer

/-- The diagnostic beside each edit. -/
def pairs (x : Offer) : List (Diagnostic × Edit) := x.edits.map fun edit => (x.diagnostic, edit)

/-- The entry for the diagnostic on a line, and the edits on a line each. -/
def lines (x : Offer) : List String :=
  (x.report.name ++ ": " ++ x.diagnostic.entry.line) ::
    x.edits.map fun edit => "  [" ++ edit.equivalenceKey ++ "] " ++ edit.title

/-- The offers for the unknown groups of a report. -/
def ofReport (c : Compilation) (r : Report) : List Offer :=
  match Output.symbolOf c r with
  | none => []
  | some e =>
    (r.diagnostics.filter fun d => d.kind == .unknownGroup).map fun d => ⟨r, d, d.fixes e⟩

end Offer

/-- The offers for an output of a pass over `c`. -/
structure Output.Offers (out : Output) (c : Compilation) (offers : List Offer) : Prop where
  /-- There is one for each unknown group, in the order of the diagnostics. -/
  diagnostics : offers.map Offer.diagnostic =
    out.diagnostics.filter fun d => d.kind == .unknownGroup
  /-- Each belongs to the report that holds its diagnostic. -/
  reports : (offers.map fun x => (x.report, x.diagnostic)) = out.reports.flatMap fun r =>
    (r.diagnostics.filter fun d => d.kind == .unknownGroup).map fun d => (r, d)
  /-- Each is made against the type that its report is about. -/
  offered : ∀ x ∈ offers, ∃ d e, c.enums[x.report.index]? = some d ∧ d.symbol = some e ∧
    x.diagnostic.Offered e x.edits
  /-- They hold all pairs, so there are none for other diagnostics. -/
  fixes : out.fixes c = offers.flatMap Offer.pairs

/-- The command that lists fixes prints all offers. -/
theorem Command.fixListing_eq (c : Compilation) (out : Output) :
    fixListing c out = (out.reports.flatMap (Offer.ofReport c)).flatMap Offer.lines := by
  rw [fixListing, List.flatMap_assoc]
  refine congrArg (List.flatMap · out.reports) (funext fun r => ?_)
  unfold Offer.ofReport
  cases Output.symbolOf c r with
  | none => rfl
  | some e =>
    dsimp only
    rw [List.flatMap_map]
    rfl

/-- For other diagnostics than unknown groups there is nothing to offer. -/
theorem Output.fixes_eq (c : Compilation) (out : Output) :
    out.fixes c = (out.reports.flatMap (Offer.ofReport c)).flatMap Offer.pairs := by
  rw [fixes, List.flatMap_assoc]
  refine congrArg (List.flatMap · out.reports) (funext fun r => ?_)
  unfold Offer.ofReport
  cases symbolOf c r with
  | none => rfl
  | some e =>
    dsimp only
    rw [List.flatMap_map]
    refine (flatMap_filter_of_forall fun d _ hkind => ?_).symm
    have hfixes : d.fixes e = [] := Diagnostic.fixes_of_kind_ne (by simpa using hkind) e
    simp only [hfixes, List.map_nil]

namespace Compilation

variable {c : Compilation} {o : Options} {r : Report}

theorem kind_ne_unknownGroup_of_mem_projectNaming {d : Diagnostic} {attr : Option Attribute}
    (h : d ∈ (Check.projectNaming attr).diagnostics) : d.kind ≠ .unknownGroup :=
  Check.raisesOnly_projectNaming (p := fun d => d.kind ≠ .unknownGroup) (by simp) (by simp)
    (by simp) attr d h

/-- A report with an unknown group is about a type, which has raised it. -/
theorem exists_symbol_of_mem_reports (hr : r ∈ (c.output o).reports) {d : Diagnostic}
    (hd : d ∈ r.diagnostics) (hkind : d.kind = .unknownGroup) :
    ∃ decl e, c.enums[r.index]? = some decl ∧ decl.symbol = some e ∧
      d ∈ (e.analyze (Check.projectNaming c.naming).value).diagnostics := by
  obtain ⟨decl, hget, -, hdiagnostics⟩ := (c.coherent_output o).sound r hr
  rw [hdiagnostics, Declaration.analyze] at hd
  cases hsymbol : decl.symbol with
  | none =>
    rw [hsymbol] at hd
    rw [List.mem_singleton.1 hd] at hkind
    cases hkind
  | some e =>
    rw [hsymbol] at hd
    exact ⟨decl, e, hget, hsymbol, hd⟩

theorem map_ofReport (hr : r ∈ (c.output o).reports) :
    ((Offer.ofReport c r).map fun x => (x.report, x.diagnostic)) =
      (r.diagnostics.filter fun d => d.kind == .unknownGroup).map fun d => (r, d) := by
  unfold Offer.ofReport
  split
  · next hnone =>
    -- no type, so no unknown group
    rw [eq_comm, List.map_nil, List.map_eq_nil_iff, List.filter_eq_nil_iff]
    intro d hd hkind
    obtain ⟨decl, e, hget, hsymbol, -⟩ := exists_symbol_of_mem_reports hr hd (by simpa using hkind)
    rw [Output.symbolOf, hget, Option.bind_some, hsymbol] at hnone
    cases hnone
  · rw [List.map_map]
    rfl

theorem offers_output (c : Compilation) (o : Options) :
    (c.output o).Offers c ((c.output o).reports.flatMap (Offer.ofReport c)) := by
  have hreports : (((c.output o).reports.flatMap (Offer.ofReport c)).map
      fun x => (x.report, x.diagnostic)) = (c.output o).reports.flatMap fun r =>
        (r.diagnostics.filter fun d => d.kind == .unknownGroup).map fun d => (r, d) := by
    rw [List.map_flatMap]
    exact List.flatMap_congr fun r hr => map_ofReport hr
  refine ⟨?_, hreports, ?_, Output.fixes_eq c _⟩
  · have hproject : ((Check.projectNaming c.naming).diagnostics.filter
        fun d => d.kind == .unknownGroup) = [] := by
      rw [List.filter_eq_nil_iff]
      intro d hd hkind
      exact kind_ne_unknownGroup_of_mem_projectNaming hd (by simpa using hkind)
    rw [(c.coherent_output o).diagnostics, List.filter_append, hproject, List.nil_append,
      List.filter_flatMap]
    calc ((c.output o).reports.flatMap (Offer.ofReport c)).map Offer.diagnostic
        = (((c.output o).reports.flatMap (Offer.ofReport c)).map
            fun x => (x.report, x.diagnostic)).map Prod.snd := by
          rw [List.map_map]
          rfl
      _ = (c.output o).reports.flatMap fun r =>
            r.diagnostics.filter fun d => d.kind == .unknownGroup := by
          rw [hreports]
          simp only [List.map_flatMap, List.map_map, Function.comp_def, List.map_id']
  · intro x hx
    obtain ⟨r, hr, hx⟩ := List.mem_flatMap.1 hx
    unfold Offer.ofReport at hx
    split at hx
    · cases hx
    · next e he =>
      obtain ⟨d, hd, rfl⟩ := List.mem_map.1 hx
      obtain ⟨hd, hkind⟩ := List.mem_filter.1 hd
      have hkind : d.kind = .unknownGroup := by simpa using hkind
      obtain ⟨decl, e', hget, hsymbol, hraised⟩ := exists_symbol_of_mem_reports hr hd hkind
      rw [Output.symbolOf, hget, Option.bind_some, hsymbol] at he
      obtain rfl := Option.some.inj he
      exact ⟨decl, e', hget, hsymbol, Diagnostic.offered_fixes hraised hkind⟩

end Compilation

/-! ### The two listings -/

/-- Apart from its log, the command that lists fixes prints the listing and does nothing else. -/
theorem FileTree.runCommandLine_fixes {t : FileTree} {args : List String} {verbose : Bool}
    {input : String} {c : Compilation}
    (hargs : Invocation.ofArguments args = some ⟨verbose, .fixes input⟩)
    (hload : Command.load t.read Compilation.ofJsonText input = .ok c) :
    (t.runCommandLine args).Agrees
      { tree := t
        stdout := (Command.fixListing c (c.output {})).foldl
          (fun text line => text ++ line ++ "\n") "" } := by
  have hdefault : Options.fault? {} = none := by decide
  have hrun : c.run {} (fun _ => false) = .ok (c.output {}) :=
    Compilation.run_eq_ok hdefault fun _ _ => rfl
  obtain ⟨lines, hlog⟩ := Command.exists_logEffects verbose (c.log {} fun _ => false)
  have hprinted := Outcome.agrees_printErr (o := { tree := t }) (.ok ()) lines
    ((Command.fixListing c (c.output {})).map .printOut)
  rw [Outcome.performAll_printOut] at hprinted
  simp only [runCommandLine, hargs, Invocation.plan, Command.planFixes, hload,
    Command.withPass_of_run hrun, hlog, Plan.before, Plan.carryOut]
  exact hprinted

/-- **Fixes are offered against the type that has raised the diagnostic, and both listings agree.**
For each unknown group of a pass there is one offer, in order; it is made against the type that the
report of the diagnostic is about, and gives two edits or none.  The pairs that a pass gives are
those of the offers, and the command `fixes` prints the offers and nothing else. -/
theorem Output.exists_offers {c : Compilation} {o : Options} {cancelled : Nat → Bool}
    {out : Output} (hrun : c.run o cancelled = .ok out) :
    ∃ offers, out.Offers c offers ∧
      ∀ (t : FileTree) (args : List String) (verbose : Bool) (input : String),
        Invocation.ofArguments args = some ⟨verbose, .fixes input⟩ →
        Command.load t.read Compilation.ofJsonText input = .ok c →
        (t.runCommandLine args).Agrees
          { tree := t
            stdout := (offers.flatMap Offer.lines).foldl
              (fun text line => text ++ line ++ "\n") "" } := by
  obtain ⟨ho, -, rfl⟩ := Compilation.run_eq_ok_iff.1 hrun
  -- the command runs under the default configuration
  have hdefault : Options.fault? {} = none := by decide
  have hlisting := Command.fixListing_congr c (c.sameButTexts_output hdefault ho)
  refine ⟨_, c.offers_output o, fun t args verbose input hargs hload => ?_⟩
  rw [← Command.fixListing_eq, ← hlisting]
  exact FileTree.runCommandLine_fixes hargs hload

/-- The diagnostics of `S` and `T` look alike, and `F` declares the group that they do not know;
`T` mentions another group in a declaration that is no identifier. -/
theorem Output.exists_offers_alike :
    let member : Member := { name := "A", groups := [{ args := [.text "G"] }] }
    let c : Compilation :=
      { naming := some { args := [.text "PASCAL", .text "PASCAL"] }
        enums :=
          [.resolved { name := "F", fullName := "F", accessibility := .public
                       groups := [{ args := [.text "G"] }], members := [member] },
           .unresolved "U" none,
           .resolved { name := "S", fullName := "S", accessibility := .public
                       members := [{ name := "B" }, member] },
           .resolved { name := "T", fullName := "T", accessibility := .public
                       groups := [{ args := [.text "a b"] }]
                       members :=
                         [member, { name := "B", groups := [{ args := [.text "a b"] }] }] }] }
    let t : FileTree := { files := [(["c.json"], some c.toJsonText)] }
    ∃ out, c.run {} (fun _ => false) = .ok out ∧
      ∃ offers, out.Offers c offers ∧
        (offers.map fun x => (x.report.name, x.report.index)) = [("S", 2), ("T", 3), ("T", 3)] ∧
        (out.fixes c).map Prod.snd =
          [.addGroup "G", .removeMembership "A" 0, .addGroup "G", .removeMembership "A" 0] ∧
        (t.runCommandLine ["fixes", "-i", "c.json"]).exitCode = 0 ∧
        (t.runCommandLine ["fixes", "-i", "c.json"]).stdout =
          (offers.flatMap Offer.lines).foldl (fun text line => text ++ line ++ "\n") "" := by
  intro member c t
  have ho : Options.fault? {} = none := by decide
  have hrun : c.run {} (fun _ => false) = .ok (c.output {}) :=
    Compilation.run_eq_ok ho fun _ _ => rfl
  have hargs : Invocation.ofArguments ["fixes", "-i", "c.json"] =
      some ⟨false, .fixes "c.json"⟩ := by decide +kernel
  have hload : Command.load t.read Compilation.ofJsonText "c.json" = .ok c :=
    FileTree.load_toJsonText rfl
  obtain ⟨offers, hoffers, hprinted⟩ := exists_offers hrun
  have hagrees := hprinted t ["fixes", "-i", "c.json"] false "c.json" hargs hload
  refine ⟨c.output {}, hrun, offers, hoffers, ?_, by decide +kernel, hagrees.exitCode,
    hagrees.stdout⟩
  have hnames := congrArg (List.map fun p => (p.1.name, p.1.index)) hoffers.reports
  rw [List.map_map] at hnames
  exact hnames.trans (by decide +kernel)

end EnumAccessors
