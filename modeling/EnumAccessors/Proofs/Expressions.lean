import EnumAccessors.Proofs.AccessorNames
import EnumAccessors.Proofs.Sources
import EnumAccessors.Proofs.Texts

/-!
# What generated expressions test

The expression of an accessor is text.  Here it is read back, from the text alone, as a list of
tests of a value against members (`Test.ofText?`), and given a meaning: it holds in a world if one
of its tests does (`World.Holds`).

* `Accessor.ofText?_expression`: an expression reads as one test for each member of its accessor,
  in their order, whichever of the three spellings it has.
* `World.holds_expression_iff`: an expression holds if a test against one of the members does.
* `EnumType.expressions_test_members`: accessors of analyzed types share no expressions, and groups
  hold when one of their members does.
-/

namespace EnumAccessors

/-! ### Dotted identifiers -/

namespace Identifier

/-- Whether a text is made of identifiers with dots between them. -/
def isDotted (text : String) : Bool := (Text.pieces '.' text).all isValid

/-- What may not stand in an identifier stands in no dotted one unless it is a dot. -/
theorem not_mem_of_isDotted {text : String} {c : Char} (h : isDotted text = true) (hdot : c ≠ '.')
    (hc : isPart c = false) : c ∉ text.toList := by
  rw [← Text.intercalate_pieces '.' text]
  exact Text.not_mem_intercalate (by simpa using hdot) fun s hs =>
    not_mem_of_isValid (List.all_eq_true.1 h s hs) hc

end Identifier

/-! ### Tests -/

/-- How a value is compared with a constant. -/
inductive Comparison where
  | hasFlag
  | equals
  deriving DecidableEq

/-- The test of a value against a member of a type. -/
structure Test where
  receiver : String
  comparison : Comparison
  /-- The type of the member. -/
  fullName : String
  member : String
  deriving DecidableEq

namespace Test

/-- What is joined by an operator that is a word of its own. -/
def operands? (operator : String) : List String → Option (List String)
  | [] => none
  | [word] => some [word]
  | word :: next :: rest =>
    if next = operator then (operands? operator rest).map fun words => word :: words else none

/-- The test against the member that a text refers to. -/
def ofReference? (receiver : String) (comparison : Comparison) (text : String) : Option Test :=
  (Text.splitLast? '.' text).map fun (fullName, member) =>
    ⟨receiver, comparison, fullName, member⟩

/-- The test that a call of `HasFlag` makes. -/
def ofCall? (text : String) : Option Test :=
  (Text.between? "" ")" text).bind fun call =>
    (Text.splitLast? '(' call).bind fun (function, reference) =>
      (Text.between? "" ".HasFlag" function).bind fun receiver =>
        ofReference? receiver .hasFlag reference

/-- The tests of an equation, of a pattern, or of calls. -/
def ofWords? : List String → Option (List Test)
  | [receiver, "==", reference] => (ofReference? receiver .equals reference).map fun x => [x]
  | receiver :: "is" :: pattern =>
    (operands? "or" pattern).bind fun texts => texts.mapM (ofReference? receiver .equals)
  | words => (operands? "||" words).bind fun texts => texts.mapM ofCall?

/-- The tests that an expression makes, one of which has to succeed. -/
def ofText? (text : String) : Option (List Test) := ofWords? (Text.words text)

/-! ### Reading what was written -/

theorem operands?_words {operator : String} {texts : List String} (hne : texts ≠ [])
    (hoperator : ' ' ∉ operator.toList) (h : ∀ s ∈ texts, ' ' ∉ s.toList) :
    operands? operator (Text.words (String.intercalate (" " ++ operator ++ " ") texts)) =
      some texts := by
  induction texts with
  | nil => contradiction
  | cons s rest ih =>
    rw [List.forall_mem_cons] at h
    cases rest with
    | nil => rw [String.intercalate_singleton, Text.words_eq_singleton h.1, operands?]
    | cons s' rest =>
      have hwords : Text.words (String.intercalate (" " ++ operator ++ " ") (s :: s' :: rest)) =
          s :: operator ::
            Text.words (String.intercalate (" " ++ operator ++ " ") (s' :: rest)) := by
        rw [← Text.words_append hoperator, ← Text.words_append h.1, String.intercalate_cons_cons]
        simp only [String.append_assoc]
      rw [hwords, operands?, if_pos rfl, ih (List.cons_ne_nil s' rest) h.2, Option.map_some]

/-- What is joined by `||` reads as calls. -/
theorem ofWords?_of_operands? {words texts : List String}
    (h : operands? "||" words = some texts) : ofWords? words = texts.mapM ofCall? := by
  unfold ofWords?
  split
  · simp [operands?] at h
  · simp [operands?] at h
  · rw [h, Option.bind_some]

theorem mapM_map_of_forall {α β γ : Type} {f : α → β} {g : β → Option γ} {k : α → γ}
    {as : List α} (h : ∀ a ∈ as, g (f a) = some (k a)) : (as.map f).mapM g = some (as.map k) := by
  induction as with
  | nil => rfl
  | cons a as ih =>
    rw [List.forall_mem_cons] at h
    rw [List.map_cons, List.mapM_cons, h.1, ih h.2]
    rfl

end Test

/-- The parts of references to members are dotted. -/
structure Target.IsDotted (t : Target) : Prop where
  fullName : Identifier.isDotted t.fullName = true
  receiver : Identifier.isDotted t.receiver = true

/-- The test against a member that expressions about a target make. -/
def Target.test (t : Target) (m : String) : Test where
  receiver := t.receiver
  comparison := if t.isFlags then .hasFlag else .equals
  fullName := t.fullName
  member := m

namespace Test

variable {t : Target} {m : String}

theorem ofReference?_member (hm : Identifier.isValid m = true) (receiver : String)
    (comparison : Comparison) :
    ofReference? receiver comparison (t.member m) =
      some ⟨receiver, comparison, t.fullName, m⟩ := by
  have hdot : '.' ∉ m.toList := Identifier.not_mem_of_isValid hm (by decide)
  have hsplit : Text.splitLast? '.' (t.member m) = some (t.fullName, m) :=
    Text.splitLast?_append hdot t.fullName
  rw [ofReference?, hsplit, Option.map_some]

/-- References have no spaces and no parentheses. -/
theorem not_mem_member {c : Char} (ht : t.IsDotted) (hm : Identifier.isValid m = true)
    (hdot : c ≠ '.') (hc : Identifier.isPart c = false) : c ∉ (t.member m).toList := by
  have hfullName : c ∉ t.fullName.toList := Identifier.not_mem_of_isDotted ht.fullName hdot hc
  have hm' : c ∉ m.toList := Identifier.not_mem_of_isValid hm hc
  simp [Target.member, hfullName, hm', hdot]

theorem ofCall?_bitTest (ht : t.IsDotted) (hm : Identifier.isValid m = true) :
    ofCall? (Accessor.bitTest t m) = some ⟨t.receiver, .hasFlag, t.fullName, m⟩ := by
  have hparenthesis : '(' ∉ (t.member m).toList := not_mem_member ht hm (by decide) (by decide)
  have hcall : Accessor.bitTest t m =
      "" ++ (t.receiver ++ ".HasFlag" ++ String.singleton '(' ++ t.member m) ++ ")" := by
    simp [Accessor.bitTest, ← String.toList_inj]
  have hfunction : Text.between? "" ".HasFlag" (t.receiver ++ ".HasFlag") = some t.receiver :=
    Text.between?_eq_some_iff.2 (by rw [String.empty_append])
  rw [ofCall?, hcall, Text.between?_append, Option.bind_some, Text.splitLast?_append hparenthesis]
  simp only [Option.bind_some, hfunction, ofReference?_member hm]

end Test

namespace Accessor

variable {t : Target} {members : List String}

section Spellings

variable (ht : t.IsDotted) (hmembers : ∀ m ∈ members, Identifier.isValid m = true)
include ht hmembers

theorem ofText?_calls (hne : members ≠ []) :
    Test.ofText? (String.intercalate " || " (members.map (bitTest t))) =
      some (members.map fun m => ⟨t.receiver, .hasFlag, t.fullName, m⟩) := by
  have hspaces : ∀ s ∈ members.map (bitTest t), ' ' ∉ s.toList := by
    rw [List.forall_mem_map]
    intro m hm
    have hreceiver : ' ' ∉ t.receiver.toList :=
      Identifier.not_mem_of_isDotted ht.receiver (by decide) (by decide)
    have hmember : ' ' ∉ (t.member m).toList :=
      Test.not_mem_member ht (hmembers m hm) (by decide) (by decide)
    simp [bitTest, hreceiver, hmember]
  have hoperands : Test.operands? "||"
      (Text.words (String.intercalate " || " (members.map (bitTest t)))) =
        some (members.map (bitTest t)) :=
    Test.operands?_words (by simpa using hne) (by simp) hspaces
  rw [Test.ofText?, Test.ofWords?_of_operands? hoperands]
  exact Test.mapM_map_of_forall fun m hm => Test.ofCall?_bitTest ht (hmembers m hm)

theorem ofText?_pattern (hne : members ≠ []) :
    Test.ofText? (t.receiver ++ " is " ++ String.intercalate " or " (members.map t.member)) =
      some (members.map fun m => ⟨t.receiver, .equals, t.fullName, m⟩) := by
  have hreceiver : ' ' ∉ t.receiver.toList :=
    Identifier.not_mem_of_isDotted ht.receiver (by decide) (by decide)
  have hspaces : ∀ s ∈ members.map t.member, ' ' ∉ s.toList := by
    rw [List.forall_mem_map]
    exact fun m hm => Test.not_mem_member ht (hmembers m hm) (by decide) (by decide)
  have hoperands : Test.operands? "or"
      (Text.words (String.intercalate " or " (members.map t.member))) =
        some (members.map t.member) :=
    Test.operands?_words (by simpa using hne) (by simp) hspaces
  have hwords : Text.words (t.receiver ++ " is " ++
      String.intercalate " or " (members.map t.member)) = t.receiver :: "is" ::
        Text.words (String.intercalate " or " (members.map t.member)) := by
    rw [← Text.words_append (s := "is") (by simp), ← Text.words_append hreceiver]
    simp only [String.append_assoc]
    rfl
  have hpattern : Test.ofWords? (t.receiver :: "is" ::
      Text.words (String.intercalate " or " (members.map t.member))) =
        (members.map t.member).mapM (Test.ofReference? t.receiver .equals) := by
    simp [Test.ofWords?, hoperands]
  rw [Test.ofText?, hwords, hpattern]
  exact Test.mapM_map_of_forall fun m hm => Test.ofReference?_member (hmembers m hm) _ _

end Spellings

theorem ofText?_equation (ht : t.IsDotted) {m : String} (hm : Identifier.isValid m = true) :
    Test.ofText? (t.receiver ++ " == " ++ t.member m) =
      some [⟨t.receiver, .equals, t.fullName, m⟩] := by
  have hreceiver : ' ' ∉ t.receiver.toList :=
    Identifier.not_mem_of_isDotted ht.receiver (by decide) (by decide)
  have hmember : ' ' ∉ (t.member m).toList :=
    Test.not_mem_member ht hm (by decide) (by decide)
  have hwords : Text.words (t.receiver ++ " == " ++ t.member m) =
      [t.receiver, "==", t.member m] := by
    rw [← Text.words_eq_singleton hmember, ← Text.words_append (s := "==") (by simp),
      ← Text.words_append hreceiver]
    simp only [String.append_assoc]
    rfl
  simp [Test.ofText?, hwords, Test.ofWords?, Test.ofReference?_member hm]

/-- An expression reads as one test for each member of its accessor, in their order. -/
theorem ofText?_expression {a : Accessor} (ht : t.IsDotted) (hne : a.members ≠ [])
    (hmembers : ∀ m ∈ a.members, Identifier.isValid m = true) :
    Test.ofText? (a.expression t) = some (a.members.map t.test) := by
  unfold expression
  cases hflags : t.isFlags with
  | true =>
    have htest : t.test = fun m => ⟨t.receiver, .hasFlag, t.fullName, m⟩ := by
      funext m
      rw [Target.test, hflags, if_pos rfl]
    rw [if_pos rfl, htest]
    exact ofText?_calls ht hmembers hne
  | false =>
    have htest : t.test = fun m => ⟨t.receiver, .equals, t.fullName, m⟩ := by
      funext m
      rw [Target.test, hflags, if_neg Bool.false_ne_true]
    rw [if_neg Bool.false_ne_true, htest]
    split
    · next m _ hsingle =>
      rw [hsingle] at hmembers ⊢
      exact ofText?_equation ht (hmembers m (List.mem_singleton_self m))
    · exact ofText?_pattern ht hmembers hne

example : Test.ofText? "this.x.HasFlag(N.E.A) || this.x.HasFlag(N.E.B)" =
    some [⟨"this.x", .hasFlag, "N.E", "A"⟩, ⟨"this.x", .hasFlag, "N.E", "B"⟩] := by
  decide

end Accessor

/-! ### Meaning -/

/-- What the names in an expression stand for. -/
structure World (α : Type) where
  /-- The value of a receiver. -/
  value : String → α
  /-- The value of a member of a type. -/
  constant : String → String → α
  /-- Whether a value has the bits of another one. -/
  hasFlag : α → α → Prop

section Meaning

variable {α : Type} (w : World α)

/-- Whether a test succeeds. -/
def Test.Holds (x : Test) : Prop :=
  match x.comparison with
  | .hasFlag => w.hasFlag (w.value x.receiver) (w.constant x.fullName x.member)
  | .equals => w.value x.receiver = w.constant x.fullName x.member

/-- Whether an expression holds: it can be read, and one of its tests succeeds. -/
def World.Holds (text : String) : Prop :=
  ∃ tests, Test.ofText? text = some tests ∧ ∃ x ∈ tests, x.Holds w

theorem World.holds_expression_iff {t : Target} {a : Accessor} (ht : t.IsDotted)
    (hne : a.members ≠ []) (hmembers : ∀ m ∈ a.members, Identifier.isValid m = true) :
    w.Holds (a.expression t) ↔ ∃ m ∈ a.members, (t.test m).Holds w := by
  rw [Holds, Accessor.ofText?_expression ht hne hmembers]
  simp

end Meaning

/-! ### Accessors of analyzed types -/

namespace EnumType

variable {e : EnumType} {project : Option Naming} {d : Descriptor} {o : Options}

/-- What an accessor tests are included members, one at least. -/
theorem members_of_mem_readAccessors {a : Accessor} (ha : a ∈ e.readAccessors project) :
    a.members ≠ [] ∧ ∀ name ∈ a.members, ∃ m ∈ e.included, m.name = name := by
  rcases List.mem_append.1 ha with ha | ha
  · obtain ⟨m, hm, rfl⟩ := List.mem_map.1 ha
    refine ⟨List.cons_ne_nil m.name [], fun name hname => ⟨m, hm, ?_⟩⟩
    exact (List.mem_singleton.1 hname).symm
  · obtain ⟨g, hg, rfl⟩ := List.mem_map.1 ha
    refine ⟨of_decide_eq_true (List.mem_filter.1 hg).2, fun name hname => ?_⟩
    obtain ⟨m, hm, hmname⟩ := List.mem_map.1 hname
    exact ⟨m, (List.mem_filter.1 hm).1, hmname⟩

/-- Included members have accessors of their own. -/
theorem readFlag_mem_readAccessors {m : Member} (hm : m ∈ e.included) :
    e.readFlag (e.chosenNaming project) m ∈ e.readAccessors project :=
  List.mem_append.2 (.inl (List.mem_map_of_mem hm))

/-- The accessor of a flag tests the flag. -/
theorem members_of_subject_eq_flag {a : Accessor} (ha : a ∈ e.readAccessors project)
    (hflag : a.subject = .flag) : a.members = [a.label] := by
  rcases List.mem_append.1 ha with ha | ha
  · obtain ⟨m, -, rfl⟩ := List.mem_map.1 ha
    rfl
  · obtain ⟨g, -, rfl⟩ := List.mem_map.1 ha
    cases hflag

section Expressions

variable {t : Target} (ht : t.IsDotted)
  (hmembers : ∀ m ∈ e.members, Identifier.isValid m.name = true)
  {a b : Accessor} (ha : a ∈ e.readAccessors project)
include hmembers ha

theorem isValid_of_mem_members : ∀ name ∈ a.members, Identifier.isValid name = true := by
  intro name hname
  obtain ⟨m, hm, rfl⟩ := (members_of_mem_readAccessors ha).2 name hname
  exact hmembers m (List.mem_filter.1 hm).1

include ht

theorem ofText?_of_mem_readAccessors :
    Test.ofText? (a.expression t) = some (a.members.map t.test) :=
  Accessor.ofText?_expression ht (members_of_mem_readAccessors ha).1
    (isValid_of_mem_members hmembers ha)

/-- One expression has one list of members. -/
theorem members_eq_of_expression_eq (hb : b ∈ e.readAccessors project)
    (h : a.expression t = b.expression t) : a.members = b.members := by
  have hboth : some (a.members.map t.test) = some (b.members.map t.test) := by
    rw [← ofText?_of_mem_readAccessors ht hmembers ha,
      ← ofText?_of_mem_readAccessors ht hmembers hb, h]
  have hnames := congrArg (List.map Test.member) (Option.some.inj hboth)
  simpa [Function.comp_def, Target.test] using hnames

theorem holds_expression_iff {α : Type} (w : World α) :
    w.Holds (a.expression t) ↔ ∃ m ∈ a.members, (t.test m).Holds w :=
  w.holds_expression_iff ht (members_of_mem_readAccessors ha).1
    (isValid_of_mem_members hmembers ha)

/-- An expression holds if that of a flag among the members does. -/
theorem holds_expression_iff_flag {α : Type} (w : World α) :
    w.Holds (a.expression t) ↔ ∃ f ∈ e.readAccessors project, f.subject = .flag ∧
      f.label ∈ a.members ∧ w.Holds (f.expression t) := by
  rw [holds_expression_iff ht hmembers ha]
  constructor
  · rintro ⟨name, hname, htest⟩
    obtain ⟨m, hm, rfl⟩ := (members_of_mem_readAccessors ha).2 name hname
    have hflag : e.readFlag (e.chosenNaming project) m ∈ e.readAccessors project :=
      readFlag_mem_readAccessors hm
    refine ⟨_, hflag, rfl, hname, (holds_expression_iff ht hmembers hflag w).2 ?_⟩
    exact ⟨m.name, List.mem_singleton_self _, htest⟩
  · rintro ⟨f, hf, hflag, hlabel, hholds⟩
    obtain ⟨name, hname, htest⟩ := (holds_expression_iff ht hmembers hf w).1 hholds
    rw [members_of_subject_eq_flag hf hflag, List.mem_singleton] at hname
    exact ⟨name, hname ▸ hlabel, htest⟩

end Expressions

/-- **Expressions test the members of their accessors.**  Where the names of types, receivers and
members are in order, every accessor of an analyzed type has an expression that reads as one test
of the receiver for each of its members, in their order, so accessors with different members have
different expressions; and an expression, be it of a group, holds exactly if that of a flag among
the members does, whatever the names stand for. -/
theorem expressions_test_members (h : (e.analyze project).value = some d)
    (hfullName : Identifier.isDotted e.fullName = true)
    (hreceiver : Identifier.isDotted o.receiver = true)
    (hmembers : ∀ m ∈ e.members, Identifier.isValid m.name = true) :
    (∀ a ∈ d.accessors, Test.ofText? (a.expression (d.target o)) = some (a.members.map fun m =>
        ⟨o.receiver, if d.isFlags then .hasFlag else .equals, d.fullName, m⟩)) ∧
      (∀ a ∈ d.accessors, ∀ b ∈ d.accessors, a.members ≠ b.members →
        a.expression (d.target o) ≠ b.expression (d.target o)) ∧
      ∀ {α : Type} (w : World α), ∀ a ∈ d.accessors, (w.Holds (a.expression (d.target o)) ↔
        ∃ f ∈ d.accessors, f.subject = .flag ∧ f.label ∈ a.members ∧
          w.Holds (f.expression (d.target o))) := by
  obtain ⟨-, rfl⟩ := value_analyze_eq_some_iff.1 h
  have ht : ((e.describe project).value.target o).IsDotted :=
    ⟨by rwa [Descriptor.target, value_describe], hreceiver⟩
  rw [accessors_describe]
  refine ⟨fun a ha => ?_, fun a ha b hb hne hsame => ?_, fun w a ha => ?_⟩
  · exact ofText?_of_mem_readAccessors ht hmembers ha
  · exact hne (members_eq_of_expression_eq ht hmembers ha hb hsame)
  · exact holds_expression_iff_flag ht hmembers ha w

/-- A discrete type with a group of two members and one of one, which takes another spelling than
the flag in it. -/
theorem expressions_test_members_discrete :
    let e : EnumType :=
      { name := "E", fullName := "N.E", accessibility := .internal
        groups := [{ args := [.text "G"] }, { args := [.text "H"] }]
        members :=
          [{ name := "A", groups := [{ args := [.text "G"] }] },
           { name := "B", groups := [{ args := [.text "H"] }, { args := [.text "G"] }] }] }
    let o : Options := {}
    ∃ d, (e.analyze none).value = some d ∧ Identifier.isDotted e.fullName = true ∧
      Identifier.isDotted o.receiver = true ∧
      (∀ m ∈ e.members, Identifier.isValid m.name = true) ∧
      d.accessors.map (fun a => a.expression (d.target o)) =
        ["value == N.E.A", "value == N.E.B", "value is N.E.A or N.E.B", "value is N.E.B"] ∧
      (∀ a ∈ d.accessors, Test.ofText? (a.expression (d.target o)) = some (a.members.map fun m =>
        ⟨o.receiver, if d.isFlags then .hasFlag else .equals, d.fullName, m⟩)) ∧
      (∀ a ∈ d.accessors, ∀ b ∈ d.accessors, a.members ≠ b.members →
        a.expression (d.target o) ≠ b.expression (d.target o)) ∧
      ∀ {α : Type} (w : World α), ∀ a ∈ d.accessors, (w.Holds (a.expression (d.target o)) ↔
        ∃ f ∈ d.accessors, f.subject = .flag ∧ f.label ∈ a.members ∧
          w.Holds (f.expression (d.target o))) := by
  intro e o
  have h : (e.analyze none).value = some (e.describe none).value := by decide
  have hfullName : Identifier.isDotted e.fullName = true := by decide
  have hreceiver : Identifier.isDotted o.receiver = true := by decide
  have hmembers : ∀ m ∈ e.members, Identifier.isValid m.name = true := by decide
  exact ⟨_, h, hfullName, hreceiver, hmembers, by decide,
    expressions_test_members h hfullName hreceiver hmembers⟩

end EnumType

end EnumAccessors
