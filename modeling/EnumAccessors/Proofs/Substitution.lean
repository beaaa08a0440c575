import EnumAccessors.Proofs.Messages

/-!
# Messages with more arguments than slots

A diagnostic takes any number of arguments, whatever its kind.  The slots of a template can be
filled all at once (`Diagnostic.substitute`), but a message fills them one after the other and
looks again at what it has filled in.

* `Diagnostic.substitute_around`: in a template that has one slot, filling all at once puts the
  first argument there as it is.
* `Diagnostic.fillFrom_around`: filling one after the other keeps what stands around an argument and
  fills the slots of the later arguments in it.
* `Diagnostic.message_foldl_withArg`: so a message is its template with all slots filled at once by
  arguments of which the first has been filled by those after it.  It is filled by the arguments
  as they are exactly if these fill nothing in the first one.
-/

namespace EnumAccessors

/-! ### Replacing in front of a text that stays -/

namespace Text

variable {c : Char} {after : List Char}

/-- A text that ends with a character cannot reach into one without that character. -/
theorem prefix_append_iff_of_not_mem (hafter : c ∉ after) (front cs : List Char) :
    front ++ [c] <+: cs ++ after ↔ front ++ [c] <+: cs := by
  constructor
  · rintro ⟨rest, h⟩
    rcases List.append_eq_append_iff.1 h with ⟨tail, hcs, -⟩ | ⟨ahead, hold, hrest⟩
    · exact ⟨tail, hcs.symm⟩
    · -- what reaches over would have the character at its end
      rcases List.eq_nil_or_concat' ahead with rfl | ⟨ahead, last, rfl⟩
      · rw [List.append_nil] at hold
        rw [hold]
      · rw [← List.append_assoc] at hold
        obtain ⟨-, hlast⟩ := List.append_inj' hold rfl
        obtain rfl : c = last := List.singleton_inj.1 hlast
        exact absurd (hrest ▸ by simp) hafter
  · exact fun h => h.trans (List.prefix_append cs after)

theorem replaceFrom_append_right (hafter : c ∉ after) (front new : List Char) {skip : Nat}
    {cs : List Char} (hskip : skip ≤ cs.length) :
    replaceFrom (front ++ [c]) new skip (cs ++ after) =
      replaceFrom (front ++ [c]) new skip cs ++ after := by
  induction cs generalizing skip with
  | nil =>
    obtain rfl : skip = 0 := Nat.le_zero.1 hskip
    have hnone : ¬ front ++ [c] <:+: after := fun h => hafter (h.subset (by simp))
    exact replace_eq_self hnone new
  | cons x rest ih =>
    cases skip with
    | succ skip => exact ih (Nat.le_of_succ_le_succ hskip)
    | zero =>
      have hstart := prefix_append_iff_of_not_mem hafter front (x :: rest)
      rw [List.cons_append] at hstart
      simp only [List.cons_append, replaceFrom, List.isPrefixOf_iff_prefix, hstart]
      split
      · next hpre =>
        have hlength := hpre.length_le
        simp only [List.length_append, List.length_cons, List.length_nil] at hlength
        rw [ih (by simpa using hlength), List.append_assoc]
      · rw [ih (Nat.zero_le _), List.cons_append]

/-- Up to where the last text can end, replacing goes on as if nothing followed. -/
theorem replace_append_right (hafter : c ∉ after) (front new cs : List Char) :
    replace (front ++ [c]) new (cs ++ after) = replace (front ++ [c]) new cs ++ after :=
  replaceFrom_append_right hafter front new (Nat.zero_le _)

end Text

namespace Diagnostic

/-! ### Filling all slots at once -/

/-- The argument whose slot a text starts with, and its place. -/
def slotAt? (args : List String) (cs : List Char) : Option (String × Nat) :=
  args.zipIdx.find? fun x => (slot x.2).isPrefixOf cs

/-- A text with its slots filled at once, after the first `skip` characters, which belong to a slot
that has been filled. -/
def substituteFrom (args : List String) : Nat → List Char → List Char
  | _, [] => []
  | skip + 1, _ :: rest => substituteFrom args skip rest
  | 0, c :: rest =>
    match slotAt? args (c :: rest) with
    | some (arg, index) => arg.toList ++ substituteFrom args ((slot index).length - 1) rest
    | none => c :: substituteFrom args 0 rest

/-- A text with each slot for one of the arguments filled by that argument as it is, slots in it
included.  Everything else is kept. -/
def substitute (args : List String) (cs : List Char) : List Char := substituteFrom args 0 cs

variable {args rest : List String} {before after cs : List Char} {c : Char} {first : String}

theorem substituteFrom_eq (args : List String) (skip : Nat) (cs : List Char) :
    substituteFrom args skip cs = substitute args (cs.drop skip) := by
  induction cs generalizing skip with
  | nil => cases skip <;> rfl
  | cons c rest ih =>
    cases skip with
    | zero => rfl
    | succ skip => exact ih skip

theorem slotAt?_cons_of_ne (h : c ≠ '\x7b') (args : List String) (cs : List Char) :
    slotAt? args (c :: cs) = none := by
  rw [slotAt?, List.find?_eq_none]
  rintro ⟨arg, index⟩ -
  simp [slot, h.symm]

theorem substitute_append_left (hbefore : '\x7b' ∉ before) (args : List String)
    (cs : List Char) : substitute args (before ++ cs) = before ++ substitute args cs := by
  induction before with
  | nil => rfl
  | cons b before ih =>
    rw [List.mem_cons, not_or] at hbefore
    rw [List.cons_append, substitute, substituteFrom, slotAt?_cons_of_ne (Ne.symm hbefore.1)]
    exact congrArg (b :: ·) (ih hbefore.2)

theorem substitute_eq_self (h : '\x7b' ∉ cs) (args : List String) : substitute args cs = cs := by
  have hnil : substitute args [] = [] := rfl
  have hall := substitute_append_left h args []
  rwa [hnil, List.append_nil] at hall

/-- A slot that is filled is filled by its argument as it is. -/
theorem substitute_slot_append (first : String) (rest : List String) (cs : List Char) :
    substitute (first :: rest) (slot 0 ++ cs) = first.toList ++ substitute (first :: rest) cs := by
  have hslot : slot 0 = ['\x7b', '0', '\x7d'] := by decide
  have hfound : slotAt? (first :: rest) ('\x7b' :: '0' :: '\x7d' :: cs) = some (first, 0) := by
    simp [slotAt?, List.zipIdx_cons, hslot]
  rw [hslot, List.cons_append, List.cons_append, List.cons_append, List.nil_append, substitute,
    substituteFrom, hfound]
  simp only [hslot, substituteFrom_eq]
  rfl

/-- In a template with one slot, the first argument stands in its place. -/
theorem substitute_around (hbefore : '\x7b' ∉ before) (hafter : '\x7b' ∉ after) (first : String)
    (rest : List String) :
    substitute (first :: rest) (before ++ slot 0 ++ after) = before ++ first.toList ++ after := by
  rw [List.append_assoc, substitute_append_left hbefore, substitute_slot_append,
    substitute_eq_self hafter, List.append_assoc]

/-- Where there is no argument there is no slot for one. -/
theorem substitute_nil (cs : List Char) : substitute [] cs = cs := by
  induction cs with
  | nil => rfl
  | cons c cs ih => exact congrArg (c :: ·) ih

/-! ### Filling one slot after the other -/

/-- Where there is no slot for any of the arguments, nothing is filled. -/
theorem fillFrom_eq_self {index : Nat}
    (h : ∀ i, index ≤ i → i < index + args.length → i ∉ slotsIn cs) :
    fillFrom index cs args = cs := by
  induction args generalizing index with
  | nil => rfl
  | cons arg args ih =>
    rw [List.length_cons] at h
    have hfirst : Text.replace (slot index) arg.toList cs = cs :=
      Text.replace_eq_self (h index (Nat.le_refl _) (by omega)) _
    rw [fillFrom, hfirst, ih fun i hi hlt => h i (by omega) (by omega)]

/-- What stands around a text is kept if no slot starts in front of it or ends behind it. -/
theorem fillFrom_around (hbefore : '\x7b' ∉ before) (hafter : '\x7d' ∉ after) (index : Nat)
    (cs : List Char) (args : List String) :
    fillFrom index (before ++ cs ++ after) args = before ++ fillFrom index cs args ++ after := by
  induction args generalizing index cs with
  | nil => rfl
  | cons arg args ih =>
    have hbehind := Text.replace_append_right hafter ('\x7b' :: (toString index).toList)
      arg.toList cs
    rw [fillFrom, fillFrom, List.append_assoc, ← ih]
    refine congrArg (fillFrom (index + 1) · args) ?_
    rw [slot, List.cons_append, Text.replace_append_left hbefore, ← List.cons_append, hbehind,
      List.append_assoc]

/-- Arguments of which the first has been filled by those after it. -/
def fillFirst : List String → List String
  | [] => []
  | first :: rest => String.ofList (fillFrom 1 first.toList rest) :: rest

/-- If there are no slots of the later arguments in the first one, they fill nothing in it. -/
theorem fillFirst_eq_self
    (h : ∀ first ∈ args.head?, ∀ index, 0 < index → index < args.length →
      index ∉ slotsIn first.toList) : fillFirst args = args := by
  cases args with
  | nil => rfl
  | cons first rest =>
    have hfirst : fillFrom 1 first.toList rest = first.toList :=
      fillFrom_eq_self fun index hpos hlt => h first rfl index hpos (by simp; omega)
    rw [fillFirst, hfirst, String.ofList_toList]

/-! ### Messages -/

theorem Kind.count_closing_template (k : Kind) : k.template.toList.count '\x7d' = k.arity := by
  cases k <;> rw [template, String.toList_ofList] <;> decide

/-- The template of a kind that takes an argument has no other bracket than those of its slot. -/
theorem Kind.exists_template_around {k : Kind} (harity : k.arity = 1) :
    ∃ before after, '\x7b' ∉ before ∧ '\x7b' ∉ after ∧ '\x7d' ∉ after ∧
      k.template.toList = before ++ slot 0 ++ after := by
  obtain ⟨before, after, hbefore, hafter, htemplate⟩ := exists_template harity
  have hcount := k.count_closing_template
  have hclose : (slot 0).count '\x7d' = 1 := by decide
  rw [harity, htemplate, List.count_append, List.count_append, hclose] at hcount
  exact ⟨before, after, hbefore, hafter, List.count_eq_zero.1 (by omega), htemplate⟩

/-- The template of the kind with all its slots filled at once. -/
def filledAtOnce (d : Diagnostic) : String :=
  String.ofList (substitute d.args d.kind.template.toList)

theorem foldl_withArg (d : Diagnostic) (args : List String) :
    args.foldl withArg d = { d with args := d.args ++ args } := by
  induction args generalizing d with
  | nil => rw [List.foldl_nil, List.append_nil]
  | cons arg args ih => rw [List.foldl_cons, ih, withArg, List.append_assoc, List.singleton_append]

theorem message_of_arity_eq_zero {d : Diagnostic} (harity : d.kind.arity = 0) :
    d.message = d.kind.template := by
  have hnone := slotsIn_eq_empty (List.count_eq_zero.1 (d.kind.count_template.1.trans harity))
  rw [message, fillFrom_eq_self fun index _ _ => by simp [hnone], String.ofList_toList]

theorem filledAtOnce_of_arity_eq_zero {d : Diagnostic} (harity : d.kind.arity = 0) :
    d.filledAtOnce = d.kind.template := by
  have hopen := List.count_eq_zero.1 (d.kind.count_template.1.trans harity)
  rw [filledAtOnce, substitute_eq_self hopen, String.ofList_toList]

/-- A message is filled at once by arguments of which the first has been filled by the others. -/
theorem message_eq_filledAtOnce (d : Diagnostic) :
    d.message = filledAtOnce { d with args := fillFirst d.args } := by
  rcases d.kind.arity_eq_zero_or_one with harity | harity
  · have hfilled : filledAtOnce { d with args := fillFirst d.args } = d.kind.template :=
      filledAtOnce_of_arity_eq_zero harity
    rw [message_of_arity_eq_zero harity, hfilled]
  · obtain ⟨before, after, hbefore, hopen, hclose, htemplate⟩ :=
      Kind.exists_template_around harity
    simp only [message, filledAtOnce, htemplate]
    refine congrArg String.ofList ?_
    cases d.args with
    | nil => exact (substitute_nil _).symm
    | cons first rest =>
      have hfirst : Text.replace (slot 0) first.toList (before ++ slot 0 ++ after) =
          before ++ first.toList ++ after := Text.replace_around hbefore hopen _ _
      rw [fillFirst, substitute_around hbefore hopen, fillFrom, hfirst,
        fillFrom_around hbefore hclose, String.toList_ofList]

/-- Which text stands in the slot of a template can be read off what is filled at once. -/
theorem filledAtOnce_inj {d : Diagnostic} (harity : d.kind.arity = 1) {first other : String}
    {rest : List String} :
    filledAtOnce { d with args := first :: rest } = filledAtOnce { d with args := other :: rest } ↔
      first = other := by
  obtain ⟨before, after, hbefore, hafter, -, htemplate⟩ := Kind.exists_template_around harity
  simp only [filledAtOnce, htemplate, substitute_around hbefore hafter, String.ofList_inj,
    List.append_cancel_right_eq, List.append_cancel_left_eq, String.toList_inj]

/-- **Messages and slots that come with arguments.**  A diagnostic may be given any arguments.  Its
message is the template with all slots filled at once, but the first argument is filled by those
after it before.  So it is filled by the arguments as they are exactly if the kind takes none or the
later ones fill nothing in the first, as when there are no slots of theirs in it. -/
theorem message_foldl_withArg (k : Kind) (location : Option Location) (args : List String) :
    let d := args.foldl withArg ⟨k, location, []⟩
    d.message = filledAtOnce { d with args := fillFirst args } ∧
      (d.message = d.filledAtOnce ↔ k.arity = 0 ∨ fillFirst args = args) ∧
      ((∀ first ∈ args.head?, ∀ index, 0 < index → index < args.length →
          index ∉ slotsIn first.toList) →
        d.message = d.filledAtOnce) := by
  intro d
  have hd : d = ⟨k, location, args⟩ := foldl_withArg ⟨k, location, []⟩ args
  clear_value d
  subst hd
  have hmessage := message_eq_filledAtOnce ⟨k, location, args⟩
  have hiff : message ⟨k, location, args⟩ = filledAtOnce ⟨k, location, args⟩ ↔
      k.arity = 0 ∨ fillFirst args = args := by
    rcases k.arity_eq_zero_or_one with harity | harity
    · simp only [harity, true_or, iff_true]
      rw [message_of_arity_eq_zero harity, filledAtOnce_of_arity_eq_zero harity]
    · rw [hmessage]
      cases args with
      | nil => simp [fillFirst]
      | cons first rest =>
        rw [fillFirst, filledAtOnce_inj harity]
        simp [harity]
  exact ⟨hmessage, hiff, fun h => hiff.2 (.inr (fillFirst_eq_self h))⟩

/-- Two arguments where there is one slot: the first stands in it, slots of other numbers
included. -/
theorem message_foldl_withArg_other :
    let d := ["\x7b2\x7d", "x"].foldl withArg ⟨.prefixInvalid, none, []⟩
    2 ∈ slotsIn "\x7b2\x7d".toList ∧ d.message = d.filledAtOnce ∧
      d.message = "Accessor prefix '\x7b2\x7d' is not a valid identifier" := by
  have hslots : slotsIn "\x7b2\x7d".toList = {2} :=
    slotsIn_around List.not_mem_nil List.not_mem_nil 2
  refine ⟨hslots ▸ rfl, ?_, by decide +kernel⟩
  refine (message_foldl_withArg .prefixInvalid none ["\x7b2\x7d", "x"]).2.2 ?_
  rintro first ⟨⟩ index hpos hlt hslot
  rw [hslots] at hslot
  obtain rfl : index = 2 := hslot
  exact absurd hlt (by decide)

/-- The second argument gets into the message through a slot that the first one brings along,
though the template has none for it. -/
theorem not_message_eq_filledAtOnce :
    let d := ["\x7b1\x7d", "x"].foldl withArg ⟨.prefixInvalid, none, []⟩
    d.message = "Accessor prefix 'x' is not a valid identifier" ∧
      d.filledAtOnce = "Accessor prefix '\x7b1\x7d' is not a valid identifier" ∧
      d.message ≠ d.filledAtOnce := by
  decide +kernel

end Diagnostic

end EnumAccessors
