import EnumAccessors.Pass.Session
import EnumAccessors.Proofs.Cancellation
import Mathlib.Logic.Relation

/-!
# Sessions and families of tokens

What a session does is told from its history, the list of the steps so far.  A history says which
token was cloned from which (`Session.origins`); tokens are of one family if such clonings connect
them (`Session.SameFamily`), in whatever order they were made and cancelled.

* `Session.Records`: how the tokens and the compilation of a session record its history.  It holds
  at the start (`Session.records_nil`), and every step keeps it (`Session.Records.after`).
* `Session.Records.isCancelled_iff`: a token reads as cancelled exactly if a step has cancelled a
  token of its family, be it cloned before or after that.
* `Session.run_follows`: the same at every place of a run, where no cancellation is taken back, no
  other family is affected, and a pass is cancelled exactly if there is a declaration and the
  family of its token was cancelled.
-/

namespace EnumAccessors

/-- An element is appended behind all places of a list. -/
theorem getElem?_append_singleton {α : Type} (xs : List α) (x : α) (i : Nat) :
    (xs ++ [x])[i]? = if i = xs.length then some x else xs[i]? := by
  split
  · next h => rw [h, List.getElem?_concat_length]
  · next h =>
    rcases Nat.lt_or_gt_of_ne h with hlt | hgt
    · exact List.getElem?_append_left hlt
    · have hbehind : (xs ++ [x]).length ≤ i := by
        rw [List.length_append, List.length_singleton]
        exact hgt
      rw [List.getElem?_eq_none hbehind, List.getElem?_eq_none (Nat.le_of_lt hgt)]

/-! ### Tokens -/

namespace Tokens

variable {t : Tokens} {token : Nat}

theorem isCancelled_eq_true_iff :
    t.isCancelled token = true ↔
      ∃ family, t.families[token]? = some family ∧ t.isFamilyCancelled family = true := by
  unfold isCancelled
  cases h : t.families[token]? <;> simp

/-- How a token reads depends on its family and the flag of that. -/
theorem isCancelled_congr {t' : Tokens} (hfamily : t'.families[token]? = t.families[token]?)
    (hflag : ∀ family, t.families[token]? = some family →
      t'.isFamilyCancelled family = t.isFamilyCancelled family) :
    t'.isCancelled token = t.isCancelled token := by
  rw [isCancelled, isCancelled, hfamily]
  cases h : t.families[token]? with
  | none => rfl
  | some family => rw [Option.map_some, Option.map_some, hflag family h]

theorem families_clone {family : Nat} (h : t.families[token]? = some family) :
    (t.clone token).families = t.families ++ [family] := by
  simp [clone, h]

theorem clone_eq_self (h : t.families[token]? = none) : t.clone token = t := by
  simp [clone, h]

theorem cancel_eq_self (h : t.families[token]? = none) : t.cancel token = t := by
  simp [cancel, h]

theorem length_cancelled_cancel : (t.cancel token).cancelled.length = t.cancelled.length := by
  unfold cancel
  split
  · exact List.length_set
  · rfl

/-- Cancelling a token sets the flag of its family and no other. -/
theorem isFamilyCancelled_cancel {family : Nat} (h : t.families[token]? = some family)
    (hflag : family < t.cancelled.length) (other : Nat) :
    (t.cancel token).isFamilyCancelled other = true ↔
      t.isFamilyCancelled other = true ∨ family = other := by
  simp only [cancel, h, isFamilyCancelled, List.getElem?_set]
  by_cases hother : family = other
  · simp [hother, hother ▸ hflag]
  · simp [hother]

/-- A new token is not cancelled. -/
theorem isCancelled_fresh (t : Tokens) : t.fresh.isCancelled t.families.length = false := by
  have hfamily : t.fresh.families[t.families.length]? = some t.cancelled.length := by
    rw [families_fresh, List.getElem?_concat_length]
  have hflag : t.fresh.isFamilyCancelled t.cancelled.length = false := by
    rw [isFamilyCancelled_fresh]
    simp [isFamilyCancelled]
  rw [isCancelled, hfamily, Option.map_some, Option.getD_some, hflag]

/-- A new token leaves those that are there as they are. -/
theorem isCancelled_fresh_of_lt (h : token < t.families.length) :
    t.fresh.isCancelled token = t.isCancelled token := by
  refine isCancelled_congr ?_ fun family _ => t.isFamilyCancelled_fresh family
  rw [families_fresh, List.getElem?_append_left h]

/-- So does a clone of one of them. -/
theorem isCancelled_clone_of_lt (h : token < t.families.length) (other : Nat) :
    (t.clone other).isCancelled token = t.isCancelled token := by
  cases hother : t.families[other]? with
  | none => rw [clone_eq_self hother]
  | some family =>
    refine isCancelled_congr ?_ fun family _ => t.isFamilyCancelled_clone other family
    rw [families_clone hother, List.getElem?_append_left h]

end Tokens

namespace Session

/-! ### Histories -/

/-- Where the tokens come from after one more step. -/
def extendOrigins (origins : List (Option Nat)) : Step → List (Option Nat)
  | .newToken => origins ++ [none]
  | .cloneToken token => if token < origins.length then origins ++ [some token] else origins
  | .cancelToken _ | .setNaming _ | .declare _ | .runPass _ _ => origins

/-- Where each token of a history comes from: the one it was cloned from, or none if it was new. -/
def origins (history : List Step) : List (Option Nat) := history.foldl extendOrigins []

/-- One token was cloned from the other, or clonings connect them through others. -/
def SameFamily (history : List Step) : Nat → Nat → Prop :=
  Relation.EqvGen fun token clone => (origins history)[clone]? = some (some token)

/-- Some step of the history cancels the token, which was there by then. -/
def Cancels (history : List Step) (token : Nat) : Prop :=
  ∃ before after, history = before ++ .cancelToken token :: after ∧
    token < (origins before).length

/-- Some step of the history cancels a token of the family. -/
def IsFamilyCancelled (history : List Step) (token : Nat) : Prop :=
  ∃ other, Cancels history other ∧ SameFamily history other token

/-- The declarations of a history. -/
def declarations (history : List Step) : List Declaration :=
  history.filterMap fun
    | .declare d => some d
    | _ => none

/-- The session that a history leads to. -/
def reached (history : List Step) : Session := history.foldl after {}

section Histories

variable {history : List Step} {token : Nat}

theorem origins_append_singleton (history : List Step) (step : Step) :
    origins (history ++ [step]) = extendOrigins (origins history) step := by
  simp [origins]

/-- Later steps add tokens behind those that there are. -/
theorem exists_origins_append (history steps : List Step) :
    ∃ more, origins (history ++ steps) = origins history ++ more := by
  induction steps generalizing history with
  | nil => exact ⟨[], by simp⟩
  | cons step rest ih =>
    obtain ⟨more, hmore⟩ := ih (history ++ [step])
    have hone : ∃ new, extendOrigins (origins history) step = origins history ++ new := by
      cases step with
      | newToken => exact ⟨[none], rfl⟩
      | cloneToken token =>
        by_cases h : token < (origins history).length
        · exact ⟨[some token], by simp [extendOrigins, h]⟩
        · exact ⟨[], by simp [extendOrigins, h]⟩
      | cancelToken _ => exact ⟨[], by simp [extendOrigins]⟩
      | setNaming _ => exact ⟨[], by simp [extendOrigins]⟩
      | declare _ => exact ⟨[], by simp [extendOrigins]⟩
      | runPass _ _ => exact ⟨[], by simp [extendOrigins]⟩
    obtain ⟨new, hnew⟩ := hone
    refine ⟨new ++ more, ?_⟩
    rw [← List.append_assoc, ← hnew, ← origins_append_singleton, ← hmore, List.append_assoc,
      List.singleton_append]

theorem SameFamily.append {a b : Nat} (h : SameFamily history a b) (steps : List Step) :
    SameFamily (history ++ steps) a b := by
  obtain ⟨more, hmore⟩ := exists_origins_append history steps
  refine Relation.EqvGen.mono (fun token clone hclone => ?_) _ _ h
  obtain ⟨hlt, -⟩ := List.getElem?_eq_some_iff.1 hclone
  rw [hmore, List.getElem?_append_left hlt]
  exact hclone

theorem Cancels.lt (h : Cancels history token) : token < (origins history).length := by
  obtain ⟨before, after, rfl, hlt⟩ := h
  obtain ⟨more, hmore⟩ := exists_origins_append before (.cancelToken token :: after)
  rw [hmore, List.length_append]
  exact Nat.lt_add_right _ hlt

theorem cancels_append_singleton (history : List Step) (step : Step) (token : Nat) :
    Cancels (history ++ [step]) token ↔
      Cancels history token ∨ step = .cancelToken token ∧ token < (origins history).length := by
  constructor
  · rintro ⟨before, after, hsplit, hlt⟩
    rcases List.eq_nil_or_concat after with rfl | ⟨after, last, rfl⟩
    · obtain ⟨rfl, hstep⟩ := List.append_inj' hsplit rfl
      exact .inr ⟨List.head_eq_of_cons_eq hstep, hlt⟩
    · rw [List.concat_eq_append, ← List.cons_append, ← List.append_assoc] at hsplit
      obtain ⟨rfl, -⟩ := List.append_inj' hsplit rfl
      exact .inl ⟨before, after, rfl, hlt⟩
  · rintro (⟨before, after, rfl, hlt⟩ | ⟨rfl, hlt⟩)
    · exact ⟨before, after ++ [step], by simp, hlt⟩
    · exact ⟨history, [], rfl, hlt⟩

/-- A step that cancels no token that is there. -/
theorem cancels_append_of_forall {step : Step}
    (hcancel : ∀ token, step = .cancelToken token → ¬ token < (origins history).length)
    (token : Nat) : Cancels (history ++ [step]) token ↔ Cancels history token := by
  rw [cancels_append_singleton, or_iff_left]
  intro ⟨hstep, hlt⟩
  exact hcancel token hstep hlt

theorem IsFamilyCancelled.append (h : IsFamilyCancelled history token) (step : Step) :
    IsFamilyCancelled (history ++ [step]) token := by
  obtain ⟨other, hcancels, hfamily⟩ := h
  exact ⟨other, (cancels_append_singleton history step other).2 (.inl hcancels),
    hfamily.append [step]⟩

end Histories

/-! ### What tokens record -/

/-- The tokens are those that a history tells of. -/
structure Records (history : List Step) (t : Tokens) : Prop where
  length : t.families.length = (origins history).length
  /-- Each family has a flag, so a new one is different from all of them. -/
  flag : ∀ token family : Nat, t.families[token]? = some family → family < t.cancelled.length
  /-- A clone is in the family of the token it comes from. -/
  clone : ∀ token clone : Nat, (origins history)[clone]? = some (some token) →
    t.families[token]? = t.families[clone]?
  /-- Tokens in one family are connected by clonings. -/
  family : ∀ a b family : Nat, t.families[a]? = some family → t.families[b]? = some family →
    SameFamily history a b
  /-- The flag of a family is set by cancelling a token in it. -/
  cancelled : ∀ family, t.isFamilyCancelled family = true ↔
    ∃ token : Nat, Cancels history token ∧ t.families[token]? = some family

theorem records_nil : Records [] {} where
  length := rfl
  flag := fun token family h => by simp at h
  clone := fun token clone h => by simp [origins] at h
  family := fun a b family h => by simp at h
  cancelled := by simp [Tokens.isFamilyCancelled, Cancels]

namespace Records

variable {history : List Step} {s : Session} {t : Tokens} {step : Step} {a b token : Nat}

theorem families_eq_of_sameFamily (h : Records history t) (hab : SameFamily history a b) :
    t.families[a]? = t.families[b]? := by
  induction hab with
  | rel token clone hclone => exact h.clone token clone hclone
  | refl _ => rfl
  | symm _ _ _ ih => exact ih.symm
  | trans _ _ _ _ _ ih₁ ih₂ => exact ih₁.trans ih₂

theorem isCancelled_iff (h : Records history t) :
    t.isCancelled token = true ↔ IsFamilyCancelled history token := by
  rw [Tokens.isCancelled_eq_true_iff]
  constructor
  · rintro ⟨family, hfamily, hcancelled⟩
    obtain ⟨other, hcancels, hother⟩ := (h.cancelled family).1 hcancelled
    exact ⟨other, hcancels, h.family other token family hother hfamily⟩
  · rintro ⟨other, hcancels, hother⟩
    have hlt : other < t.families.length := h.length ▸ hcancels.lt
    have hfamily := List.getElem?_eq_getElem hlt
    have hsame := h.families_eq_of_sameFamily hother
    exact ⟨_, hsame ▸ hfamily, (h.cancelled _).2 ⟨other, hcancels, hfamily⟩⟩

/-! ### One step -/

/-- A step that neither makes a token nor cancels one. -/
theorem of_unchanged (h : Records history t)
    (horigins : extendOrigins (origins history) step = origins history)
    (hcancel : ∀ token, step = .cancelToken token → ¬ token < (origins history).length) :
    Records (history ++ [step]) t where
  length := by rw [origins_append_singleton, horigins, h.length]
  flag := h.flag
  clone := by
    rw [origins_append_singleton, horigins]
    exact h.clone
  family := fun a b family ha hb => (h.family a b family ha hb).append [step]
  cancelled := fun family => by
    simp only [cancels_append_of_forall hcancel]
    exact h.cancelled family

section NewToken

variable {t' : Tokens} {origin : Option Nat} {family : Nat}

/-- A new token is in the family of the token it comes from. -/
theorem clone_append (h : Records history t)
    (horigins : origins (history ++ [step]) = origins history ++ [origin])
    (hfamilies : t'.families = t.families ++ [family])
    (horigin : ∀ token, origin = some token → t.families[token]? = some family) {clone : Nat}
    (hclone : (origins (history ++ [step]))[clone]? = some (some token)) :
    t'.families[token]? = t'.families[clone]? := by
  have hold : ∀ token, token < t.families.length → t'.families[token]? = t.families[token]? := by
    intro token hlt
    rw [hfamilies, List.getElem?_append_left hlt]
  rw [horigins, getElem?_append_singleton] at hclone
  split at hclone
  · next hplace =>
    have hfrom := horigin token (Option.some.inj hclone)
    obtain ⟨hlt, -⟩ := List.getElem?_eq_some_iff.1 hfrom
    rw [hold token hlt, hfrom, hplace, ← h.length, hfamilies, List.getElem?_concat_length]
  · have hsame := h.clone token clone hclone
    obtain ⟨hlt, -⟩ := List.getElem?_eq_some_iff.1 hclone
    rw [← h.length] at hlt
    have hfrom := hsame.trans (List.getElem?_eq_getElem hlt)
    obtain ⟨hlt', -⟩ := List.getElem?_eq_some_iff.1 hfrom
    rw [hold token hlt', hold clone hlt, hsame]

/-- A new token is connected with all tokens of its family, if it is with those that were there. -/
theorem family_append (h : Records history t)
    (hfamilies : t'.families = t.families ++ [family])
    (hfamily : ∀ token, t.families[token]? = some family →
      SameFamily (history ++ [step]) token t.families.length) {other : Nat}
    (ha : t'.families[a]? = some other) (hb : t'.families[b]? = some other) :
    SameFamily (history ++ [step]) a b := by
  rw [hfamilies, getElem?_append_singleton] at ha hb
  split at ha
  · next hplacea =>
    obtain rfl := Option.some.inj ha
    rw [hplacea]
    split at hb
    · next hplaceb => exact hplaceb ▸ .refl _
    · exact (hfamily b hb).symm
  · split at hb
    · next hplaceb =>
      obtain rfl := Option.some.inj hb
      exact hplaceb ▸ hfamily a ha
    · exact (h.family a b other ha hb).append [step]

/-- A step that makes a token of the given origin and family. -/
theorem add_token (h : Records history t)
    (horigins : extendOrigins (origins history) step = origins history ++ [origin])
    (hcancel : ∀ token, step ≠ .cancelToken token)
    (hfamilies : t'.families = t.families ++ [family])
    (hflags : ∀ other, t'.isFamilyCancelled other = t.isFamilyCancelled other)
    (hflag : family < t'.cancelled.length) (hle : t.cancelled.length ≤ t'.cancelled.length)
    (horigin : ∀ token, origin = some token → t.families[token]? = some family)
    (hfamily : ∀ token, t.families[token]? = some family →
      SameFamily (history ++ [step]) token t.families.length) :
    Records (history ++ [step]) t' := by
  rw [← origins_append_singleton] at horigins
  refine ⟨?_, ?_, ?_, ?_, ?_⟩
  · rw [hfamilies, horigins, List.length_append, List.length_append, h.length]
    rfl
  · intro token other hother
    rw [hfamilies, getElem?_append_singleton] at hother
    split at hother
    · exact Option.some.inj hother ▸ hflag
    · exact Nat.lt_of_lt_of_le (h.flag token other hother) hle
  · exact fun token clone hclone => h.clone_append horigins hfamilies horigin hclone
  · exact fun a b other ha hb => h.family_append hfamilies hfamily ha hb
  · intro other
    rw [hflags, h.cancelled]
    refine exists_congr fun token => ?_
    rw [cancels_append_of_forall fun token hstep => absurd hstep (hcancel token)]
    refine and_congr_right fun htoken => ?_
    rw [hfamilies, List.getElem?_append_left (h.length ▸ htoken.lt)]

end NewToken

theorem newToken (h : Records history t) : Records (history ++ [.newToken]) t.fresh := by
  have hlength : t.fresh.cancelled.length = t.cancelled.length + 1 := List.length_append
  have horigins : extendOrigins (origins history) .newToken = origins history ++ [none] := rfl
  refine h.add_token horigins nofun t.families_fresh t.isFamilyCancelled_fresh
    (hlength ▸ Nat.lt_succ_self _) (hlength ▸ Nat.le_succ _) nofun ?_
  -- No token is in the family that has had no flag yet.
  intro token htoken
  exact absurd (h.flag token _ htoken) (Nat.lt_irrefl _)

theorem cloneToken (h : Records history t) (token : Nat) :
    Records (history ++ [.cloneToken token]) (t.clone token) := by
  cases hfamily : t.families[token]? with
  | none =>
    have hmissing : ¬ token < (origins history).length := by
      rw [← h.length]
      exact Nat.not_lt.2 (List.getElem?_eq_none_iff.1 hfamily)
    rw [Tokens.clone_eq_self hfamily]
    exact h.of_unchanged (if_neg hmissing) nofun
  | some family =>
    have hlt : token < (origins history).length := by
      obtain ⟨hlt, -⟩ := List.getElem?_eq_some_iff.1 hfamily
      exact h.length ▸ hlt
    have horigins : extendOrigins (origins history) (.cloneToken token) =
        origins history ++ [some token] := if_pos hlt
    have hflags : (t.clone token).cancelled = t.cancelled := t.cancelled_clone token
    refine h.add_token horigins nofun (Tokens.families_clone hfamily)
      (t.isFamilyCancelled_clone token) ?_ (Nat.le_of_eq (hflags ▸ rfl)) ?_ ?_
    · exact hflags ▸ h.flag token family hfamily
    · rintro _ ⟨⟩
      exact hfamily
    · intro other hother
      -- Through the token that is cloned, the clone is connected with all of the family.
      have hclone : SameFamily (history ++ [.cloneToken token]) token t.families.length := by
        refine .rel _ _ ?_
        rw [origins_append_singleton, horigins, h.length, List.getElem?_concat_length]
      exact .trans _ _ _ ((h.family other token family hother hfamily).append _) hclone

/-- Cancelling a token sets the flag of its family. -/
theorem cancelToken_of_family (h : Records history t) {family : Nat}
    (hfamily : t.families[token]? = some family) :
    Records (history ++ [.cancelToken token]) (t.cancel token) where
  length := by
    rw [Tokens.families_cancel, h.length, origins_append_singleton]
    rfl
  flag := by
    rw [Tokens.families_cancel, Tokens.length_cancelled_cancel]
    exact h.flag
  clone := by
    rw [Tokens.families_cancel, origins_append_singleton]
    exact h.clone
  family := by
    rw [Tokens.families_cancel]
    exact fun a b other ha hb => (h.family a b other ha hb).append _
  cancelled := fun other => by
    have hflag : family < t.cancelled.length := h.flag token family hfamily
    have hlt : token < (origins history).length := by
      obtain ⟨hlt, -⟩ := List.getElem?_eq_some_iff.1 hfamily
      exact h.length ▸ hlt
    rw [Tokens.families_cancel, Tokens.isFamilyCancelled_cancel hfamily hflag, h.cancelled]
    simp only [cancels_append_singleton, Step.cancelToken.injEq]
    constructor
    · rintro (⟨earlier, hcancels, hearlier⟩ | rfl)
      · exact ⟨earlier, .inl hcancels, hearlier⟩
      · exact ⟨token, .inr ⟨rfl, hlt⟩, hfamily⟩
    · rintro ⟨earlier, hcancels | ⟨rfl, -⟩, hearlier⟩
      · exact .inl ⟨earlier, hcancels, hearlier⟩
      · exact .inr (Option.some.inj (hfamily.symm.trans hearlier))

theorem cancelToken (h : Records history t) (token : Nat) :
    Records (history ++ [.cancelToken token]) (t.cancel token) := by
  cases hfamily : t.families[token]? with
  | none =>
    rw [Tokens.cancel_eq_self hfamily]
    refine h.of_unchanged rfl ?_
    rintro _ ⟨⟩
    rw [← h.length]
    exact Nat.not_lt.2 (List.getElem?_eq_none_iff.1 hfamily)
  | some family => exact h.cancelToken_of_family hfamily

/-- Every step keeps the record. -/
theorem after (h : Records history s.tokens) (step : Step) :
    Records (history ++ [step]) (s.after step).tokens := by
  cases step with
  | newToken => exact h.newToken
  | cloneToken token => exact h.cloneToken token
  | cancelToken token => exact h.cancelToken token
  | setNaming _ => exact h.of_unchanged rfl nofun
  | declare _ => exact h.of_unchanged rfl nofun
  | runPass _ _ => exact h.of_unchanged rfl nofun

/-- Cancelling a token of another family leaves a token as it is. -/
theorem isCancelled_cancel (h : Records history t) {other : Nat}
    (hapart : ¬ SameFamily history other token) :
    (t.cancel other).isCancelled token = t.isCancelled token := by
  cases hother : t.families[other]? with
  | none => rw [Tokens.cancel_eq_self hother]
  | some cancelled =>
    refine Tokens.isCancelled_congr (by rw [Tokens.families_cancel]) fun family hfamily => ?_
    have hne : ¬ cancelled = family := by
      rintro rfl
      exact hapart (h.family other token cancelled hother hfamily)
    have hflag := Tokens.isFamilyCancelled_cancel hother (h.flag other cancelled hother) family
    rw [or_iff_left hne] at hflag
    exact Bool.eq_iff_iff.2 hflag

/-- So does any step that cancels no token of its family. -/
theorem isCancelled_after (h : Records history s.tokens) (htoken : token < (origins history).length)
    (hapart : ∀ other, step = .cancelToken other → ¬ SameFamily history other token) :
    (s.after step).tokens.isCancelled token = s.tokens.isCancelled token := by
  have hlt : token < s.tokens.families.length := h.length ▸ htoken
  cases step with
  | newToken => exact Tokens.isCancelled_fresh_of_lt hlt
  | cloneToken other => exact Tokens.isCancelled_clone_of_lt hlt other
  | cancelToken other => exact h.isCancelled_cancel (hapart other rfl)
  | setNaming _ => rfl
  | declare _ => rfl
  | runPass _ _ => rfl

end Records

/-! ### Whole runs -/

section Runs

variable {s : Session} {history : List Step}

theorem records_foldl (h : Records history s.tokens) (steps : List Step) :
    Records (history ++ steps) (steps.foldl after s).tokens := by
  induction steps generalizing history s with
  | nil => rwa [List.append_nil]
  | cons step rest ih =>
    rw [List.append_cons]
    exact ih (h.after step)

theorem records_reached (history : List Step) : Records history (reached history).tokens :=
  records_foldl (s := {}) records_nil history

theorem enums_foldl (s : Session) (steps : List Step) :
    (steps.foldl after s).compilation.enums = s.compilation.enums ++ declarations steps := by
  induction steps generalizing s with
  | nil => simp [declarations]
  | cons step rest ih =>
    rw [List.foldl_cons, ih]
    cases step <;> simp [after, declarations]

theorem enums_reached (history : List Step) :
    (reached history).compilation.enums = declarations history := by
  rw [reached, enums_foldl]
  rfl

/-- The place of a run behind a history holds what the next step gives. -/
theorem getElem?_run (s : Session) (history : List Step) (step : Step) (rest : List Step) :
    (run s (history ++ step :: rest))[history.length]? =
      some ((history.foldl after s).after step, (history.foldl after s).result step) := by
  induction history generalizing s with
  | nil => rfl
  | cons first history ih => exact ih (s.after first)

theorem result_runPass (s : Session) (token : Nat) (o : Options) :
    s.result (.runPass token o) =
      some (s.compilation.run o fun _ => s.tokens.isCancelled token) := rfl

end Runs

/-- What a step does after a history, told from the families of tokens and the declarations:
`s'` is the session behind the step, and `result` is what its pass gives. -/
structure Follows (history : List Step) (step : Step) (s' : Session)
    (result : Option (Except PassError Output)) : Prop where
  /-- A token reads as cancelled exactly if a token of its family was cancelled by then. -/
  reads : ∀ token, s'.tokens.isCancelled token = true ↔
    IsFamilyCancelled (history ++ [step]) token
  /-- No cancellation is taken back. -/
  kept : ∀ token, (reached history).tokens.isCancelled token = true →
    s'.tokens.isCancelled token = true
  /-- How a token reads is changed only by cancelling one of its family. -/
  apart : ∀ token < (origins history).length,
    (∀ other, step = .cancelToken other → ¬ SameFamily history other token) →
    s'.tokens.isCancelled token = (reached history).tokens.isCancelled token
  /-- A pass is cancelled if there is a declaration and the family of its token was cancelled. -/
  cancelled : ∀ token o, step = .runPass token o → o.fault? = none →
    (result = some (.error .cancelled) ↔
      declarations history ≠ [] ∧ IsFamilyCancelled history token)
  /-- Else it gives what it gives with a token made just before. -/
  completed : ∀ token o, step = .runPass token o → o.fault? = none →
    ¬ (declarations history ≠ [] ∧ IsFamilyCancelled history token) →
    ∃ out, result = some (.ok out) ∧
      ((reached history).after .newToken).result (.runPass (origins history).length o) =
        some (.ok out)

/-- **Cancellation follows the families of tokens**, at every place of a run from the start. -/
theorem run_follows (history : List Step) (step : Step) (rest : List Step) :
    ∃ s' result, (run {} (history ++ step :: rest))[history.length]? = some (s', result) ∧
      Follows history step s' result := by
  have hrecords : Records history (reached history).tokens := records_reached history
  have hrecords' : Records (history ++ [step]) ((reached history).after step).tokens :=
    hrecords.after step
  refine ⟨(reached history).after step, (reached history).result step,
    getElem?_run {} history step rest, ?_, ?_, ?_, ?_, ?_⟩
  · exact fun token => hrecords'.isCancelled_iff
  · intro token hcancelled
    have hfamily := hrecords.isCancelled_iff.1 hcancelled
    exact hrecords'.isCancelled_iff.2 (hfamily.append step)
  · exact fun token htoken hapart => hrecords.isCancelled_after htoken hapart
  · rintro token o rfl ho
    rw [result_runPass, Option.some.injEq, Compilation.run_const_eq_error_cancelled_iff ho,
      enums_reached, hrecords.isCancelled_iff]
  · rintro token o rfl ho hnone
    rw [← hrecords.isCancelled_iff, ← enums_reached] at hnone
    refine ⟨(reached history).compilation.output o, ?_, ?_⟩
    · rw [result_runPass, Compilation.run_const_eq_ok ho hnone]
    · have hfresh : ((reached history).after .newToken).tokens.isCancelled
          (reached history).tokens.families.length = false := Tokens.isCancelled_fresh _
      rw [result_runPass, ← hrecords.length, hfresh]
      exact congrArg some (Compilation.run_const_eq_ok ho fun h => Bool.false_ne_true h.2)

/-- A token that is cloned after another clone was cancelled is cancelled too, and so is a pass
with it; a token of a family of its own is not. -/
theorem run_follows_clones :
    let history : List Step := [.newToken, .cloneToken 0, .newToken, .cancelToken 1,
      .declare (.unresolved "A" none), .cloneToken 0]
    Options.fault? {} = none ∧
      (∃ s', (run {} (history ++ [.runPass 3 {}]))[6]? = some (s', some (.error .cancelled))) ∧
      ∃ s' out, (run {} (history ++ [.runPass 2 {}]))[6]? = some (s', some (.ok out)) := by
  intro history
  have ho : Options.fault? {} = none := by decide
  have hdeclarations : declarations history ≠ [] := by simp [history, declarations]
  have hcancelled : IsFamilyCancelled history 3 := by
    refine ⟨1, ⟨history.take 3, history.drop 4, rfl, by decide⟩, ?_⟩
    exact .trans 1 0 3 (.symm 0 1 (.rel 0 1 rfl)) (.rel 0 3 rfl)
  have hother : ¬ IsFamilyCancelled history 2 := by
    rw [← (records_reached history).isCancelled_iff]
    decide
  refine ⟨ho, ?_, ?_⟩
  · obtain ⟨s', result, hrun, hfollows⟩ := run_follows history (.runPass 3 {}) []
    have hresult := (hfollows.cancelled 3 {} rfl ho).2 ⟨hdeclarations, hcancelled⟩
    exact ⟨s', hresult ▸ hrun⟩
  · obtain ⟨s', result, hrun, hfollows⟩ := run_follows history (.runPass 2 {}) []
    obtain ⟨out, hresult, -⟩ := hfollows.completed 2 {} rfl ho fun h => hother h.2
    exact ⟨s', out, hresult ▸ hrun⟩

end Session

end EnumAccessors
