import EnumAccessors.Pass.Basic

/-!
# Sessions

A session is what a host does over time: it makes cancellation tokens, clones and cancels them,
adds declarations to a compilation, and runs passes (`Session.run`).

A token belongs to the family of the token it was cloned from, and it is cancelled if any token of
its family was.  Nothing takes a cancellation back.
-/

namespace EnumAccessors

/-- Cancellation tokens, known by their numbers. -/
structure Tokens where
  /-- The family of each token. -/
  families : List Nat := []
  /-- Whether each family has been cancelled. -/
  cancelled : List Bool := []
  deriving DecidableEq

namespace Tokens

/-- One more token, in a family of its own. -/
def fresh (t : Tokens) : Tokens where
  families := t.families ++ [t.cancelled.length]
  cancelled := t.cancelled ++ [false]

/-- One more token, in the family of another one. -/
def clone (t : Tokens) (token : Nat) : Tokens :=
  match t.families[token]? with
  | some family => { t with families := t.families ++ [family] }
  | none => t

/-- The tokens after one of them was cancelled. -/
def cancel (t : Tokens) (token : Nat) : Tokens :=
  match t.families[token]? with
  | some family => { t with cancelled := t.cancelled.set family true }
  | none => t

/-- Whether a family has been cancelled. -/
def isFamilyCancelled (t : Tokens) (family : Nat) : Bool := t.cancelled[family]?.getD false

/-- Whether a token reads as cancelled. -/
def isCancelled (t : Tokens) (token : Nat) : Bool :=
  (t.families[token]?.map t.isFamilyCancelled).getD false

/-- How each token reads. -/
def states (t : Tokens) : List Bool := t.families.map t.isFamilyCancelled

@[simp] theorem families_fresh (t : Tokens) :
    t.fresh.families = t.families ++ [t.cancelled.length] := rfl

@[simp] theorem families_cancel (t : Tokens) (token : Nat) :
    (t.cancel token).families = t.families := by
  unfold cancel; split <;> rfl

@[simp] theorem cancelled_clone (t : Tokens) (token : Nat) :
    (t.clone token).cancelled = t.cancelled := by
  unfold clone; split <;> rfl

@[simp] theorem isFamilyCancelled_clone (t : Tokens) (token family : Nat) :
    (t.clone token).isFamilyCancelled family = t.isFamilyCancelled family := by
  simp [isFamilyCancelled]

/-- A new family has not been cancelled, and the old ones read as before. -/
@[simp] theorem isFamilyCancelled_fresh (t : Tokens) (family : Nat) :
    t.fresh.isFamilyCancelled family = t.isFamilyCancelled family := by
  simp only [isFamilyCancelled, fresh, List.getElem?_append]
  split
  · rfl
  · next h =>
    rw [List.getElem?_eq_none (Nat.le_of_not_lt h)]
    cases family - t.cancelled.length <;> rfl

end Tokens

/-- The tokens and the compilation at one time. -/
structure Session where
  tokens : Tokens := {}
  compilation : Compilation := {}

namespace Session

/-- What a host can do. -/
inductive Step where
  | newToken
  | cloneToken (token : Nat)
  | cancelToken (token : Nat)
  | setNaming (attr : Option Attribute)
  | declare (d : Declaration)
  | runPass (token : Nat) (options : Options)

/-- The session after a step; running a pass changes nothing. -/
def after (s : Session) : Step → Session
  | .newToken => { s with tokens := s.tokens.fresh }
  | .cloneToken token => { s with tokens := s.tokens.clone token }
  | .cancelToken token => { s with tokens := s.tokens.cancel token }
  | .setNaming attr => { s with compilation := { s.compilation with naming := attr } }
  | .declare d =>
    { s with compilation := { s.compilation with enums := s.compilation.enums ++ [d] } }
  | .runPass _ _ => s

/-- What a step gives: the result of its pass, if it runs one. -/
def result (s : Session) : Step → Option (Except PassError Output)
  | .runPass token options => some (s.compilation.run options fun _ => s.tokens.isCancelled token)
  | _ => none

/-- The session and the result after each step. -/
def run (s : Session) : List Step → List (Session × Option (Except PassError Output))
  | [] => []
  | step :: rest => (s.after step, s.result step) :: run (s.after step) rest

end Session

end EnumAccessors
