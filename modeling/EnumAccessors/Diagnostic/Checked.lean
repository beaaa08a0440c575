import EnumAccessors.Diagnostic.Basic

/-!
# Checked values

A check always gives a value to go on with; what it found wrong comes along as diagnostics in the
order they were raised (`Checked`).  Checks are put together one after another (`Checked.bind`) or
over a list (`Checked.each`), and the diagnostics add up.
-/

namespace EnumAccessors

/-- A value and the diagnostics raised while it was determined. -/
structure Checked (α : Type) where
  value : α
  diagnostics : List Diagnostic := []
  deriving DecidableEq

namespace Checked

variable {α β : Type}

/-- A value that nothing is wrong with. -/
def ok (value : α) : Checked α := ⟨value, []⟩

/-- The value to use instead, and why. -/
def defaulted (value : α) (d : Diagnostic) : Checked α := ⟨value, [d]⟩

/-- Only a diagnostic. -/
def raise (d : Diagnostic) : Checked Unit := defaulted () d

/-- The same diagnostics with a value made of the old one. -/
def map (f : α → β) (x : Checked α) : Checked β := ⟨f x.value, x.diagnostics⟩

/-- One check after another that depends on its value. -/
def bind (x : Checked α) (f : α → Checked β) : Checked β :=
  ⟨(f x.value).value, x.diagnostics ++ (f x.value).diagnostics⟩

/-- The same check for each element of a list. -/
def each (f : α → Checked β) (xs : List α) : Checked (List β) :=
  ⟨xs.map fun x => (f x).value, xs.flatMap fun x => (f x).diagnostics⟩

instance : Monad Checked where
  pure := ok
  bind := bind
  map := map

/-! ### The value and the diagnostics of a combination -/

@[simp] theorem value_ok (a : α) : (ok a).value = a := rfl

@[simp] theorem diagnostics_ok (a : α) : (ok a).diagnostics = [] := rfl

@[simp] theorem value_defaulted (a : α) (d : Diagnostic) : (defaulted a d).value = a := rfl

@[simp] theorem diagnostics_defaulted (a : α) (d : Diagnostic) :
    (defaulted a d).diagnostics = [d] := rfl

@[simp] theorem diagnostics_raise (d : Diagnostic) : (raise d).diagnostics = [d] := rfl

@[simp] theorem value_map (f : α → β) (x : Checked α) : (x.map f).value = f x.value := rfl

@[simp] theorem diagnostics_map (f : α → β) (x : Checked α) :
    (x.map f).diagnostics = x.diagnostics := rfl

@[simp] theorem value_functor_map (f : α → β) (x : Checked α) : (f <$> x).value = f x.value := rfl

@[simp] theorem diagnostics_functor_map (f : α → β) (x : Checked α) :
    (f <$> x).diagnostics = x.diagnostics := rfl

@[simp] theorem value_pure (a : α) : (pure a : Checked α).value = a := rfl

@[simp] theorem diagnostics_pure (a : α) : (pure a : Checked α).diagnostics = [] := rfl

@[simp] theorem value_bind (x : Checked α) (f : α → Checked β) :
    (x >>= f).value = (f x.value).value := rfl

@[simp] theorem diagnostics_bind (x : Checked α) (f : α → Checked β) :
    (x >>= f).diagnostics = x.diagnostics ++ (f x.value).diagnostics := rfl

@[simp] theorem value_each (f : α → Checked β) (xs : List α) :
    (each f xs).value = xs.map fun x => (f x).value := rfl

@[simp] theorem diagnostics_each (f : α → Checked β) (xs : List α) :
    (each f xs).diagnostics = xs.flatMap fun x => (f x).diagnostics := rfl

/-- Two checked values are equal if they agree in both parts. -/
@[ext] theorem ext {x y : Checked α} (hv : x.value = y.value)
    (hd : x.diagnostics = y.diagnostics) : x = y := by
  cases x; cases y; simp_all

/-- The order in which checks are grouped does not matter. -/
instance : LawfulMonad Checked :=
  LawfulMonad.mk' Checked
    (fun _ => rfl)
    (fun _ _ => rfl)
    (fun x f g => by ext1 <;> simp)
    (fun _ _ => rfl)
    (fun _ _ => rfl)
    (fun _ _ => rfl)
    (fun f x => by ext1 <;> simp)
    (fun _ _ => rfl)

end Checked

end EnumAccessors
