import EnumAccessors.Diagnostic.Basic

/-!
# Fixes for unknown groups

A reference to an unknown group can be mended in two ways: the group is declared, or the reference
is dropped (`Edit`).  Both are offered for a diagnostic that can be located (`Diagnostic.fixes`),
and each stands on its own.

An edit whose target is gone changes nothing (`Edit.apply`).
-/

namespace EnumAccessors

/-- A change of what is written on a type. -/
inductive Edit where
  /-- A declaration of the group is added to the type. -/
  | addGroup (group : String)
  /-- The reference at `index` is dropped from the member. -/
  | removeMembership (member : String) (index : Nat)
  deriving DecidableEq

namespace Edit

/-- What a menu shows. -/
def title : Edit → String
  | addGroup _ => "Add group to enum"
  | removeMembership _ _ => "Remove group from field"

/-- The key under which edits of one sort are applied together. -/
def equivalenceKey : Edit → String
  | addGroup _ => "AddGroupToEnum"
  | removeMembership _ _ => "RemoveGroupFromField"

/-- How an edit is written. -/
def toJson : Edit → Json
  | addGroup group => .object [("kind", .text "addGroupDeclaration"), ("group", .text group)]
  | removeMembership member index =>
    .object [("kind", .text "removeMembership"), ("member", .text member), ("index", .int index)]

/-- The members with one reference dropped from the first one of the name. -/
def dropReference (name : String) (index : Nat) : List Member → List Member
  | [] => []
  | m :: rest =>
    if m.name = name then { m with groups := m.groups.eraseIdx index } :: rest
    else m :: dropReference name index rest

/-- Dropping a reference leaves the names alone. -/
@[simp] theorem map_name_dropReference (name : String) (index : Nat) (members : List Member) :
    (dropReference name index members).map Member.name = members.map Member.name := by
  induction members with
  | nil => rfl
  | cons m rest ih => by_cases h : m.name = name <;> simp [dropReference, h, ih]

/-- Members of other names are left alone. -/
theorem dropReference_of_forall_ne {name : String} {members : List Member}
    (h : ∀ m ∈ members, m.name ≠ name) (index : Nat) :
    dropReference name index members = members := by
  induction members with
  | nil => rfl
  | cons m rest ih =>
    simp only [List.mem_cons, forall_eq_or_imp] at h
    rw [dropReference, if_neg h.1, ih h.2]

/-- The type after the edit. -/
def apply (e : EnumType) : Edit → EnumType
  | addGroup group => { e with groups := e.groups ++ [{ args := [.text group] }] }
  | removeMembership member index => { e with members := dropReference member index e.members }

end Edit

namespace EnumType

/-- Whether a declaration on the type, valid or not, starts with the name. -/
def mentionsGroup (e : EnumType) (group : String) : Bool :=
  e.groups.any fun a => a.arg? 0 == some (.text group)

/-- Whether a reference names just the group and stands at the place, if one is given. -/
def isReference (group : String) (location : Option Location) (a : Attribute) : Bool :=
  a.args == [.text group] && (location.isNone || a.location == location)

/-- The first reference to the group at the place: its member and its index there. -/
def findReference (e : EnumType) (group : String) (location : Option Location) :
    Option (String × Nat) :=
  e.members.findSome? fun m =>
    (m.groups.findIdx? (isReference group location)).map fun index => (m.name, index)

end EnumType

/-- The edits that mend a diagnostic raised on a type: none, or one of each sort for an unknown
group whose reference is found.  A group that the type mentions in a declaration is not unknown
there. -/
def Diagnostic.fixes (d : Diagnostic) (e : EnumType) : List Edit :=
  match d.kind, d.args with
  | .unknownGroup, group :: _ =>
    if e.mentionsGroup group then []
    else
      match e.findReference group d.location with
      | none => []
      | some (member, index) => [.addGroup group, .removeMembership member index]
  | _, _ => []

end EnumAccessors
