import EnumAccessors.Analysis.Check
import EnumAccessors.Analysis.Descriptor

/-!
# Groups

The groups of a type are collected from its declarations first (`GroupDeclaration.collect`); the
references of members are then resolved against them (`GroupDeclaration.resolve`), and each group
gets the members that refer to it (`GroupDeclaration.build`).

Of several declarations of one name the first valid one counts, and the others are not looked at.
-/

namespace EnumAccessors

/-- A group that a type declares. -/
structure GroupDeclaration where
  name : String
  accessorPrefix : String
  deriving DecidableEq

namespace GroupDeclaration

/-- Whether a group of the name is declared. -/
def declares (declared : List GroupDeclaration) (name : String) : Bool :=
  declared.any fun d => d.name == name

/-! ### Declarations -/

/-- The groups declared by attributes after those in `declared`. -/
def collectFrom (owner : Option Location) (declared : List GroupDeclaration) :
    List Attribute → Checked (List GroupDeclaration)
  | [] => .ok declared
  | a :: rest => do
    match ← Check.identifier (some a) owner .groupName with
    | none => collectFrom owner declared rest
    | some name =>
      if declares declared name then collectFrom owner declared rest
      else do
        let given ← Check.optionalIdentifier a 1 .groupPrefix
        let group : GroupDeclaration := ⟨name, given.getD Descriptor.defaultGroupPrefix⟩
        collectFrom owner (declared ++ [group]) rest

/-- The groups that attributes declare. -/
def collect (attrs : List Attribute) (owner : Option Location) :
    Checked (List GroupDeclaration) :=
  collectFrom owner [] attrs

/-! ### References -/

/-- The group that one reference names, if it is in order. -/
def resolveOne (declared : List GroupDeclaration) (a : Attribute) : Checked (Option String) :=
  match a.args with
  | [.text name] =>
    if declares declared name then .ok (some name)
    else .defaulted none ⟨.unknownGroup, a.location, [name]⟩
  | [v] => .defaulted none ⟨.groupNameType, a.location, [v.typeName]⟩
  | _ => .defaulted none ⟨.membershipArguments, a.location, []⟩

/-- The groups that the references of one member name, each once. -/
def resolve (attrs : List Attribute) (declared : List GroupDeclaration) :
    Checked (List String) :=
  (Checked.each (resolveOne declared) attrs).map fun names => (names.filterMap id).eraseDups

/-! ### Members -/

/-- The groups with their members.  Excluded flags belong to none. -/
def build (declared : List GroupDeclaration) (flags : List Flag) : List Group :=
  declared.map fun d =>
    { name := d.name
      accessorPrefix := d.accessorPrefix
      members :=
        (flags.filter fun f => !f.isExcluded && f.groups.contains d.name).map Flag.name }

end GroupDeclaration

end EnumAccessors
