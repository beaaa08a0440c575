import EnumAccessors.Analysis.Descriptor
import EnumAccessors.Naming.Conversion

/-!
# Accessors

A descriptor is lowered to a list of accessors (`Descriptor.accessors`): names, and the members
whose presence they test.  Whatever is generated is a rendering of this list.
-/

namespace EnumAccessors

/-- Whether an accessor asks for a flag or for a group. -/
inductive Subject where
  | flag
  | group
  deriving DecidableEq, Repr

/-- A name, and the members one of which has to be present. -/
structure Accessor where
  name : String
  subject : Subject
  /-- The member or the group that the accessor is about. -/
  label : String
  members : List String
  deriving DecidableEq

namespace Descriptor

/-- The accessor of a flag. -/
def flagAccessor (d : Descriptor) (f : Flag) : Accessor where
  name := f.prefixOr d.accessorPrefix ++ d.naming.convert f.accessorName
  subject := .flag
  label := f.name
  members := [f.name]

/-- The accessor of a group. -/
def groupAccessor (d : Descriptor) (g : Group) : Accessor where
  name := g.accessorPrefix ++ d.naming.convert g.name
  subject := .group
  label := g.name
  members := g.members

/-- The accessors of a type: those of the flags that are not excluded, then those of the groups
that have members. -/
def accessors (d : Descriptor) : List Accessor :=
  (d.flags.filter fun f => !f.isExcluded).map d.flagAccessor ++
    (d.groups.filter fun g => !g.members.isEmpty).map d.groupAccessor

end Descriptor

end EnumAccessors
