/-!
# Members of enumerations

A member of an enumeration is known by its full name: the module and the qualified name of the
enumeration, and its own name.  Two enumerations may have one name, when both are made by one
function or one replaces the other; their members are different and have the same full names.

The categories of values and the error codes are members with types of their own.  The members here
are those of all other enumerations, unless they are texts or numbers at the same time.

* `EnumMember`: a member, with the ways in which it shows.
* `EnumMember.fullName`: its full name.
-/

namespace FieldSchema

/-- A member of an enumeration. -/
structure EnumMember where
  /-- Which member it is. -/
  identity : Nat
  moduleName : String
  /-- The name of the enumeration in its module. -/
  qualifiedName : String
  /-- The name of the enumeration alone. -/
  className : String
  /-- The name of the member; a union of members may have none. -/
  name? : Option String
  written : String
  displayed : String
  deriving DecidableEq, Repr, Inhabited

namespace EnumMember

/-- The name of a member; that of nothing stands for no name. -/
def ownName (member : EnumMember) : String := member.name?.getD "None"

/-- The full name of a member. -/
def fullName (member : EnumMember) : String :=
  member.moduleName ++ "." ++ member.qualifiedName ++ "." ++ member.ownName

end EnumMember

end FieldSchema
