import Stencil.Accessor.Basic
import Stencil.Text.Quoted

/-!
# Descriptions for debugging

What objects, accessors and types look like to someone who debugs a host.
-/

set_option autoImplicit false

namespace Stencil

open Text (quote)

/-- A structure with named fields. -/
def describeFields (name : String) (fields : List (String × String)) : String :=
  name ++ " \x7b " ++ ", ".intercalate (fields.map fun (label, text) => label ++ ": " ++ text)
    ++ " \x7d"

/-- A list between brackets. -/
def describeList (items : List String) : String :=
  "[" ++ ", ".intercalate items ++ "]"

/-- A truth value. -/
def describeBool (truth : Bool) : String :=
  if truth then "true" else "false"

/-- The description of a kind. -/
def Kind.describe : Kind → String
  | .null => "Null"
  | .bool => "Bool"
  | .int => "Int"
  | .float => "Float"
  | .string => "String"
  | .list => "List"
  | .map => "Map"
  | .object typeName => "Object(" ++ quote typeName ++ ")"

/-- The description of a member. -/
def Member.describe (member : Member) : String :=
  describeFields "Member"
    [("name", quote member.name), ("static", describeBool member.isStatic),
      ("writable", describeBool member.isWritable)]

/-- The description of a method. -/
def Method.describe (method : Method) : String :=
  describeFields "Method"
    [("name", quote method.name), ("params", describeList (method.parameters.map Kind.describe)),
      ("static", describeBool method.isStatic)]

/-- The description of a type. -/
def HostType.describe (type : HostType) : String :=
  let parent :=
    match type.parent? with
    | some parent => "Some(" ++ quote parent.name ++ ")"
    | none => "None"
  describeFields "TypeInfo"
    [("name", quote type.name), ("parent", parent),
      ("fields", describeList (type.own.fields.map Member.describe)),
      ("properties", describeList (type.own.properties.map Member.describe)),
      ("methods", describeList (type.own.methods.map Method.describe))]

/-- The description of an object. -/
def Host.describe (host : Host) (object : Handle) : String :=
  describeFields "Object" [("type", quote (host.typeName object))]

/-- The description of an accessor. -/
def Accessor.describe (host : Host) (accessor : Accessor) : String :=
  describeFields "ObjectAccessor"
    [("object", host.describe accessor.object), ("bound", quote accessor.typeName)]

end Stencil
