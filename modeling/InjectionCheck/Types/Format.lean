import InjectionCheck.Types.Pool

/-!
# How types are written

A type is written as source text would write it. Parentheses stand where a type
would otherwise be read as part of the type around it.
-/

set_option autoImplicit false

namespace InjectionCheck

namespace Pool

/-- A type inside a union, an intersection or an array: the types that would mix
with what is around them are put in parentheses. -/
def operandText (pool : Pool) (type : TypeIndex) (text : String) : String :=
  match pool.entry type with
  | .union _ | .intersection _ | .function _ => "(" ++ text ++ ")"
  | _ => text

/-- A name with the mark of an optional part. -/
def optionalName (name : String) (optional : Bool) : String :=
  if optional then name ++ "?" else name

/-- A member in braces, given the text after its name. -/
def bracedMembers (members : List String) : String :=
  if members.isEmpty then "\x7b\x7d"
  else "\x7b " ++ "; ".intercalate members ++ " \x7d"

/-- A type as source text. -/
def format (pool : Pool) (type : TypeIndex) : String :=
  match type.primitive? with
  | some primitive => primitive.text
  | none =>
    match _ : pool.entry type with
    | .reserved => "<reserved>"
    | .named _ name | .unresolved name => name
    | .stringLiteral content => "\"" ++ content ++ "\""
    | .array element => pool.operandText element (format pool element) ++ "[]"
    | .tuple elements =>
      "[" ++ ", ".intercalate (elements.attach.map fun ⟨element, _⟩ => format pool element) ++ "]"
    | .union members =>
      " | ".intercalate (members.attach.map fun ⟨member, _⟩ =>
        pool.operandText member (format pool member))
    | .intersection members =>
      " & ".intercalate (members.attach.map fun ⟨member, _⟩ =>
        pool.operandText member (format pool member))
    | .function signature =>
      "(" ++ ", ".intercalate (signature.parameters.attach.map fun ⟨parameter, _⟩ =>
        optionalName parameter.name parameter.optional ++ ": " ++ format pool parameter.type) ++
        ") => " ++ format pool signature.result
    | .object members =>
      bracedMembers (members.attach.map fun ⟨member, _⟩ =>
        optionalName member.name member.optional ++
          match member.isMethod, _ : pool.entry member.type with
          | true, .function signature =>
            "(" ++ ", ".intercalate (signature.parameters.attach.map fun ⟨parameter, _⟩ =>
              optionalName parameter.name parameter.optional ++ ": " ++
                format pool parameter.type) ++
              "): " ++ format pool signature.result
          | _, _ => ": " ++ format pool member.type)
termination_by type.number
decreasing_by
  · exact part_lt ‹_› (List.mem_singleton.2 rfl)
  · exact part_lt ‹_› ‹_›
  · exact part_lt ‹_› ‹_›
  · exact part_lt ‹_› ‹_›
  · exact part_lt ‹_› (PoolEntry.parameter_mem_parts ‹_›)
  · exact part_lt ‹_› (PoolEntry.result_mem_parts _)
  · exact Nat.lt_trans (part_lt ‹_› (PoolEntry.parameter_mem_parts ‹_›))
      (part_lt ‹pool.entry type = _› (PoolEntry.member_mem_parts ‹_›))
  · exact Nat.lt_trans (part_lt ‹_› (PoolEntry.result_mem_parts _))
      (part_lt ‹pool.entry type = _› (PoolEntry.member_mem_parts ‹_›))
  · exact part_lt ‹pool.entry type = _› (PoolEntry.member_mem_parts ‹_›)

end Pool

end InjectionCheck
