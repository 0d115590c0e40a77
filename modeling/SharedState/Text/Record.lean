/-!
# Written records

A record is written as its name and its fields in braces; one whose other
fields are not shown ends in two dots. An optional value is written as
nothing or as something in parentheses.
-/

namespace SharedState.Text.Record

/-- One field with its name. -/
def field (binding : String × String) : String := binding.1 ++ ": " ++ binding.2

/-- A record that shows all of its fields. -/
def render (name : String) (fields : List (String × String)) : String :=
  name ++ " \x7b " ++ ", ".intercalate (fields.map field) ++ " \x7d"

/-- A record that does not show all of its fields. -/
def renderOpen (name : String) (fields : List (String × String)) : String :=
  name ++ " \x7b " ++ ", ".intercalate (fields.map field ++ [".."]) ++ " \x7d"

/-- An optional value. -/
def optional : Option String → String
  | none => "None"
  | some text => "Some(" ++ text ++ ")"

/-- A truth value. -/
def truth (holds : Bool) : String := if holds then "true" else "false"

end SharedState.Text.Record
