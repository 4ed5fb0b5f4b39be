import PromptLibrary.Template.Segment
import PromptLibrary.Value.Display
/-!
# Rendering

Rendering puts the caller's input in place of each input marker, and then a value or a default in
place of each variable. What is put in place of a variable is not looked at again.
-/

namespace PromptLibrary.Template

/-- The name under which the caller's input is given. -/
def inputName : Text := Text.ofString "input"

/-- The body with the caller's input put in; without an input the markers stay. -/
def insertInput (values : Mapping Value) (body : Text) : Text :=
  match values.get? inputName with
  | none => body
  | some v => match inputMarker with
    | [] => body
    | first :: more => Search.replaceAll first more v.display body

/-- What a variable is replaced by. -/
def Variable.resolve (values : Mapping Value) (v : Variable) : Text :=
  match values.get? v.name with
  | some value => value.display
  | none => defaultOption v.options

/-- What a segment is replaced by. -/
def Segment.resolve (values : Mapping Value) : Segment → Text
  | point p => [p]
  | slot v => v.resolve values

/-- The prompt that a body gives with the given values. -/
def render (body : Text) (values : Mapping Value) : Text :=
  (segments (insertInput values body)).flatMap (·.resolve values)

end PromptLibrary.Template
