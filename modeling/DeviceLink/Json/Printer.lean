import DeviceLink.Json.Value

namespace DeviceLink
namespace Json

/-!
Compact printing: no blanks, members in their stored order.  Printing is total, since
the limit on nested arrays and objects is one of reading alone.  A text that is printed
is made of the names and values as they are stored, with strings escaped and numbers in
their shortest form.  The pieces are lists of characters, so that what is known about a
part can be carried over to the whole by appending.
-/

/-- Join rendered parts with commas.  Neither the first nor the last part has a comma outside. -/
def separated : List (List Char) → List Char
  | [] => []
  | [part] => part
  | part :: rest => part ++ ',' :: separated rest

def arrayText (items : List (List Char)) : List Char :=
  '[' :: separated items ++ [']']

/-- One member, with its value rendered already.  The name is quoted like any other string. -/
def memberText (name : String) (value : List Char) : List Char :=
  Quoted.encode name ++ ':' :: value

def objectText (members : List (List Char)) : List Char :=
  '\x7b' :: separated members ++ ['\x7d']

namespace Value

def render : Value → List Char
  | .null => "null".toList
  | .bool true => "true".toList
  | .bool false => "false".toList
  | .number value => value.text
  | .string value => Quoted.encode value
  | .array items => arrayText (renderItems items)
  | .object members => objectText (renderMembers members)
where
  renderItems : List Value → List (List Char)
    | [] => []
    | item :: rest => item.render :: renderItems rest
  renderMembers : List (String × Value) → List (List Char)
    | [] => []
    | (name, value) :: rest => memberText name value.render :: renderMembers rest

/--
The compact text of a value.  For a structured datum it is also the text whose length is
limited.
-/
def text (value : Value) : String := String.ofList value.render

end Value
end Json
end DeviceLink
