import WorkloadIdentity.Json.Printer
import WorkloadIdentity.Yaml.Scalar

namespace WorkloadIdentity.Yaml

/-- A line's end, unless the text has ended a line itself. -/
def ended : String × Bool → String
  | (text, true) => text
  | (text, false) => text ++ "\n"

/-- The text of a value that fits behind its key, for the later lines of a text at the given
indentation. -/
def inline (width : Nat) : Json → String
  | .null => "null\n"
  | .bool true => "true\n"
  | .bool false => "false\n"
  | .int i => toString i ++ "\n"
  | .double d => Json.doubleText d ++ "\n"
  | .str s => ended (scalar s width false)
  | .arr _ => "[]\n"
  | .obj _ => "{}\n"

def keyText (name : String) (width : Nat) : String := (scalar name width true).1 ++ ":"

mutual

/-- A value at the start of a line or behind a dash, where the first line is indented already. -/
def block (width : Nat) : Json → String
  | .arr (v :: items) => "- " ++ block (width + 2) v ++ itemLines width items
  | .obj ((name, v) :: members) =>
    keyText name (width + 2) ++ memberValue width v ++ memberLines width members
  | v => inline (width + 2) v

/-- What follows a key at the given indentation. -/
def memberValue (width : Nat) : Json → String
  | .arr (v :: items) => "\n" ++ pad width ++ "- " ++ block (width + 2) v ++ itemLines width items
  | .obj ((name, v) :: members) =>
    "\n" ++ pad (width + 2) ++ keyText name (width + 4) ++ memberValue (width + 2) v ++
      memberLines (width + 2) members
  | v => " " ++ inline (width + 2) v

def itemLines (width : Nat) : List Json → String
  | [] => ""
  | v :: items => pad width ++ "- " ++ block (width + 2) v ++ itemLines width items

def memberLines (width : Nat) : List (String × Json) → String
  | [] => ""
  | (name, v) :: members =>
    pad width ++ keyText name (width + 2) ++ memberValue width v ++ memberLines width members

end

/-- The text of a value. -/
def text (value : Json) : String := block 0 value

end WorkloadIdentity.Yaml
