import SchemaSharp.Notice
import SchemaSharp.Text.JsonString

/-!
Notices as lines of a log, in plain text or as one object a line.
-/

namespace SchemaSharp.Command

def plainLine (notice : Notice) : String :=
  notice.loudness.text ++ " " ++ notice.speaker.text ++ ": " ++ notice.text

def structuredLine (notice : Notice) : String :=
  let fields := [
    ("name", notice.speaker.text), ("levelname", notice.loudness.text), ("message", notice.text)]
  let shown := fields.map fun (name, value) =>
    Text.jsonString name ++ ": " ++ Text.jsonString value
  "\x7b" ++ ", ".intercalate shown ++ "\x7d"

def logLine (structured : Bool) (notice : Notice) : String :=
  if structured then structuredLine notice else plainLine notice

end SchemaSharp.Command
