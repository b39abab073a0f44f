import CaseRunner.Sending.Obstacle

/-!
# What goes over the wire in place of the body

A request that has files, or fields of a form in several parts, is sent in parts: a part
for each field, then one for each file, with the name and the content that it has when
the request is put together. Whatever else the body of such a request were, it would not
be sent. The body of any other request is sent as it is.
-/

namespace CaseRunner

/-- A part of what is sent in several parts. -/
inductive Part where
  /-- A field of a form and its value. -/
  | field (name value : String)
  /-- A file under the name of a field, with a name of its own and its content. -/
  | file (field name : String) (content : List UInt8)
  deriving DecidableEq, Repr

/-- What is sent in place of the body. -/
inductive Payload where
  /-- The body as it is. -/
  | whole (body : Body)
  /-- Several parts. -/
  | parts (ps : List Part)
  deriving DecidableEq, Repr

namespace Body

/-- The parts that the fields of a form are sent as. -/
def parts : Body → List Part
  | .form pairs => pairs.map fun (name, value) => .field name value
  | _ => []

end Body

namespace Request

/-- The part that a file is sent as. A path without a last part is sent under the name
of the field. -/
def filePart (fs : FileSystem) (file : String × String) : Except String Part :=
  match fs.read file.2 with
  | .ok content =>
    .ok (.file file.1 ((FileSystem.fileName? file.2).getD file.1) content.toBytes)
  | .error e => .error ("cannot read " ++ Text.inQuotes file.2 ++ ": " ++ e.reason)

/-- What is sent in place of the body. -/
def payload (fs : FileSystem) (r : Request) : Except String Payload :=
  if r.isMultipart then do
    let files ← r.files.mapM (filePart fs)
    return .parts (r.body.parts ++ files)
  else .ok (.whole r.body)

end Request

end CaseRunner
