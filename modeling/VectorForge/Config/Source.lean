import VectorForge.Config.Record
import VectorForge.Config.Validity
import VectorForge.Yaml.Node

/-! Configurations written as text. What a text says is left to a decoder, such as the
one for YAML. A text that holds no configuration and a configuration that breaks a rule
are different faults. -/

namespace VectorForge

namespace Yaml.Node

/-- The text of a scalar, whatever it looks like. -/
def text? : Node → Option String
  | .scalar text _ => some text
  | _ => none

/-- The texts of a sequence; nothing written is a sequence without items. -/
def texts? : Node → Option (List String)
  | .sequence items => items.mapM text?
  | .scalar "" true => some []
  | _ => none

/-- The entries of a mapping whose keys are scalars; nothing written is a mapping
without entries. A field that is known may be there only once. -/
def record? (fields : List String) : Node → Option (List (String × Node))
  | .mapping entries => do
    let named ← entries.mapM fun (key, value) => key.text?.map (·, value)
    let known := named.filter fun (name, _) => fields.contains name
    if (known.map Prod.fst).Nodup then some known else none
  | .scalar "" true => some []
  | _ => none

def reader : Reader Node := ⟨record?, text?, texts?, text?⟩

end Yaml.Node

inductive SourceFault where
  | unreadable
  | invalid (cause : ConfigFault)
  deriving DecidableEq

/-- What is reported, from the outermost text in. -/
def SourceFault.messages : SourceFault → List String
  | .unreadable => ["Failed to parse config"]
  | .invalid cause => [cause.message]

namespace Config

/-- A way to read configurations out of texts, whether or not they keep the rules. -/
abbrev Decoder := String → Option Config

def ofYaml? : Decoder := fun text => (Yaml.Node.ofText? text).bind (read? Yaml.Node.reader)

/-- The configuration that a text holds, if all its rules are kept. A text of nothing
but white space holds the defaults; any other is decoded. -/
def ofText (text : String) (decode : Decoder := ofYaml?) : Except SourceFault Config :=
  if Text.isBlank text then .ok {}
  else
    match decode text with
    | none => .error .unreadable
    | some config =>
      match config.validate with
      | .ok () => .ok config
      | .error cause => .error (.invalid cause)

end Config

end VectorForge
