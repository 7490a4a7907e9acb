import VectorForge.Config
import VectorForge.Value

/-! Configurations as records. Every field may be left out, and then has its default;
fields that nobody knows are passed over. The rules are the same for every form of
data that has records, texts and lists of texts. -/

namespace VectorForge

structure Reader (α : Type) where
  /-- The entries of a record that may have the given fields. -/
  record? : List String → α → Option (List (String × α))
  text? : α → Option String
  texts? : α → Option (List String)
  /-- A name from a fixed set. -/
  choice? : α → Option String

namespace Reader

variable {α β : Type}

/-- One field of a record. If it is missing it has its default; if it is there it has
to read. -/
def field? (entries : List (String × α)) (name : String) (read : α → Option β) (default : β) :
    Option β :=
  match entries.lookup name with
  | some value => read value
  | none => some default

end Reader

def Value.reader : Reader Value := ⟨Value.record?, Value.text?, Value.texts?, Value.choice?⟩

variable {α : Type}

def Kind.ofValue? (value : Value) : Option Kind := value.choice?.bind Kind.ofElement?

def Kind.toValue (kind : Kind) : Value := .text kind.element

def Dimension.ofValue? (value : Value) : Option Dimension :=
  value.nat?.bind fun size => (Dimension.ofSize size).toOption

def Dimension.toValue (dimension : Dimension) : Value := .integer dimension.size

namespace ComparisonMask

def read? (reader : Reader α) (data : α) : Option ComparisonMask :=
  (reader.choice? data).bind ofName?

def ofValue? (value : Value) : Option ComparisonMask := read? Value.reader value

def toValue (mask : ComparisonMask) : Value := .text mask.name

end ComparisonMask

namespace ArgumentNames

def fieldNames : List String := ["first", "second", "single", "scalar"]

def read? (reader : Reader α) (data : α) : Option ArgumentNames := do
  let entries ← reader.record? fieldNames data
  let standard : ArgumentNames := {}
  let first ← Reader.field? entries "first" reader.text? standard.first
  let second ← Reader.field? entries "second" reader.text? standard.second
  let single ← Reader.field? entries "single" reader.text? standard.single
  let scalar ← Reader.field? entries "scalar" reader.text? standard.scalar
  return { first, second, single, scalar }

def ofValue? (value : Value) : Option ArgumentNames := read? Value.reader value

def toValue (names : ArgumentNames) : Value :=
  .object [("first", .text names.first), ("second", .text names.second),
    ("single", .text names.single), ("scalar", .text names.scalar)]

end ArgumentNames

namespace Options

def fieldNames : List String :=
  ["namespace", "usings", "indent", "newline", "arguments", "comparison_mask"]

def read? (reader : Reader α) (data : α) : Option Options := do
  let entries ← reader.record? fieldNames data
  let standard : Options := {}
  let namespaceName ← Reader.field? entries "namespace" reader.text? standard.namespaceName
  let usings ← Reader.field? entries "usings" reader.texts? standard.usings
  let indent ← Reader.field? entries "indent" reader.text? standard.style.indent
  let newline ← Reader.field? entries "newline" reader.text? standard.style.newline
  let arguments ←
    Reader.field? entries "arguments" (ArgumentNames.read? reader) standard.arguments
  let mask ← Reader.field? entries "comparison_mask" (ComparisonMask.read? reader) standard.mask
  return { namespaceName, usings, style := { indent, newline }, arguments, mask }

def ofValue? (value : Value) : Option Options := read? Value.reader value

def toValue (options : Options) : Value :=
  .object [("namespace", .text options.namespaceName),
    ("usings", .list (options.usings.map .text)), ("indent", .text options.style.indent),
    ("newline", .text options.style.newline), ("arguments", options.arguments.toValue),
    ("comparison_mask", options.mask.toValue)]

end Options

namespace Config

def fieldNames : List String := ["output_dir", "extension", "emit"]

def read? (reader : Reader α) (data : α) : Option Config := do
  let entries ← reader.record? fieldNames data
  let standard : Config := {}
  let outputDir ← Reader.field? entries "output_dir" reader.text? standard.outputDir
  let extension ← Reader.field? entries "extension" reader.text? standard.extension
  let emit ← Reader.field? entries "emit" (Options.read? reader) standard.emit
  return { outputDir, extension, emit }

def ofValue? (value : Value) : Option Config := read? Value.reader value

def toValue (config : Config) : Value :=
  .object [("output_dir", .text config.outputDir), ("extension", .text config.extension),
    ("emit", config.emit.toValue)]

end Config

end VectorForge
