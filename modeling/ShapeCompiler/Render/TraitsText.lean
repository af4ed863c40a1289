import ShapeCompiler.Render.Traits

/-! The text of a module of traits: documentation, the primitive types, the enumerations, and the
traits. -/

namespace ShapeCompiler.Render.Traits

def defaultTitle : String := "Types generated from a SHACL schema."

def moduleDoc (options : Options) : String :=
  options.title.getD defaultTitle ++
    match options.id with
    | some id => "\n\nSchema: <" ++ id ++ ">"
    | none => ""

def docComment (text : String) : Entry := .doc "" text

def indentedDoc (text : String) : Entry := .doc "    " text

def deprecation (indent : String) (deprecated : Bool) : List Entry :=
  if deprecated then [.line (indent ++ "#[deprecated]")] else []

def sizedPrimitives : List (String × String) := [
  ("Integer", "`xsd:integer`."),
  ("NonNegativeInteger", "`xsd:nonNegativeInteger`."),
  ("PositiveInteger", "`xsd:positiveInteger`."),
  ("Decimal", "`xsd:decimal`."),
  ("Boolean", "`xsd:boolean`."),
  ("DateTime", "`xsd:dateTime` and `xsd:dateTimeStamp`.")]

def primitives : List Entry :=
  [docComment ("Concrete types for schema literals.\n\n" ++
      "Implementors pick the representation of each XSD datatype."),
    .line "pub trait Primitives \x7b",
    indentedDoc "`xsd:string`, `xsd:anyURI` and unrecognised datatypes.",
    .line "    type String: ?Sized;"] ++
  (sizedPrimitives.flatMap fun primitive =>
    [indentedDoc primitive.2, .line ("    type " ++ primitive.1 ++ ";")]) ++
  [.line "\x7d", Entry.blank]

def Variant.entries (variant : Variant) : List Entry :=
  [indentedDoc (variant.comment.getD ("`" ++ variant.value ++ "`")),
    .line ("    " ++ variant.name ++ ",")]

def Variant.arm (variant : Variant) : Entry :=
  .line ("            Self::" ++ variant.name ++ " => " ++ Text.quote variant.value ++ ",")

def Enumeration.entries (enumeration : Enumeration) : List Entry :=
  let all := ", ".intercalate (enumeration.variants.map fun variant => "Self::" ++ variant.name)
  [docComment enumeration.comment,
    .line "#[derive(Debug, Clone, Copy, PartialEq, Eq, Hash)]",
    .line ("pub enum " ++ enumeration.name ++ " \x7b")] ++
  enumeration.variants.flatMap Variant.entries ++
  [.line "\x7d",
    Entry.blank,
    .line ("impl " ++ enumeration.name ++ " \x7b"),
    indentedDoc "Every variant, in schema order.",
    .line ("    pub const ALL: &'static [Self] = &[" ++ all ++ "];"),
    Entry.blank,
    indentedDoc "The value as written in the schema.",
    .line "    #[must_use]",
    .line "    pub fn iri(self) -> &'static str \x7b",
    .line "        match self \x7b"] ++
  enumeration.variants.map Variant.arm ++
  [.line "        \x7d",
    .line "    \x7d",
    Entry.blank,
    indentedDoc "Looks up a variant by its schema value.",
    .line "    #[must_use]",
    .line "    pub fn from_iri(iri: &str) -> Option<Self> \x7b",
    .line "        Self::ALL.iter().copied().find(|v| v.iri() == iri)",
    .line "    \x7d",
    .line "\x7d",
    Entry.blank]

def AssociatedType.entries (property : Model.Property) (associated : AssociatedType) : List Entry :=
  [.line ("    /// Values of `" ++ property.compactPath ++ "`."),
    .line ("    type " ++ associated.name ++ ": " ++ associated.bound ++ "<P>;")]

def signature (method arguments result : String) : Entry :=
  .line ("    fn " ++ method ++ "(&self" ++ arguments ++ ") -> " ++ result ++ ";")

/-- The declarations of a method: one, but for a list of values without a fixed size, which has a
count and an access by index. -/
def Method.signatures (method : Method) : List Entry :=
  let required := method.property.isRequired
  let optional (type : String) : String := if required then type else "Option<" ++ type ++ ">"
  if method.property.isList then
    match method.values with
    | .owned type | .borrowed type => [signature method.name "" ("&[" ++ type ++ "]")]
    | .unsized type =>
        [signature (method.name ++ "_count") "" "usize",
          indentedDoc ("Value `index` of `" ++ method.property.compactPath ++ "`.")] ++
        deprecation "    " method.property.deprecated ++
        [signature method.name ", index: usize" ("Option<&" ++ type ++ ">")]
  else
    match method.values with
    | .owned type => [signature method.name "" (optional type)]
    | .borrowed type | .unsized type => [signature method.name "" (optional ("&" ++ type))]

def Method.doc (method : Method) : String :=
  match method.property.comment with
  | some comment => Text.oneLine comment
  | none => "`" ++ method.property.compactPath ++ "`"

def Method.entries (method : Method) : List Entry :=
  (match method.declares with
    | some associated => associated.entries method.property
    | none => []) ++
  [indentedDoc method.doc] ++ deprecation "    " method.property.deprecated ++ method.signatures

def Trait.heading (trait : Trait) : String :=
  let bounds :=
    if trait.supertraits.isEmpty then ""
    else ": " ++ " + ".intercalate (trait.supertraits.map (· ++ "<P>"))
  "pub trait " ++ trait.name ++ "<P: Primitives>" ++ bounds ++ " \x7b"

def Trait.entries (trait : Trait) : List Entry :=
  (match trait.source.comment with
    | some comment => [docComment (Text.oneLine comment), docComment ""]
    | none => []) ++
  [.line ("/// IRI: <" ++ trait.source.id ++ ">")] ++
  (if trait.source.isAbstract then
    [docComment "", docComment "Abstract: never instantiated directly."]
  else []) ++
  deprecation "" trait.source.deprecated ++
  (if trait.methods.isEmpty then [.line (trait.heading ++ "\x7d")]
  else [.line trait.heading] ++ trait.methods.flatMap Method.entries ++ [.line "\x7d"]) ++
  [Entry.blank]

def Declarations.entries (declarations : Declarations) : List Entry :=
  primitives ++ declarations.enumerations.flatMap Enumeration.entries ++
    declarations.traits.flatMap Trait.entries

def sourceFile (model : Model) (options : Options) : SourceFile :=
  ⟨moduleDoc options, (declarations model).entries⟩

def render (model : Model) (options : Options) : String :=
  (sourceFile model options).text

end ShapeCompiler.Render.Traits
