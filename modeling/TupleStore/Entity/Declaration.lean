import TupleStore.Text.Words
import TupleStore.Text.Cut

/-!
# Declarations of entity types

An entity type can be declared as a structure whose attributes say how it is
stored.  `Declaration.derive` reads the attributes: `entity` attributes name the
space, the key and the version; `serde` attributes rename, skip and flatten
fields.
-/

namespace TupleStore

/-- What stands in an attribute: `name`, `name = "text"` or `name(items)`. -/
inductive Item where
  | word (name : String)
  | assignment (name text : String)
  | group (name : String) (items : List Item)
  deriving Repr

structure Attribute where
  name : String
  items : List Item
  deriving Repr

structure FieldDeclaration where
  name : String
  type : String
  attributes : List Attribute := []
  deriving Repr

inductive DeclarationShape where
  /-- A structure whose fields have names. -/
  | named
  /-- A structure with type parameters. -/
  | generic
  /-- A structure whose fields have no names. -/
  | unnamed
  | enumeration
  deriving DecidableEq, Repr

structure Declaration where
  name : String
  shape : DeclarationShape := .named
  attributes : List Attribute := []
  fields : List FieldDeclaration := []
  deriving Repr

inductive DerivationError where
  | generic
  | notAStructure
  | unnamedFields
  | unsupportedAttribute
  /-- No text is assigned to a name which needs one. -/
  | missingText
  /-- A text or a group follows a name which takes none. -/
  | unexpectedText
  | keyWithoutId
  | unsupportedRule (rule : String)
  | noId
  | keyAmongIds
  deriving DecidableEq, Repr

def DerivationError.message : DerivationError → String
  | .generic => "Entity cannot be derived on generic types"
  | .notAStructure => "Entity can only be derived for structs"
  | .unnamedFields => "Entity fields must be named"
  | .unsupportedAttribute => "unsupported entity attribute"
  | .missingText => "expected `=`"
  | .unexpectedText => "expected `,`"
  | .keyWithoutId => "`key` is only allowed on an id field"
  | .unsupportedRule rule => "unsupported rename rule " ++ rule
  | .noId => "Entity requires a field marked #[entity(id)]"
  | .keyAmongIds => "an embedded key cannot be combined with other id fields"

structure EntityDescription where
  space : String
  idFields : List String
  fields : List String
  /-- The types of the id fields, in order. -/
  idTypes : List String
  versioned : Bool
  deriving DecidableEq, Repr

def EntityDescription.idType (description : EntityDescription) : String :=
  match description.idTypes with
  | [type] => type
  | types => "(" ++ ",".intercalate types ++ ")"

namespace Item

def name : Item → String
  | .word name | .assignment name _ | .group name _ => name

mutual

/-- Whether the item can be skipped: no group in it is empty. -/
def isSkippable : Item → Bool
  | .word _ | .assignment .. => true
  | .group _ [] => false
  | .group _ (item :: items) => item.isSkippable && allSkippable items

def allSkippable : List Item → Bool
  | [] => true
  | item :: items => item.isSkippable && allSkippable items

end

/-- The last text assigned to `serialize`, when all items can be read. -/
def serializedIn : Option String → List Item → Option String
  | found, [] => found
  | found, item :: items =>
      if item.name = "serialize" then
        match item with
        | .assignment _ text => serializedIn (some text) items
        | _ => none
      else if item.isSkippable then serializedIn found items
      else none

/-- The name for writing in `item = "name"` or `item(serialize = "name")`. -/
def writtenName? : Item → Option String
  | .word _ => none
  | .assignment _ text => some text
  | .group _ items => serializedIn none items

def assigned : Item → Except DerivationError String
  | .assignment _ text => .ok text
  | _ => .error .missingText

def checkBare : Item → Except DerivationError Unit
  | .word _ => .ok ()
  | _ => .error .unexpectedText

end Item

/-! ## Attributes -/

namespace Attribute

variable {σ : Type}

/-- Reads items in turn, up to and with the first after which `read` does not go on. -/
def readItems (read : Item → σ → σ × Bool) : List Item → σ → σ
  | [], options => options
  | item :: items, options =>
      let (options, goesOn) := read item options
      if goesOn then readItems read items options else options

def readAll (name : String) (read : σ → Item → Except DerivationError σ)
    (attributes : List Attribute) (options : σ) : Except DerivationError σ :=
  ((attributes.filter fun head => head.name = name).flatMap Attribute.items).foldlM read options

/-- Reads the attributes with this name; what cannot be read ends its own attribute only. -/
def readLenient (name : String) (read : Item → σ → σ × Bool) (attributes : List Attribute)
    (options : σ) : σ :=
  attributes.foldl (fun options head =>
    if head.name = name then readItems read head.items options else options) options

end Attribute

/-! ## Renaming rules -/

inductive RenameRule where
  | lowercase
  | uppercase
  | pascal
  | camel
  | snake
  | upperSnake
  | kebab
  | upperKebab
  deriving DecidableEq, Repr

namespace RenameRule

def ofName? : String → Option RenameRule
  | "lowercase" => some .lowercase
  | "UPPERCASE" => some .uppercase
  | "PascalCase" => some .pascal
  | "camelCase" => some .camel
  | "snake_case" => some .snake
  | "SCREAMING_SNAKE_CASE" => some .upperSnake
  | "kebab-case" => some .kebab
  | "SCREAMING-KEBAB-CASE" => some .upperKebab
  | _ => none

def applyTo : RenameRule → List Char → List Char
  | .lowercase => Text.toLower
  | .uppercase => Text.toUpper
  | .pascal => Text.pascalCase
  | .camel => Text.camelCase
  | .snake => Text.snakeCase
  | .upperSnake => Text.upperSnakeCase
  | .kebab => Text.kebabCase
  | .upperKebab => Text.upperKebabCase

end RenameRule

/-! ## Fields -/

structure FieldOptions where
  isId : Bool := false
  /-- The names of the fields of an embedded key. -/
  key : Option (List String) := none
  isVersion : Bool := false
  rename : Option String := none
  skipped : Bool := false
  flattened : Bool := false
  deriving DecidableEq, Repr

namespace FieldOptions

/-- The names between commas, without blanks around them; empty names are dropped. -/
def splitKey (text : String) : List String :=
  ((Text.splitAll ',' text.toList).map fun part => String.ofList (Text.trim part)).filter
    (· ≠ "")

def readEntity (options : FieldOptions) (item : Item) :
    Except DerivationError FieldOptions := do
  match item.name with
  | "id" =>
      item.checkBare
      return { options with isId := true }
  | "version" =>
      item.checkBare
      return { options with isVersion := true }
  | "key" => return { options with key := some (splitKey (← item.assigned)) }
  | _ => throw .unsupportedAttribute

def readSerde (item : Item) (options : FieldOptions) : FieldOptions × Bool :=
  match item.name with
  | "rename" =>
      match item.writtenName? with
      | some name => ({ options with rename := some name }, true)
      | none => (options, false)
  | "skip" | "skip_serializing" =>
      ({ options with skipped := true }, item.checkBare.isOk)
  | "flatten" => ({ options with flattened := true }, item.checkBare.isOk)
  | _ => (options, item.isSkippable)

end FieldOptions

structure StoredField where
  name : String
  type : String
  options : FieldOptions
  deriving DecidableEq, Repr

namespace StoredField

/-- The name by which the field is stored: its own new name, or the name by the common rule. -/
def storedName (name : String) (options : FieldOptions) (rule : Option String) :
    Except DerivationError String :=
  match options.rename, rule with
  | some renamed, _ => .ok renamed
  | none, none => .ok name
  | none, some rule =>
      match RenameRule.ofName? rule with
      | some rule => .ok (String.ofList (rule.applyTo name.toList))
      | none => .error (.unsupportedRule rule)

def ofDeclaration (rule : Option String) (field : FieldDeclaration) :
    Except DerivationError StoredField := do
  let options ← Attribute.readAll "entity" FieldOptions.readEntity field.attributes {}
  let options := Attribute.readLenient "serde" FieldOptions.readSerde field.attributes options
  if options.key.isSome && !options.isId then throw .keyWithoutId
  return ⟨← storedName field.name options rule, field.type, options⟩

def names (field : StoredField) : List String :=
  if field.options.flattened then field.options.key.getD [] else [field.name]

/-- The names which the field contributes to the key as its only id field. -/
def idNames (field : StoredField) : List String := field.options.key.getD [field.name]

end StoredField

/-! ## Deriving -/

namespace Declaration

def checkShape (declaration : Declaration) : Except DerivationError Unit :=
  match declaration.shape with
  | .generic => .error .generic
  | .enumeration => .error .notAStructure
  | .unnamed => .error .unnamedFields
  | .named => .ok ()

/-- The space named by an attribute; otherwise the name of the type in lower case. -/
def spaceName (declaration : Declaration) : Except DerivationError String := do
  let named ← Attribute.readAll "entity" (fun _ item => do
    if item.name = "space" then return some (← item.assigned)
    throw .unsupportedAttribute) declaration.attributes none
  return named.getD (String.ofList (Text.toLower declaration.name.toList))

def renameRule (declaration : Declaration) : Option String :=
  Attribute.readLenient "serde" (fun item rule =>
    if item.name = "rename_all" then
      match item.writtenName? with
      | some name => (some name, true)
      | none => (rule, false)
    else (rule, item.isSkippable)) declaration.attributes none

def idFields : List StoredField → Except DerivationError (List String)
  | [] => .error .noId
  | [field] => .ok field.idNames
  | fields =>
      if fields.any fun field => field.options.key.isSome then .error .keyAmongIds
      else .ok (fields.map StoredField.name)

def derive (declaration : Declaration) : Except DerivationError EntityDescription := do
  declaration.checkShape
  let space ← declaration.spaceName
  let fields ← declaration.fields.mapM (StoredField.ofDeclaration declaration.renameRule)
  let stored := fields.filter fun field => !field.options.skipped
  let ids := stored.filter fun field => field.options.isId
  return {
    space
    idFields := ← idFields ids
    fields := stored.flatMap StoredField.names
    idTypes := ids.map StoredField.type
    versioned := stored.any fun field => field.options.isVersion }

end Declaration

end TupleStore
