import AddressBook.Json.Basic

/-!
What stands behind names that were not given for it. Objects have parts of their
own beside those that a record or a table gives them; a condition can name such a
part, and is then told what the part lacks.
-/
namespace AddressBook.Search

/-- Something that lacks what is asked of it. -/
inductive Holder where
  /-- A value of a kind. -/
  | value (kind : String)
  /-- A kind itself. -/
  | type (name : String)
deriving DecidableEq

/-- A holder in words. -/
def Holder.text : Holder → String
  | value kind => "'" ++ kind ++ "' object"
  | type name => "type object '" ++ name ++ "'"

/-- Names that stand for parts of one sort. -/
abbrev Parts := List (Holder × List String)

/-- The part for which a name stands. -/
def Parts.find? (parts : Parts) (label : Text) : Option Holder :=
  (List.find? (fun (_, names) => names.any fun n => Text.ofString n == label) parts).map (·.1)

/-- The parts of the table of contacts that are neither columns nor texts. -/
def tableParts : Parts := [
  (.value "MetaData", ["metadata"]),
  (.value "registry", ["registry", "_sa_registry"]),
  (.value "Table", ["__table__"]),
  (.value "Mapper", ["__mapper__"]),
  (.value "ClassManager", ["_sa_class_manager"]),
  (.value "bool", ["__abstract__", "_is_protocol"]),
  (.value "int", ["__basicsize__", "__dictoffset__", "__flags__", "__itemsize__",
    "__weakrefoffset__"]),
  (.value "NoneType", ["__text_signature__"]),
  (.value "dict", ["__annotations__"]),
  (.value "mappingproxy", ["__dict__"]),
  (.value "tuple", ["__bases__", "__mro__", "__orig_bases__", "__parameters__", "__slots__"]),
  (.value "function", ["__init__"]),
  (.value "method", ["__class_getitem__", "__init_subclass__"]),
  (.value "getset_descriptor", ["__weakref__"]),
  (.value "wrapper_descriptor", ["__delattr__", "__eq__", "__ge__", "__getattribute__", "__gt__",
    "__hash__", "__le__", "__lt__", "__ne__", "__repr__", "__setattr__", "__str__"]),
  (.value "method_descriptor", ["__dir__", "__format__", "__getstate__", "__reduce__",
    "__reduce_ex__", "__sizeof__"]),
  (.value "builtin_function_or_method", ["__instancecheck__", "__new__", "__prepare__",
    "__subclasscheck__", "__subclasses__", "__subclasshook__", "mro"]),
  (.value "method-wrapper", ["__call__", "__or__", "__ror__"]),
  (.type "DeclarativeAttributeIntercept", ["__class__"]),
  (.type "VaultModel", ["__base__"])]

/-- The parts of a record that no member of it hides. -/
def fixedParts : Parts := [
  (.type "types.SimpleNamespace", ["__class__"]),
  (.value "dict", ["__dict__"])]

/-- The parts of a record that a member of the same name hides. -/
def hiddenParts : Parts := [
  (.value "method-wrapper", ["__delattr__", "__eq__", "__ge__", "__getattribute__", "__gt__",
    "__init__", "__le__", "__lt__", "__ne__", "__repr__", "__setattr__", "__str__"]),
  (.value "builtin_function_or_method", ["__dir__", "__format__", "__getstate__",
    "__init_subclass__", "__new__", "__reduce__", "__reduce_ex__", "__sizeof__",
    "__subclasshook__"])]

/-- The name of the description of a record. -/
def descriptionName : Text := Text.ofString "__doc__"

/-- The description of a record that has no member of that name. -/
def recordDescription : Text :=
  Text.ofString "A simple attribute-based namespace.\n\nSimpleNamespace(**kwargs)"

end AddressBook.Search
