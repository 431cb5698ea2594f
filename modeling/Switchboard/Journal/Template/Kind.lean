import Switchboard.Journal.Template.Offer.Method
import Switchboard.Journal.Template.Offer.Number
import Switchboard.Journal.Template.Offer.Structure
import Switchboard.Journal.Template.Offer.Text
import Switchboard.Text.Quoted

/-!
The kinds of what a field in a template can stand for. A kind has a name, comes under other kinds, has
measures and a summary, and offers members. The kinds are closed, and so is what each of them offers,
so that all of it is a table.
-/

namespace Switchboard.Journal.Template

inductive Kind where
  | text
  | kind
  | row
  | number
  | decimal
  | flag
  | list
  | nothing
  /-- A method of a kind. -/
  | method
  /-- A method of a kind that stands behind an operator. -/
  | wrapper
  /-- A method that is called on the kind itself. -/
  | classMethod
  /-- A function that is kept with a kind. -/
  | static
  /-- A property of the things of a kind. -/
  | property
  /-- A part of the things of a kind. -/
  | slot
  /-- A method of one thing. -/
  | boundMethod
  | boundWrapper
  /-- What a kind offers by itself, under its names. -/
  | directory
  | entries
  /-- A kind that is narrowed down by an argument. -/
  | narrowed
  /-- All other kinds come under this one. -/
  | any
deriving DecidableEq, Repr

/-- The measures of the things of a kind: their size and that of each of their items, where their
fields and the references to them are kept, and the marks of the kind. -/
structure Measures where
  size : Nat
  itemSize : Nat := 0
  fieldsAt : Nat := 0
  referencesAt : Nat := 0
  marks : Nat

namespace Kind

def shortName : Kind → String
  | text => "str"
  | kind => "type"
  | row => "tuple"
  | number => "int"
  | decimal => "float"
  | flag => "bool"
  | list => "list"
  | nothing => "NoneType"
  | any => "object"
  | method => "method_descriptor"
  | wrapper => "wrapper_descriptor"
  | classMethod => "classmethod_descriptor"
  | static => "staticmethod"
  | property => "getset_descriptor"
  | slot => "member_descriptor"
  | boundMethod => "builtin_function_or_method"
  | boundWrapper => "method-wrapper"
  | directory => "mappingproxy"
  | entries => "dict"
  | narrowed => "GenericAlias"

/-- Where a kind is at home. -/
def home : Kind → String
  | narrowed => "types"
  | _ => "builtins"

/-- The name of a kind, with its home if that is not the common one. -/
def name : Kind → String
  | narrowed => "types.GenericAlias"
  | k => k.shortName

def shown (k : Kind) : String := s!"<class {Text.quoted k.name}>"

/-- The kinds that a kind comes under directly. -/
def parents : Kind → List Kind
  | any => []
  | flag => [number]
  | _ => [any]

/-- A kind and all that it comes under, the closest first. -/
def line : Kind → List Kind
  | any => [any]
  | flag => [flag, number, any]
  | k => [k, any]

def measures : Kind → Measures
  | text => { size := 80, marks := 273159424 }
  | kind => { size := 904, itemSize := 40, fieldsAt := 264, referencesAt := 368, marks := 2148031744 }
  | row => { size := 24, itemSize := 8, marks := 71849248 }
  | number => { size := 24, itemSize := 4, marks := 21501184 }
  | decimal => { size := 24, marks := 4723968 }
  | flag => { size := 32, itemSize := 4, marks := 21500160 }
  | list => { size := 40, marks := 38294816 }
  | nothing => { size := 16, marks := 528640 }
  | any => { size := 16, marks := 529664 }
  | method => { size := 56, marks := 678272 }
  | wrapper => { size := 56, marks := 676224 }
  | classMethod => { size := 56, marks := 545152 }
  | static => { size := 32, fieldsAt := 24, marks := 546048 }
  | property => { size := 48, marks := 545152 }
  | slot => { size := 48, marks := 545152 }
  | boundMethod => { size := 56, referencesAt := 40, marks := 547200 }
  | boundWrapper => { size := 32, marks := 545152 }
  | directory => { size := 24, marks := 545088 }
  | entries => { size := 48, marks := 541611328 }
  | narrowed => { size := 64, referencesAt := 40, marks := 548096 }

/-- How things of a kind are made, where that is known. -/
def signature? : Kind → Option String
  | row => some "(iterable=(), /)"
  | list => some "(iterable=(), /)"
  | decimal => some "(x=0, /)"
  | any => some "()"
  | _ => none

def summary? : Kind → Option String
  | text => some (
      "str(object='') -> str\n"
      ++ "str(bytes_or_buffer[, encoding[, errors]]) -> str\n\n"
      ++ "Create a new string object from the given object. If encoding or\n"
      ++ "errors is specified, then the object must expose a data buffer\n"
      ++ "that will be decoded using the given encoding and error handler.\n"
      ++ "Otherwise, returns the result of object.__str__() (if defined)\n"
      ++ "or repr(object).\nencoding defaults to sys.getdefaultencoding().\n"
      ++ "errors defaults to 'strict'.")
  | kind => some (
      "type(object) -> the object's type\n"
      ++ "type(name, bases, dict, **kwds) -> a new type")
  | row => some (
      "Built-in immutable sequence.\n\n"
      ++ "If no argument is given, the constructor returns an empty tuple.\n"
      ++ "If iterable is specified the tuple is initialized from iterable's items.\n"
      ++ "\nIf the argument is a tuple, the return value is the same object.")
  | number => some (
      "int([x]) -> integer\nint(x, base=10) -> integer\n\n"
      ++ "Convert a number or string to an integer, or return 0 if no arguments\n"
      ++ "are given.  If x is a number, return x.__int__().  For floating point\n"
      ++ "numbers, this truncates towards zero.\n\n"
      ++ "If x is not a number or if base is given, then x must be a string,\n"
      ++ "bytes, or bytearray instance representing an integer literal in the\n"
      ++ "given base.  The literal can be preceded by '+' or '-' and be surrounded\n"
      ++ "by whitespace.  The base defaults to 10.  Valid bases are 0 and 2-36.\n"
      ++ "Base 0 means to interpret the base from the string as an integer literal.\n"
      ++ ">>> int('0b100', base=0)\n4")
  | decimal => some "Convert a string or number to a floating point number, if possible."
  | list => some (
      "Built-in mutable sequence.\n\n"
      ++ "If no argument is given, the constructor creates a new empty list.\n"
      ++ "The argument must be an iterable if specified.")
  | any => some (
      "The base class of the class hierarchy.\n\n"
      ++ "When called, it accepts no arguments and returns a new featureless\n"
      ++ "instance that has no instance attributes and cannot be given any.\n")
  | flag => some (
      "bool(x) -> bool\n\n"
      ++ "Returns True when the argument x is true, False otherwise.\n"
      ++ "The builtins True and False are the only two instances of the class bool.\n"
      ++ "The class bool is a subclass of the class int, and cannot be subclassed.")
  | static => some (
      "staticmethod(function) -> method\n\n"
      ++ "Convert a function to be a static method.\n\n"
      ++ "A static method does not receive an implicit first argument.\n"
      ++ "To declare a static method, use this idiom:\n\n"
      ++ "     class C:\n         @staticmethod\n         def f(arg1, arg2, argN):\n             ...\n\n"
      ++ "It can be called either on the class (e.g. C.f()) or on an instance\n"
      ++ "(e.g. C().f()). Both the class and the instance are ignored, and\n"
      ++ "neither is passed implicitly as the first argument to the method.\n\n"
      ++ "Static methods in Python are similar to those found in Java or C++.\n"
      ++ "For a more advanced concept, see the classmethod builtin.")
  | entries => some (
      "dict() -> new empty dictionary\n"
      ++ "dict(mapping) -> new dictionary initialized from a mapping object's\n"
      ++ "    (key, value) pairs\n"
      ++ "dict(iterable) -> new dictionary initialized as if via:\n"
      ++ "    d = \x7b\x7d\n    for k, v in iterable:\n        d[k] = v\n"
      ++ "dict(**kwargs) -> new dictionary initialized with the name=value pairs\n"
      ++ "    in the keyword argument list.  For example:  dict(one=1, two=2)")
  | narrowed => some (
      "Represent a PEP 585 generic type\n\n"
      ++ "E.g. for t = list[int], t.__origin__ is list and t.__args__ is (int,).")
  | _ => none

/-! ### Members -/

def offers : Kind → List Offer
  | text => textOffers
  | kind => kindOffers
  | row => rowOffers
  | number => numberOffers
  | decimal => decimalOffers
  | flag => flagOffers
  | list => listOffers
  | nothing => nothingOffers
  | any => commonOffers
  | method => methodOffers
  | wrapper => wrapperOffers
  | classMethod => classMethodOffers
  | static => staticOffers
  | property => propertyOffers
  | slot => slotOffers
  | boundMethod => boundMethodOffers
  | boundWrapper => boundWrapperOffers
  | directory => directoryOffers
  | entries => entriesOffers
  | narrowed => narrowedOffers

end Kind

/-- What a kind offers under one name. -/
structure Member where
  owner : Kind
  offer : Offer
deriving DecidableEq, Repr

namespace Member

def sort (m : Member) : OfferSort := m.offer.sort

def name (m : Member) : String := m.offer.name

def own? (k : Kind) (name : String) : Option Member :=
  (k.offers.find? (·.name == name)).map fun o => ⟨k, o⟩

/-- What a kind offers under a name, be it by a kind that it comes under. -/
def find? (k : Kind) (name : String) : Option Member := k.line.findSome? (own? · name)

/-- A member that works out a value for every thing of its kind. -/
def isComputed (m : Member) : Bool := m.sort = .property || m.sort = .slot

def fullName (m : Member) : String := s!"{m.owner.shortName}.{m.name}"

def kindOf (m : Member) : Kind :=
  match m.sort with
  | .method => .method
  | .wrapper => .wrapper
  | .classMethod => .classMethod
  | .static => .static
  | .property => .property
  | .slot => .slot
  | .maker => .boundMethod
  | .constant => .nothing

def boundKind (m : Member) : Kind := if m.sort = .wrapper then .boundWrapper else .boundMethod

def shown (m : Member) : String :=
  let ofOwner (sort : String) := s!"<{sort} {Text.quoted m.name} of {Text.quoted m.owner.name} objects>"
  match m.sort with
  | .wrapper => ofOwner "slot wrapper"
  | .property => ofOwner "attribute"
  | .slot => ofOwner "member"
  | .static => s!"<staticmethod(<built-in method {m.name} of type object at 0x0>)>"
  | _ => ofOwner "method"

end Member
end Switchboard.Journal.Template
