import Switchboard.Journal.Template.Offer

/-!
What is offered by anything, by kinds, and by what holds other things.
-/

namespace Switchboard.Journal.Template

open Offer

def commonOffers : List Offer :=
  [maker]
  ++ wrappers ["__repr__", "__hash__", "__str__", "__getattribute__", "__setattr__",
      "__delattr__", "__lt__", "__le__", "__eq__", "__ne__", "__gt__", "__ge__", "__init__"]
  ++ [method "__reduce_ex__" (some "($self, protocol, /)") (some "Helper for pickle."),
    method "__reduce__" (some "($self, /)") (some "Helper for pickle."),
    method "__getstate__" (some "($self, /)") (some "Helper for pickle."),
    classMethod "__subclasshook__" none
      (some ("Abstract classes can override this to customize issubclass().\n\nThis is "
        ++ "invoked early on by abc.ABCMeta.__subclasscheck__().\nIt should return True, "
        ++ "False or NotImplemented.  If it returns\nNotImplemented, the normal algorithm is "
        ++ "used.  Otherwise, it\noverrides the normal algorithm (and the outcome is "
        ++ "cached).\n")),
    classMethod "__init_subclass__" none
      (some ("This method is called when a class is subclassed.\n\nThe default "
        ++ "implementation does nothing. It may be\noverridden to extend subclasses.\n")),
    method "__format__" (some "($self, format_spec, /)")
      (some "Default object formatter."),
    method "__sizeof__" (some "($self, /)") (some "Size of object in memory, in bytes."),
    method "__dir__" (some "($self, /)") (some "Default dir() implementation."),
    property "__class__" (some "the object's class"),
    constant "__doc__"]

def kindOffers : List Offer :=
  [maker]
  ++ wrappers ["__repr__", "__call__", "__getattribute__", "__setattr__", "__delattr__",
      "__init__", "__or__", "__ror__"]
  ++ [method "mro" (some "($self, /)") (some "Return a type's method resolution order."),
    method "__subclasses__" (some "($self, /)")
      (some "Return a list of immediate subclasses."),
    classMethod "__prepare__" none
      (some "__prepare__() -> dict\nused to create the namespace for the class statement"),
    method "__instancecheck__" (some "($self, instance, /)")
      (some "Check if an object is an instance."),
    method "__subclasscheck__" (some "($self, subclass, /)")
      (some "Check if a class is a subclass."),
    method "__dir__" (some "($self, /)")
      (some "Specialized __dir__ implementation for types."),
    method "__sizeof__" (some "($self, /)")
      (some "Return memory consumption of the type object.")]
  ++ slots ["__basicsize__", "__itemsize__", "__flags__", "__weakrefoffset__", "__base__",
      "__dictoffset__", "__mro__"]
  ++ properties ["__name__", "__qualname__", "__bases__", "__module__",
      "__abstractmethods__", "__dict__", "__doc__", "__text_signature__", "__annotations__"]

def rowOffers : List Offer :=
  [maker]
  ++ wrappers ["__repr__", "__hash__", "__getattribute__", "__lt__", "__le__", "__eq__",
      "__ne__", "__gt__", "__ge__", "__iter__", "__len__", "__getitem__", "__add__", "__mul__",
      "__rmul__", "__contains__"]
  ++ [method "__getnewargs__" (some "($self, /)"),
    method "index" (some "($self, value, start=0, stop=sys.maxsize, /)")
      (some "Return first index of value.\n\nRaises ValueError if the value is not present."),
    method "count" (some "($self, value, /)")
      (some "Return number of occurrences of value."),
    classMethod "__class_getitem__" none (some "See PEP 585"),
    constant "__doc__"]

def directoryOffers : List Offer :=
  [maker]
  ++ wrappers ["__repr__", "__str__", "__getattribute__", "__lt__", "__le__", "__eq__",
      "__ne__", "__gt__", "__ge__", "__iter__", "__or__", "__ror__", "__ior__", "__len__",
      "__getitem__", "__contains__"]
  ++ [method "get" none
      (some "D.get(k[,d]) -> D[k] if k in D, else d.  d defaults to None."),
    method "keys" none (some "D.keys() -> a set-like object providing a view on D's keys"),
    method "values" none (some "D.values() -> an object providing a view on D's values"),
    method "items" none
      (some "D.items() -> a set-like object providing a view on D's items"),
    method "copy" none (some "D.copy() -> a shallow copy of D"),
    classMethod "__class_getitem__" none (some "See PEP 585"),
    method "__reversed__" none (some "D.__reversed__() -> reverse iterator"),
    constant "__doc__",
    constant "__hash__"]

def entriesOffers : List Offer :=
  [maker]
  ++ wrappers ["__repr__"]
  ++ [constant "__hash__"]
  ++ wrappers ["__getattribute__", "__lt__", "__le__", "__eq__", "__ne__", "__gt__", "__ge__",
      "__iter__", "__init__", "__or__", "__ror__", "__ior__", "__len__"]
  ++ [method "__getitem__" none (some "x.__getitem__(y) <==> x[y]")]
  ++ wrappers ["__setitem__", "__delitem__"]
  ++ [method "__contains__" (some "($self, key, /)")
      (some "True if the dictionary has the specified key, else False."),
    method "__sizeof__" none (some "D.__sizeof__() -> size of D in memory, in bytes"),
    method "get" (some "($self, key, default=None, /)")
      (some "Return the value for key if key is in the dictionary, else default."),
    method "setdefault" (some "($self, key, default=None, /)")
      (some ("Insert key with a value of default if key is not in the dictionary.\n\nReturn "
        ++ "the value for key if key is in the dictionary, else default.")),
    method "pop" (some "($self, key, default=<unrepresentable>, /)")
      (some ("D.pop(k[,d]) -> v, remove specified key and return the corresponding "
        ++ "value.\n\nIf the key is not found, return the default if given; otherwise,\nraise "
        ++ "a KeyError.")),
    method "popitem" (some "($self, /)")
      (some ("Remove and return a (key, value) pair as a 2-tuple.\n\nPairs are returned in "
        ++ "LIFO (last-in, first-out) order.\nRaises KeyError if the dict is empty.")),
    method "keys" none (some "D.keys() -> a set-like object providing a view on D's keys"),
    method "items" none
      (some "D.items() -> a set-like object providing a view on D's items"),
    method "values" none (some "D.values() -> an object providing a view on D's values"),
    method "update" none
      (some ("D.update([E, ]**F) -> None.  Update D from dict/iterable E and F.\nIf E is "
        ++ "present and has a .keys() method, then does:  for k in E: D[k] = E[k]\nIf E is "
        ++ "present and lacks a .keys() method, then does:  for k, v in E: D[k] = v\nIn "
        ++ "either case, this is followed by: for k in F:  D[k] = F[k]")),
    classMethod "fromkeys" (some "($type, iterable, value=None, /)")
      (some "Create a new dictionary with keys from iterable and values set to value."),
    method "clear" none (some "D.clear() -> None.  Remove all items from D."),
    method "copy" none (some "D.copy() -> a shallow copy of D"),
    method "__reversed__" (some "($self, /)")
      (some "Return a reverse iterator over the dict keys."),
    classMethod "__class_getitem__" none (some "See PEP 585"),
    constant "__doc__"]

def listOffers : List Offer :=
  [maker]
  ++ wrappers ["__repr__"]
  ++ [constant "__hash__"]
  ++ wrappers ["__getattribute__", "__lt__", "__le__", "__eq__", "__ne__", "__gt__", "__ge__",
      "__iter__", "__init__", "__len__"]
  ++ [method "__getitem__" none
      (some "x.__getitem__(y) <==> x[y]")]
  ++ wrappers ["__setitem__", "__delitem__", "__add__", "__mul__", "__rmul__", "__contains__",
      "__iadd__", "__imul__"]
  ++ [method "__reversed__" (some "($self, /)")
      (some "Return a reverse iterator over the list."),
    method "__sizeof__" (some "($self, /)")
      (some "Return the size of the list in memory, in bytes."),
    method "clear" (some "($self, /)")
      (some "Remove all items from list."),
    method "copy" (some "($self, /)")
      (some "Return a shallow copy of the list."),
    method "append" (some "($self, object, /)")
      (some "Append object to the end of the list."),
    method "insert" (some "($self, index, object, /)")
      (some "Insert object before index."),
    method "extend" (some "($self, iterable, /)")
      (some "Extend list by appending elements from the iterable."),
    method "pop" (some "($self, index=-1, /)")
      (some ("Remove and return item at index (default last).\n\nRaises IndexError if "
        ++ "list is empty or index is out of range.")),
    method "remove" (some "($self, value, /)")
      (some ("Remove first occurrence of value.\n\nRaises ValueError if the value is "
        ++ "not present.")),
    method "index" (some "($self, value, start=0, stop=sys.maxsize, /)")
      (some "Return first index of value.\n\nRaises ValueError if the value is not present."),
    method "count" (some "($self, value, /)")
      (some "Return number of occurrences of value."),
    method "reverse" (some "($self, /)")
      (some "Reverse *IN PLACE*."),
    method "sort" (some "($self, /, *, key=None, reverse=False)")
      (some ("Sort the list in ascending order and return None.\n\nThe sort is in-place "
        ++ "(i.e. the list itself is modified) and stable (i.e. the\norder of two "
        ++ "equal elements is maintained).\n\nIf a key function is given, apply it "
        ++ "once to each list item and sort them,\nascending or descending, according "
        ++ "to their function values.\n\nThe reverse flag can be set to sort in "
        ++ "descending order.")),
    classMethod "__class_getitem__" none
      (some "See PEP 585"),
    constant "__doc__"]

def narrowedOffers : List Offer :=
  [maker]
  ++ wrappers ["__repr__", "__hash__", "__call__", "__getattribute__", "__lt__", "__le__",
      "__eq__", "__ne__", "__gt__", "__ge__", "__iter__", "__or__", "__ror__", "__getitem__"]
  ++ [method "__mro_entries__",
    method "__instancecheck__",
    method "__subclasscheck__",
    method "__reduce__",
    method "__dir__"]
  ++ slots ["__origin__", "__args__", "__unpacked__"]
  ++ [property "__parameters__" (some "Type variables in the GenericAlias."),
    property "__typing_unpacked_tuple_args__",
    constant "__doc__"]

def nothingOffers : List Offer :=
  [maker]
  ++ wrappers ["__repr__", "__bool__"]
  ++ [constant "__doc__"]

end Switchboard.Journal.Template
