/-!
What kinds offer: members under names, each of a sort, with a signature and a summary where these are
known. Members that stand behind operators are the same wherever they are offered.
-/

namespace Switchboard.Journal.Template

inductive OfferSort where
  /-- Makes things of the kind. -/
  | maker
  /-- A method that is called by its name. -/
  | method
  /-- A method that stands behind an operator. -/
  | wrapper
  /-- A method of the kind itself. -/
  | classMethod
  /-- A function that is kept with the kind and knows nothing of it. -/
  | static
  /-- A property of the things of the kind. -/
  | property
  /-- A part of the things of the kind. -/
  | slot
  /-- What the kind says about itself. -/
  | constant
deriving DecidableEq, Repr

structure Offer where
  sort : OfferSort
  name : String
  signature? : Option String := none
  summary? : Option String := none
deriving DecidableEq, Repr

namespace Offer

/-- A method behind an operator. -/
structure Operator where
  name : String
  signature : String
  summary : String

def operators : List Operator := [
    ⟨"__repr__", "($self, /)", "Return repr(self)."⟩,
    ⟨"__hash__", "($self, /)", "Return hash(self)."⟩,
    ⟨"__str__", "($self, /)", "Return str(self)."⟩,
    ⟨"__getattribute__", "($self, name, /)", "Return getattr(self, name)."⟩,
    ⟨"__lt__", "($self, value, /)", "Return self<value."⟩,
    ⟨"__le__", "($self, value, /)", "Return self<=value."⟩,
    ⟨"__eq__", "($self, value, /)", "Return self==value."⟩,
    ⟨"__ne__", "($self, value, /)", "Return self!=value."⟩,
    ⟨"__gt__", "($self, value, /)", "Return self>value."⟩,
    ⟨"__ge__", "($self, value, /)", "Return self>=value."⟩,
    ⟨"__iter__", "($self, /)", "Implement iter(self)."⟩,
    ⟨"__mod__", "($self, value, /)", "Return self%value."⟩,
    ⟨"__rmod__", "($self, value, /)", "Return value%self."⟩,
    ⟨"__len__", "($self, /)", "Return len(self)."⟩,
    ⟨"__getitem__", "($self, key, /)", "Return self[key]."⟩,
    ⟨"__add__", "($self, value, /)", "Return self+value."⟩,
    ⟨"__mul__", "($self, value, /)", "Return self*value."⟩,
    ⟨"__rmul__", "($self, value, /)", "Return value*self."⟩,
    ⟨"__contains__", "($self, key, /)", "Return key in self."⟩,
    ⟨"__call__", "($self, /, *args, **kwargs)", "Call self as a function."⟩,
    ⟨"__setattr__", "($self, name, value, /)", "Implement setattr(self, name, value)."⟩,
    ⟨"__delattr__", "($self, name, /)", "Implement delattr(self, name)."⟩,
    ⟨"__init__", "($self, /, *args, **kwargs)",
      "Initialize self.  See help(type(self)) for accurate signature."⟩,
    ⟨"__or__", "($self, value, /)", "Return self|value."⟩,
    ⟨"__ror__", "($self, value, /)", "Return value|self."⟩,
    ⟨"__radd__", "($self, value, /)", "Return value+self."⟩,
    ⟨"__sub__", "($self, value, /)", "Return self-value."⟩,
    ⟨"__rsub__", "($self, value, /)", "Return value-self."⟩,
    ⟨"__divmod__", "($self, value, /)", "Return divmod(self, value)."⟩,
    ⟨"__rdivmod__", "($self, value, /)", "Return divmod(value, self)."⟩,
    ⟨"__pow__", "($self, value, mod=None, /)", "Return pow(self, value, mod)."⟩,
    ⟨"__rpow__", "($self, value, mod=None, /)", "Return pow(value, self, mod)."⟩,
    ⟨"__neg__", "($self, /)", "-self"⟩,
    ⟨"__pos__", "($self, /)", "+self"⟩,
    ⟨"__abs__", "($self, /)", "abs(self)"⟩,
    ⟨"__bool__", "($self, /)", "True if self else False"⟩,
    ⟨"__invert__", "($self, /)", "~self"⟩,
    ⟨"__lshift__", "($self, value, /)", "Return self<<value."⟩,
    ⟨"__rlshift__", "($self, value, /)", "Return value<<self."⟩,
    ⟨"__rshift__", "($self, value, /)", "Return self>>value."⟩,
    ⟨"__rrshift__", "($self, value, /)", "Return value>>self."⟩,
    ⟨"__and__", "($self, value, /)", "Return self&value."⟩,
    ⟨"__rand__", "($self, value, /)", "Return value&self."⟩,
    ⟨"__xor__", "($self, value, /)", "Return self^value."⟩,
    ⟨"__rxor__", "($self, value, /)", "Return value^self."⟩,
    ⟨"__int__", "($self, /)", "int(self)"⟩,
    ⟨"__float__", "($self, /)", "float(self)"⟩,
    ⟨"__floordiv__", "($self, value, /)", "Return self//value."⟩,
    ⟨"__rfloordiv__", "($self, value, /)", "Return value//self."⟩,
    ⟨"__truediv__", "($self, value, /)", "Return self/value."⟩,
    ⟨"__rtruediv__", "($self, value, /)", "Return value/self."⟩,
    ⟨"__index__", "($self, /)",
      "Return self converted to an integer, if self is suitable for use as an index into a "
      ++ "list."⟩,
    ⟨"__get__", "($self, instance, owner=None, /)",
      "Return an attribute of instance, which is of type owner."⟩,
    ⟨"__set__", "($self, instance, value, /)", "Set an attribute of instance to value."⟩,
    ⟨"__delete__", "($self, instance, /)", "Delete an attribute of instance."⟩,
    ⟨"__ior__", "($self, value, /)", "Return self|=value."⟩,
    ⟨"__iadd__", "($self, value, /)", "Implement self+=value."⟩,
    ⟨"__imul__", "($self, value, /)", "Implement self*=value."⟩,
    ⟨"__setitem__", "($self, key, value, /)", "Set self[key] to value."⟩,
    ⟨"__delitem__", "($self, key, /)", "Delete self[key]."⟩]

def wrapper (name : String) : Offer :=
  let known? := operators.find? (·.name == name)
  ⟨.wrapper, name, known?.map (·.signature), known?.map (·.summary)⟩

def wrappers (names : List String) : List Offer := names.map wrapper

def maker : Offer :=
  ⟨.maker, "__new__", some "($type, *args, **kwargs)",
    some "Create and return a new object.  See help(type) for accurate signature."⟩

def method (name : String) (signature? summary? : Option String := none) : Offer :=
  ⟨.method, name, signature?, summary?⟩

def classMethod (name : String) (signature? summary? : Option String := none) : Offer :=
  ⟨.classMethod, name, signature?, summary?⟩

def static (name : String) (signature? summary? : Option String := none) : Offer :=
  ⟨.static, name, signature?, summary?⟩

def property (name : String) (summary? : Option String := none) : Offer :=
  ⟨.property, name, none, summary?⟩

def properties (names : List String) : List Offer := names.map (property ·)

def slot (name : String) : Offer := ⟨.slot, name, none, none⟩

def slots (names : List String) : List Offer := names.map slot

def constant (name : String) : Offer := ⟨.constant, name, none, none⟩

end Offer
end Switchboard.Journal.Template
