import Switchboard.Journal.Template.Offer

/-!
What members of kinds and of single things offer.
-/

namespace Switchboard.Journal.Template

open Offer

def methodOffers : List Offer :=
  wrappers ["__repr__", "__call__", "__getattribute__", "__get__"]
  ++ [method "__reduce__"]
  ++ slots ["__objclass__", "__name__"]
  ++ properties ["__doc__", "__qualname__", "__text_signature__"]

def wrapperOffers : List Offer :=
  wrappers ["__repr__", "__call__", "__getattribute__", "__get__"]
  ++ [method "__reduce__"]
  ++ slots ["__objclass__", "__name__"]
  ++ properties ["__doc__", "__qualname__", "__text_signature__"]

def classMethodOffers : List Offer :=
  wrappers ["__repr__", "__call__", "__getattribute__", "__get__"]
  ++ slots ["__objclass__", "__name__"]
  ++ properties ["__doc__", "__qualname__", "__text_signature__"]

def staticOffers : List Offer :=
  [maker]
  ++ wrappers ["__repr__", "__call__", "__get__", "__init__"]
  ++ slots ["__func__", "__wrapped__"]
  ++ properties ["__isabstractmethod__", "__dict__"]
  ++ [constant "__doc__"]

def propertyOffers : List Offer :=
  wrappers ["__repr__", "__getattribute__", "__get__", "__set__", "__delete__"]
  ++ slots ["__objclass__", "__name__"]
  ++ properties ["__doc__", "__qualname__"]

def slotOffers : List Offer :=
  wrappers ["__repr__", "__getattribute__", "__get__", "__set__", "__delete__"]
  ++ [method "__reduce__"]
  ++ slots ["__objclass__", "__name__"]
  ++ properties ["__doc__", "__qualname__"]

def boundMethodOffers : List Offer :=
  wrappers ["__repr__", "__hash__", "__call__", "__getattribute__", "__lt__", "__le__",
      "__eq__", "__ne__", "__gt__", "__ge__"]
  ++ [method "__reduce__",
    slot "__module__"]
  ++ properties ["__doc__", "__name__", "__qualname__", "__self__", "__text_signature__"]

def boundWrapperOffers : List Offer :=
  wrappers ["__repr__", "__hash__", "__call__", "__getattribute__", "__lt__", "__le__",
      "__eq__", "__ne__", "__gt__", "__ge__"]
  ++ [method "__reduce__",
    slot "__self__"]
  ++ properties ["__objclass__", "__name__", "__qualname__", "__doc__", "__text_signature__"]

end Switchboard.Journal.Template
