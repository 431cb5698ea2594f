import Switchboard.Journal.Template.Offer

/-!
What numbers, decimals and flags offer.
-/

namespace Switchboard.Journal.Template

open Offer

def numberOffers : List Offer :=
  [maker]
  ++ wrappers ["__repr__", "__hash__", "__getattribute__", "__lt__", "__le__", "__eq__",
      "__ne__", "__gt__", "__ge__", "__add__", "__radd__", "__sub__", "__rsub__", "__mul__",
      "__rmul__", "__mod__", "__rmod__", "__divmod__", "__rdivmod__", "__pow__", "__rpow__",
      "__neg__", "__pos__", "__abs__", "__bool__", "__invert__", "__lshift__", "__rlshift__",
      "__rshift__", "__rrshift__", "__and__", "__rand__", "__xor__", "__rxor__", "__or__",
      "__ror__", "__int__", "__float__", "__floordiv__", "__rfloordiv__", "__truediv__",
      "__rtruediv__", "__index__"]
  ++ [method "conjugate" none (some "Returns self, the complex conjugate of any int."),
    method "bit_length" (some "($self, /)")
      (some ("Number of bits necessary to represent self in binary.\n\n>>> bin(37)\n"
        ++ "'0b100101'\n>>> (37).bit_length()\n6")),
    method "bit_count" (some "($self, /)")
      (some ("Number of ones in the binary representation of the absolute value of self.\n\n"
        ++ "Also known as the population count.\n\n>>> bin(13)\n'0b1101'\n>>> "
        ++ "(13).bit_count()\n3")),
    method "to_bytes" (some "($self, /, length=1, byteorder='big', *, signed=False)")
      (some ("Return an array of bytes representing an integer.\n\n  length\n    Length of "
        ++ "bytes object to use.  An OverflowError is raised if the\n    integer is not "
        ++ "representable with the given number of bytes.  Default\n    is length 1.\n  "
        ++ "byteorder\n    The byte order used to represent the integer.  If byteorder is "
        ++ "'big',\n    the most significant byte is at the beginning of the byte array.  If\n"
        ++ "    byteorder is 'little', the most significant byte is at the end of the\n    "
        ++ "byte array.  To request the native byte order of the host system, use\n    "
        ++ "\x60sys.byteorder' as the byte order value.  Default is to use 'big'.\n  signed\n"
        ++ "    Determines whether two's complement is used to represent the integer.\n    If "
        ++ "signed is False and a negative integer is given, an OverflowError\n    is raised.")),
    classMethod "from_bytes" (some "($type, /, bytes, byteorder='big', *, signed=False)")
      (some ("Return the integer represented by the given array of bytes.\n\n  bytes\n    "
        ++ "Holds the array of bytes to convert.  The argument must either\n    support the "
        ++ "buffer protocol or be an iterable object producing bytes.\n    Bytes and "
        ++ "bytearray are examples of built-in objects that support the\n    buffer "
        ++ "protocol.\n  byteorder\n    The byte order used to represent the integer.  If "
        ++ "byteorder is 'big',\n    the most significant byte is at the beginning of the "
        ++ "byte array.  If\n    byteorder is 'little', the most significant byte is at the "
        ++ "end of the\n    byte array.  To request the native byte order of the host system, "
        ++ "use\n    \x60sys.byteorder' as the byte order value.  Default is to use 'big'.\n  "
        ++ "signed\n    Indicates whether two's complement is used to represent the integer.")),
    method "as_integer_ratio" (some "($self, /)")
      (some ("Return integer ratio.\n\nReturn a pair of integers, whose ratio is exactly "
        ++ "equal to the original int\nand with a positive denominator.\n\n>>> "
        ++ "(10).as_integer_ratio()\n(10, 1)\n>>> (-10).as_integer_ratio()\n(-10, 1)\n>>> "
        ++ "(0).as_integer_ratio()\n(0, 1)")),
    method "__trunc__" none (some "Truncating an Integral returns itself."),
    method "__floor__" none (some "Flooring an Integral returns itself."),
    method "__ceil__" none (some "Ceiling of an Integral returns itself."),
    method "__round__" (some "($self, ndigits=<unrepresentable>, /)")
      (some ("Rounding an Integral returns itself.\n\nRounding with an ndigits argument "
        ++ "also returns an integer.")),
    method "__getnewargs__" (some "($self, /)"),
    method "__format__" (some "($self, format_spec, /)"),
    method "__sizeof__" (some "($self, /)") (some "Returns size in memory, in bytes."),
    property "real" (some "the real part of a complex number"),
    property "imag" (some "the imaginary part of a complex number"),
    property "numerator" (some "the numerator of a rational number in lowest terms"),
    property "denominator" (some "the denominator of a rational number in lowest terms"),
    constant "__doc__"]

def decimalOffers : List Offer :=
  [maker]
  ++ wrappers ["__repr__", "__hash__", "__getattribute__", "__lt__", "__le__", "__eq__",
      "__ne__", "__gt__", "__ge__", "__add__", "__radd__", "__sub__", "__rsub__", "__mul__",
      "__rmul__", "__mod__", "__rmod__", "__divmod__", "__rdivmod__", "__pow__", "__rpow__",
      "__neg__", "__pos__", "__abs__", "__bool__", "__int__", "__float__", "__floordiv__",
      "__rfloordiv__", "__truediv__", "__rtruediv__"]
  ++ [method "conjugate" (some "($self, /)")
      (some "Return self, the complex conjugate of any float."),
    method "__trunc__" (some "($self, /)")
      (some "Return the Integral closest to x between 0 and x."),
    method "__floor__" (some "($self, /)")
      (some "Return the floor as an Integral."),
    method "__ceil__" (some "($self, /)")
      (some "Return the ceiling as an Integral."),
    method "__round__" (some "($self, ndigits=None, /)")
      (some ("Return the Integral closest to x, rounding half toward even.\n\nWhen an "
        ++ "argument is passed, work like built-in round(x, ndigits).")),
    method "as_integer_ratio" (some "($self, /)")
      (some ("Return integer ratio.\n\nReturn a pair of integers, whose ratio is "
        ++ "exactly equal to the original float\nand with a positive "
        ++ "denominator.\n\nRaise OverflowError on infinities and a ValueError on "
        ++ "NaNs.\n\n>>> (10.0).as_integer_ratio()\n(10, 1)\n>>> "
        ++ "(0.0).as_integer_ratio()\n(0, 1)\n>>> (-.25).as_integer_ratio()\n(-1, 4)")),
    classMethod "fromhex" (some "($type, string, /)")
      (some ("Create a floating-point number from a hexadecimal string.\n\n>>> "
        ++ "float.fromhex('0x1.ffffp10')\n2047.984375\n>>> "
        ++ "float.fromhex('-0x1p-1074')\n-5e-324")),
    method "hex" (some "($self, /)")
      (some ("Return a hexadecimal representation of a floating-point number.\n\n>>> "
        ++ "(-0.1).hex()\n'-0x1.999999999999ap-4'\n>>> "
        ++ "3.14159.hex()\n'0x1.921f9f01b866ep+1'")),
    method "is_integer" (some "($self, /)")
      (some "Return True if the float is an integer."),
    method "__getnewargs__" (some "($self, /)"),
    classMethod "__getformat__" (some "($type, typestr, /)")
      (some ("You probably don't want to use this function.\n\n  typestr\n    Must be "
        ++ "'double' or 'float'.\n\nIt exists mainly to be used in Python's test "
        ++ "suite.\n\nThis function returns whichever of 'unknown', 'IEEE, "
        ++ "big-endian' or 'IEEE,\nlittle-endian' best describes the format of "
        ++ "floating point numbers used by the\nC type named by typestr.")),
    method "__format__" (some "($self, format_spec, /)")
      (some "Formats the float according to format_spec."),
    property "real" (some "the real part of a complex number"),
    property "imag" (some "the imaginary part of a complex number"),
    constant "__doc__"]

def flagOffers : List Offer :=
  [maker]
  ++ wrappers ["__repr__", "__and__", "__rand__", "__xor__", "__rxor__", "__or__", "__ror__"]
  ++ [constant "__doc__"]

end Switchboard.Journal.Template
