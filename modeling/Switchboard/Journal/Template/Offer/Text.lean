import Switchboard.Journal.Template.Offer

/-!
What texts offer.
-/

namespace Switchboard.Journal.Template

open Offer

def textOffers : List Offer :=
  [maker]
  ++ wrappers ["__repr__", "__hash__", "__str__", "__getattribute__", "__lt__", "__le__",
      "__eq__", "__ne__", "__gt__", "__ge__", "__iter__", "__mod__", "__rmod__", "__len__",
      "__getitem__", "__add__", "__mul__", "__rmul__", "__contains__"]
  ++ [method "encode" (some "($self, /, encoding='utf-8', errors='strict')")
      (some ("Encode the string using the codec registered for encoding.\n\n  encoding\n    "
        ++ "The encoding in which to encode the string.\n  errors\n    The error handling "
        ++ "scheme to use for encoding errors.\n    The default is 'strict' meaning that "
        ++ "encoding errors raise a\n    UnicodeEncodeError.  Other possible values are "
        ++ "'ignore', 'replace' and\n    'xmlcharrefreplace' as well as any other name "
        ++ "registered with\n    codecs.register_error that can handle UnicodeEncodeErrors.")),
    method "replace" (some "($self, old, new, count=-1, /)")
      (some ("Return a copy with all occurrences of substring old replaced by new.\n\n  "
        ++ "count\n    Maximum number of occurrences to replace.\n    -1 (the default value) "
        ++ "means replace all occurrences.\n\nIf the optional argument count is given, only "
        ++ "the first count occurrences are\nreplaced.")),
    method "split" (some "($self, /, sep=None, maxsplit=-1)")
      (some ("Return a list of the substrings in the string, using sep as the separator "
        ++ "string.\n\n  sep\n    The separator used to split the string.\n\n    When set to "
        ++ "None (the default value), will split on any whitespace\n    character (including "
        ++ "\\n \\r \\t \\f and spaces) and will discard\n    empty strings from the result.\n"
        ++ "  maxsplit\n    Maximum number of splits.\n    -1 (the default value) means no "
        ++ "limit.\n\nSplitting starts at the front of the string and works to the end.\n\n"
        ++ "Note, str.split() is mainly useful for data that has been intentionally\n"
        ++ "delimited.  With natural text that includes punctuation, consider using\nthe "
        ++ "regular expression module.")),
    method "rsplit" (some "($self, /, sep=None, maxsplit=-1)")
      (some ("Return a list of the substrings in the string, using sep as the separator "
        ++ "string.\n\n  sep\n    The separator used to split the string.\n\n    When set to "
        ++ "None (the default value), will split on any whitespace\n    character (including "
        ++ "\\n \\r \\t \\f and spaces) and will discard\n    empty strings from the result.\n"
        ++ "  maxsplit\n    Maximum number of splits.\n    -1 (the default value) means no "
        ++ "limit.\n\nSplitting starts at the end of the string and works to the front.")),
    method "join" (some "($self, iterable, /)")
      (some ("Concatenate any number of strings.\n\nThe string whose method is called is "
        ++ "inserted in between each given string.\nThe result is returned as a new "
        ++ "string.\n\nExample: '.'.join(['ab', 'pq', 'rs']) -> 'ab.pq.rs'")),
    method "capitalize" (some "($self, /)")
      (some ("Return a capitalized version of the string.\n\nMore specifically, make the "
        ++ "first character have upper case and the rest lower\ncase.")),
    method "casefold" (some "($self, /)")
      (some "Return a version of the string suitable for caseless comparisons."),
    method "title" (some "($self, /)")
      (some ("Return a version of the string where each word is titlecased.\n\nMore "
        ++ "specifically, words start with uppercased characters and all remaining\ncased "
        ++ "characters have lower case.")),
    method "center" (some "($self, width, fillchar=' ', /)")
      (some ("Return a centered string of length width.\n\nPadding is done using the "
        ++ "specified fill character (default is a space).")),
    method "count" none
      (some ("S.count(sub[, start[, end]]) -> int\n\nReturn the number of non-overlapping "
        ++ "occurrences of substring sub in\nstring S[start:end].  Optional arguments start "
        ++ "and end are\ninterpreted as in slice notation.")),
    method "expandtabs" (some "($self, /, tabsize=8)")
      (some ("Return a copy where all tab characters are expanded using spaces.\n\nIf "
        ++ "tabsize is not given, a tab size of 8 characters is assumed.")),
    method "find" none
      (some ("S.find(sub[, start[, end]]) -> int\n\nReturn the lowest index in S where "
        ++ "substring sub is found,\nsuch that sub is contained within S[start:end].  "
        ++ "Optional\narguments start and end are interpreted as in slice notation.\n\nReturn "
        ++ "-1 on failure.")),
    method "partition" (some "($self, sep, /)")
      (some ("Partition the string into three parts using the given separator.\n\nThis will "
        ++ "search for the separator in the string.  If the separator is found,\nreturns a "
        ++ "3-tuple containing the part before the separator, the separator\nitself, and the "
        ++ "part after it.\n\nIf the separator is not found, returns a 3-tuple containing the "
        ++ "original string\nand two empty strings.")),
    method "index" none
      (some ("S.index(sub[, start[, end]]) -> int\n\nReturn the lowest index in S where "
        ++ "substring sub is found,\nsuch that sub is contained within S[start:end].  "
        ++ "Optional\narguments start and end are interpreted as in slice notation.\n\nRaises "
        ++ "ValueError when the substring is not found.")),
    method "ljust" (some "($self, width, fillchar=' ', /)")
      (some ("Return a left-justified string of length width.\n\nPadding is done using the "
        ++ "specified fill character (default is a space).")),
    method "lower" (some "($self, /)")
      (some "Return a copy of the string converted to lowercase."),
    method "lstrip" (some "($self, chars=None, /)")
      (some ("Return a copy of the string with leading whitespace removed.\n\nIf chars is "
        ++ "given and not None, remove characters in chars instead.")),
    method "rfind" none
      (some ("S.rfind(sub[, start[, end]]) -> int\n\nReturn the highest index in S where "
        ++ "substring sub is found,\nsuch that sub is contained within S[start:end].  "
        ++ "Optional\narguments start and end are interpreted as in slice notation.\n\nReturn "
        ++ "-1 on failure.")),
    method "rindex" none
      (some ("S.rindex(sub[, start[, end]]) -> int\n\nReturn the highest index in S where "
        ++ "substring sub is found,\nsuch that sub is contained within S[start:end].  "
        ++ "Optional\narguments start and end are interpreted as in slice notation.\n\nRaises "
        ++ "ValueError when the substring is not found.")),
    method "rjust" (some "($self, width, fillchar=' ', /)")
      (some ("Return a right-justified string of length width.\n\nPadding is done using the "
        ++ "specified fill character (default is a space).")),
    method "rstrip" (some "($self, chars=None, /)")
      (some ("Return a copy of the string with trailing whitespace removed.\n\nIf chars is "
        ++ "given and not None, remove characters in chars instead.")),
    method "rpartition" (some "($self, sep, /)")
      (some ("Partition the string into three parts using the given separator.\n\nThis will "
        ++ "search for the separator in the string, starting at the end. If\nthe separator is "
        ++ "found, returns a 3-tuple containing the part before the\nseparator, the separator "
        ++ "itself, and the part after it.\n\nIf the separator is not found, returns a "
        ++ "3-tuple containing two empty strings\nand the original string.")),
    method "splitlines" (some "($self, /, keepends=False)")
      (some ("Return a list of the lines in the string, breaking at line boundaries.\n\n"
        ++ "Line breaks are not included in the resulting list unless keepends is given and\n"
        ++ "true.")),
    method "strip" (some "($self, chars=None, /)")
      (some ("Return a copy of the string with leading and trailing whitespace removed.\n\n"
        ++ "If chars is given and not None, remove characters in chars instead.")),
    method "swapcase" (some "($self, /)")
      (some ("Convert uppercase characters to lowercase and lowercase characters to "
        ++ "uppercase.")),
    method "translate" (some "($self, table, /)")
      (some ("Replace each character in the string using the given translation table.\n\n  "
        ++ "table\n    Translation table, which must be a mapping of Unicode ordinals to\n    "
        ++ "Unicode ordinals, strings, or None.\n\nThe table must implement lookup/indexing "
        ++ "via __getitem__, for instance a\ndictionary or list.  If this operation raises "
        ++ "LookupError, the character is\nleft untouched.  Characters mapped to None are "
        ++ "deleted.")),
    method "upper" (some "($self, /)")
      (some "Return a copy of the string converted to uppercase."),
    method "startswith" none
      (some ("S.startswith(prefix[, start[, end]]) -> bool\n\nReturn True if S starts with "
        ++ "the specified prefix, False otherwise.\nWith optional start, test S beginning at "
        ++ "that position.\nWith optional end, stop comparing S at that position.\nprefix can "
        ++ "also be a tuple of strings to try.")),
    method "endswith" none
      (some ("S.endswith(suffix[, start[, end]]) -> bool\n\nReturn True if S ends with the "
        ++ "specified suffix, False otherwise.\nWith optional start, test S beginning at that "
        ++ "position.\nWith optional end, stop comparing S at that position.\nsuffix can also "
        ++ "be a tuple of strings to try.")),
    method "removeprefix" (some "($self, prefix, /)")
      (some ("Return a str with the given prefix string removed if present.\n\nIf the "
        ++ "string starts with the prefix string, return string[len(prefix):].\nOtherwise, "
        ++ "return a copy of the original string.")),
    method "removesuffix" (some "($self, suffix, /)")
      (some ("Return a str with the given suffix string removed if present.\n\nIf the "
        ++ "string ends with the suffix string and that suffix is not empty,\nreturn "
        ++ "string[:-len(suffix)]. Otherwise, return a copy of the original\nstring.")),
    method "isascii" (some "($self, /)")
      (some ("Return True if all characters in the string are ASCII, False otherwise.\n\n"
        ++ "ASCII characters have code points in the range U+0000-U+007F.\nEmpty string is "
        ++ "ASCII too.")),
    method "islower" (some "($self, /)")
      (some ("Return True if the string is a lowercase string, False otherwise.\n\nA string "
        ++ "is lowercase if all cased characters in the string are lowercase and\nthere is at "
        ++ "least one cased character in the string.")),
    method "isupper" (some "($self, /)")
      (some ("Return True if the string is an uppercase string, False otherwise.\n\nA "
        ++ "string is uppercase if all cased characters in the string are uppercase and\n"
        ++ "there is at least one cased character in the string.")),
    method "istitle" (some "($self, /)")
      (some ("Return True if the string is a title-cased string, False otherwise.\n\nIn a "
        ++ "title-cased string, upper- and title-case characters may only\nfollow uncased "
        ++ "characters and lowercase characters only cased ones.")),
    method "isspace" (some "($self, /)")
      (some ("Return True if the string is a whitespace string, False otherwise.\n\nA "
        ++ "string is whitespace if all characters in the string are whitespace and there\nis "
        ++ "at least one character in the string.")),
    method "isdecimal" (some "($self, /)")
      (some ("Return True if the string is a decimal string, False otherwise.\n\nA string "
        ++ "is a decimal string if all characters in the string are decimal and\nthere is at "
        ++ "least one character in the string.")),
    method "isdigit" (some "($self, /)")
      (some ("Return True if the string is a digit string, False otherwise.\n\nA string is "
        ++ "a digit string if all characters in the string are digits and there\nis at least "
        ++ "one character in the string.")),
    method "isnumeric" (some "($self, /)")
      (some ("Return True if the string is a numeric string, False otherwise.\n\nA string "
        ++ "is numeric if all characters in the string are numeric and there is at\nleast one "
        ++ "character in the string.")),
    method "isalpha" (some "($self, /)")
      (some ("Return True if the string is an alphabetic string, False otherwise.\n\nA "
        ++ "string is alphabetic if all characters in the string are alphabetic and there\nis "
        ++ "at least one character in the string.")),
    method "isalnum" (some "($self, /)")
      (some ("Return True if the string is an alpha-numeric string, False otherwise.\n\nA "
        ++ "string is alpha-numeric if all characters in the string are alpha-numeric and\n"
        ++ "there is at least one character in the string.")),
    method "isidentifier" (some "($self, /)")
      (some ("Return True if the string is a valid Python identifier, False otherwise.\n\n"
        ++ "Call keyword.iskeyword(s) to test whether string s is a reserved identifier,\n"
        ++ "such as \"def\" or \"class\".")),
    method "isprintable" (some "($self, /)")
      (some ("Return True if the string is printable, False otherwise.\n\nA string is "
        ++ "printable if all of its characters are considered printable in\nrepr() or if it "
        ++ "is empty.")),
    method "zfill" (some "($self, width, /)")
      (some ("Pad a numeric string with zeros on the left, to fill a field of the given "
        ++ "width.\n\nThe string is never truncated.")),
    method "format" none
      (some ("S.format(*args, **kwargs) -> str\n\nReturn a formatted version of S, using "
        ++ "substitutions from args and kwargs.\nThe substitutions are identified by braces "
        ++ "('\x7b' and '\x7d').")),
    method "format_map" none
      (some ("S.format_map(mapping) -> str\n\nReturn a formatted version of S, using "
        ++ "substitutions from mapping.\nThe substitutions are identified by braces ('\x7b' "
        ++ "and '\x7d').")),
    method "__format__" (some "($self, format_spec, /)")
      (some "Return a formatted version of the string as described by format_spec."),
    static "maketrans" (some "(x, y=<unrepresentable>, z=<unrepresentable>, /)")
      (some ("Return a translation table usable for str.translate().\n\nIf there is only "
        ++ "one argument, it must be a dictionary mapping Unicode\nordinals (integers) or "
        ++ "characters to Unicode ordinals, strings or None.\nCharacter keys will be then "
        ++ "converted to ordinals.\nIf there are two arguments, they must be strings of equal "
        ++ "length, and\nin the resulting dictionary, each character in x will be mapped to "
        ++ "the\ncharacter at the same position in y. If there is a third argument, it\nmust "
        ++ "be a string, whose characters will be mapped to None in the result.")),
    method "__sizeof__" (some "($self, /)")
      (some "Return the size of the string in memory, in bytes."),
    method "__getnewargs__",
    constant "__doc__"]

end Switchboard.Journal.Template
