import Mapsmith.Program.Library.Class

/-!
# The classes that need no import: the data

What the classes of the language hold, the failures apart.
-/

namespace Mapsmith.Program

/-- The classes of the language but for its failures. -/
def languageEntries : List LibraryEntry := [
  { cls := .builtin "bool", inherits := ["builtins.int"], hasLayout := true
    holdings := [(.slot, "__repr__ __and__ __rand__ __xor__ __rxor__ __or__ __ror__"),
      (.maker, "__new__")] },
  { cls := .builtin "bytearray", hasLayout := true
    holdings := [(.shared, "maketrans"),
      (.slot, "__repr__ __str__ __getattribute__ __lt__ __le__ __eq__ __ne__ __gt__ __ge__"),
      (.slot, "__iter__ __init__ __mod__ __rmod__ __len__ __getitem__ __setitem__"),
      (.slot, "__delitem__ __add__ __mul__ __rmul__ __contains__ __iadd__ __imul__"),
      (.method, "__alloc__ __reduce__ __reduce_ex__ __sizeof__ append capitalize center"),
      (.method, "clear copy count decode endswith expandtabs extend find hex index insert"),
      (.method, "isalnum isalpha isascii isdigit islower isspace istitle isupper join ljust"),
      (.method, "lower lstrip partition pop remove replace removeprefix removesuffix reverse"),
      (.method, "rfind rindex rjust rpartition rsplit rstrip split splitlines startswith"),
      (.method, "strip swapcase title translate upper zfill"), (.maker, "__new__ fromhex"),
      (.absent, "__hash__")] },
  { cls := .builtin "bytes", hasLayout := true
    holdings := [(.shared, "maketrans"),
      (.slot, "__repr__ __hash__ __str__ __getattribute__ __lt__ __le__ __eq__ __ne__ __gt__"),
      (.slot, "__ge__ __iter__ __mod__ __rmod__ __len__ __getitem__ __add__ __mul__ __rmul__"),
      (.slot, "__contains__"),
      (.method, "__getnewargs__ __bytes__ capitalize center count decode endswith expandtabs"),
      (.method, "find hex index isalnum isalpha isascii isdigit islower isspace istitle"),
      (.method, "isupper join ljust lower lstrip partition replace removeprefix removesuffix"),
      (.method, "rfind rindex rjust rpartition rsplit rstrip split splitlines startswith"),
      (.method, "strip swapcase title translate upper zfill"), (.maker, "__new__ fromhex")] },
  { cls := .builtin "classmethod", hasLayout := true
    holdings := [(.slot, "__repr__ __get__ __init__"), (.reader, "__isabstractmethod__ __dict__"),
      (.part, "__func__ __wrapped__"), (.maker, "__new__")] },
  { cls := .builtin "complex", hasLayout := true
    holdings := [
      (.slot, "__repr__ __hash__ __getattribute__ __lt__ __le__ __eq__ __ne__ __gt__ __ge__"),
      (.slot, "__add__ __radd__ __sub__ __rsub__ __mul__ __rmul__ __pow__ __rpow__ __neg__"),
      (.slot, "__pos__ __abs__ __bool__ __truediv__ __rtruediv__"),
      (.method, "conjugate __complex__ __getnewargs__ __format__"), (.part, "real imag"),
      (.maker, "__new__")] },
  { cls := .builtin "dict", hasLayout := true
    holdings := [
      (.slot, "__repr__ __getattribute__ __lt__ __le__ __eq__ __ne__ __gt__ __ge__ __iter__"),
      (.slot, "__init__ __or__ __ror__ __ior__ __len__ __setitem__ __delitem__"),
      (.method, "__getitem__ __contains__ __sizeof__ get setdefault pop popitem keys items"),
      (.method, "values update clear copy __reversed__"),
      (.maker, "__new__ fromkeys __class_getitem__"), (.absent, "__hash__")] },
  { cls := .builtin "enumerate", hasLayout := true
    holdings := [(.slot, "__getattribute__ __iter__ __next__"), (.method, "__reduce__"),
      (.maker, "__new__ __class_getitem__")] },
  { cls := .builtin "filter", hasLayout := true
    holdings := [(.slot, "__getattribute__ __iter__ __next__"), (.method, "__reduce__"),
      (.maker, "__new__")] },
  { cls := .builtin "float", hasLayout := true
    holdings := [
      (.slot, "__repr__ __hash__ __getattribute__ __lt__ __le__ __eq__ __ne__ __gt__ __ge__"),
      (.slot, "__add__ __radd__ __sub__ __rsub__ __mul__ __rmul__ __mod__ __rmod__"),
      (.slot, "__divmod__ __rdivmod__ __pow__ __rpow__ __neg__ __pos__ __abs__ __bool__"),
      (.slot, "__int__ __float__ __floordiv__ __rfloordiv__ __truediv__ __rtruediv__"),
      (.method, "conjugate __trunc__ __floor__ __ceil__ __round__ as_integer_ratio hex"),
      (.method, "is_integer __getnewargs__ __format__"), (.reader, "real imag"),
      (.maker, "__new__ fromhex __getformat__")] },
  { cls := .builtin "frozenset", hasLayout := true
    holdings := [
      (.slot, "__repr__ __hash__ __getattribute__ __lt__ __le__ __eq__ __ne__ __gt__ __ge__"),
      (.slot, "__iter__ __sub__ __rsub__ __and__ __rand__ __xor__ __rxor__ __or__ __ror__"),
      (.slot, "__len__"),
      (.method, "__contains__ copy difference intersection isdisjoint issubset issuperset"),
      (.method, "__reduce__ __sizeof__ symmetric_difference union"),
      (.maker, "__new__ __class_getitem__")] },
  { cls := .builtin "int", hasLayout := true
    holdings := [
      (.slot, "__repr__ __hash__ __getattribute__ __lt__ __le__ __eq__ __ne__ __gt__ __ge__"),
      (.slot, "__add__ __radd__ __sub__ __rsub__ __mul__ __rmul__ __mod__ __rmod__"),
      (.slot, "__divmod__ __rdivmod__ __pow__ __rpow__ __neg__ __pos__ __abs__ __bool__"),
      (.slot, "__invert__ __lshift__ __rlshift__ __rshift__ __rrshift__ __and__ __rand__"),
      (.slot, "__xor__ __rxor__ __or__ __ror__ __int__ __float__ __floordiv__ __rfloordiv__"),
      (.slot, "__truediv__ __rtruediv__ __index__"),
      (.method, "conjugate bit_length bit_count to_bytes as_integer_ratio __trunc__"),
      (.method, "__floor__ __ceil__ __round__ __getnewargs__ __format__ __sizeof__"),
      (.reader, "real imag numerator denominator"), (.maker, "__new__ from_bytes")] },
  { cls := .builtin "list", hasLayout := true
    holdings := [
      (.slot, "__repr__ __getattribute__ __lt__ __le__ __eq__ __ne__ __gt__ __ge__ __iter__"),
      (.slot, "__init__ __len__ __setitem__ __delitem__ __add__ __mul__ __rmul__"),
      (.slot, "__contains__ __iadd__ __imul__"),
      (.method, "__getitem__ __reversed__ __sizeof__ clear copy append insert extend pop"),
      (.method, "remove index count reverse sort"), (.maker, "__new__ __class_getitem__"),
      (.absent, "__hash__")] },
  { cls := .builtin "map", hasLayout := true
    holdings := [(.slot, "__getattribute__ __iter__ __next__"), (.method, "__reduce__"),
      (.maker, "__new__")] },
  { cls := .builtin "memoryview", hasLayout := true
    holdings := [
      (.slot, "__repr__ __hash__ __getattribute__ __lt__ __le__ __eq__ __ne__ __gt__ __ge__"),
      (.slot, "__iter__ __len__ __getitem__ __setitem__ __delitem__"),
      (.method, "release tobytes hex tolist cast toreadonly __enter__ __exit__"),
      (.reader, "obj nbytes readonly itemsize format ndim shape strides suboffsets"),
      (.reader, "c_contiguous f_contiguous contiguous"), (.maker, "__new__")] },
  { cls := .builtin "object"
    holdings := [
      (.slot, "__repr__ __hash__ __str__ __getattribute__ __setattr__ __delattr__ __lt__"),
      (.slot, "__le__ __eq__ __ne__ __gt__ __ge__ __init__"),
      (.method, "__reduce_ex__ __reduce__ __getstate__ __format__ __sizeof__ __dir__"),
      (.reader, "__class__"), (.maker, "__new__ __subclasshook__ __init_subclass__")] },
  { cls := .builtin "property", hasLayout := true
    holdings := [(.slot, "__getattribute__ __get__ __set__ __delete__ __init__"),
      (.method, "getter setter deleter __set_name__"), (.reader, "__isabstractmethod__"),
      (.part, "fget fset fdel"), (.maker, "__new__")] },
  { cls := .builtin "range", hasLayout := true
    holdings := [
      (.slot, "__repr__ __hash__ __getattribute__ __lt__ __le__ __eq__ __ne__ __gt__ __ge__"),
      (.slot, "__iter__ __bool__ __len__ __getitem__ __contains__"),
      (.method, "__reversed__ __reduce__ count index"), (.part, "start stop step"),
      (.maker, "__new__")] },
  { cls := .builtin "reversed", hasLayout := true
    holdings := [(.slot, "__getattribute__ __iter__ __next__"),
      (.method, "__length_hint__ __reduce__ __setstate__"), (.maker, "__new__")] },
  { cls := .builtin "set", hasLayout := true
    holdings := [
      (.slot, "__repr__ __getattribute__ __lt__ __le__ __eq__ __ne__ __gt__ __ge__ __iter__"),
      (.slot, "__init__ __sub__ __rsub__ __and__ __rand__ __xor__ __rxor__ __or__ __ror__"),
      (.slot, "__isub__ __iand__ __ixor__ __ior__ __len__"),
      (.method, "__contains__ add clear copy discard difference difference_update"),
      (.method, "intersection intersection_update isdisjoint issubset issuperset pop"),
      (.method, "__reduce__ remove __sizeof__ symmetric_difference"),
      (.method, "symmetric_difference_update union update"), (.maker, "__new__ __class_getitem__"),
      (.absent, "__hash__")] },
  { cls := .builtin "slice", hasLayout := true
    holdings := [(.slot, "__repr__ __getattribute__ __lt__ __le__ __eq__ __ne__ __gt__ __ge__"),
      (.method, "indices __reduce__"), (.part, "start stop step"), (.maker, "__new__"),
      (.absent, "__hash__")] },
  { cls := .builtin "staticmethod", hasLayout := true
    holdings := [(.slot, "__repr__ __call__ __get__ __init__"),
      (.reader, "__isabstractmethod__ __dict__"), (.part, "__func__ __wrapped__"),
      (.maker, "__new__")] },
  { cls := .builtin "str", hasLayout := true
    holdings := [(.shared, "maketrans"),
      (.slot, "__repr__ __hash__ __str__ __getattribute__ __lt__ __le__ __eq__ __ne__ __gt__"),
      (.slot, "__ge__ __iter__ __mod__ __rmod__ __len__ __getitem__ __add__ __mul__ __rmul__"),
      (.slot, "__contains__"),
      (.method, "encode replace split rsplit join capitalize casefold title center count"),
      (.method, "expandtabs find partition index ljust lower lstrip rfind rindex rjust"),
      (.method, "rstrip rpartition splitlines strip swapcase translate upper startswith"),
      (.method, "endswith removeprefix removesuffix isascii islower isupper istitle isspace"),
      (.method, "isdecimal isdigit isnumeric isalpha isalnum isidentifier isprintable zfill"),
      (.method, "format format_map __format__ __sizeof__ __getnewargs__"), (.maker, "__new__")] },
  { cls := .builtin "super", hasLayout := true
    holdings := [(.slot, "__repr__ __getattribute__ __get__ __init__"),
      (.part, "__thisclass__ __self__ __self_class__"), (.maker, "__new__")] },
  { cls := .builtin "tuple", hasLayout := true
    holdings := [
      (.slot, "__repr__ __hash__ __getattribute__ __lt__ __le__ __eq__ __ne__ __gt__ __ge__"),
      (.slot, "__iter__ __len__ __getitem__ __add__ __mul__ __rmul__ __contains__"),
      (.method, "__getnewargs__ index count"), (.maker, "__new__ __class_getitem__")] },
  { cls := .builtin "type", hasLayout := true
    holdings := [
      (.slot, "__repr__ __call__ __getattribute__ __setattr__ __delattr__ __init__ __or__"),
      (.slot, "__ror__"),
      (.method, "mro __subclasses__ __instancecheck__ __subclasscheck__ __dir__ __sizeof__"),
      (.reader, "__name__ __bases__ __dict__ __text_signature__ __annotations__"),
      (.part, "__basicsize__ __itemsize__ __flags__ __weakrefoffset__ __base__"),
      (.part, "__dictoffset__ __mro__"), (.maker, "__new__ __prepare__")] },
  { cls := .builtin "zip", hasLayout := true
    holdings := [(.slot, "__getattribute__ __iter__ __next__"),
      (.method, "__reduce__ __setstate__"), (.maker, "__new__")] },
  { cls := .builtin "NoneType"
    holdings := [(.slot, "__repr__ __bool__"), (.maker, "__new__")] }]

/-!
### The classes that no name is known for: the data

What the classes hold of which a program has values without a name for the class: views of tables,
functions and methods, and what goes through things.
-/

/-- What goes through the things of collections, by kind. -/
def iteratorKinds : List String :=
  Text.parts ' ' <|
    "list_iterator list_reverseiterator tuple_iterator range_iterator longrange_iterator set_iterator "
      ++ "dict_keyiterator dict_valueiterator dict_itemiterator dict_reversekeyiterator "
      ++ "dict_reversevalueiterator dict_reverseitemiterator bytes_iterator bytearray_iterator "
      ++ "str_iterator str_ascii_iterator odict_iterator callable_iterator iterator"

/-- What goes through the things of a collection of a kind. -/
def iteratorEntry (name : String) : LibraryEntry where
  cls := .builtin name
  holdings := [(.slot, "__getattribute__ __iter__ __next__"),
    (.method, if name ∈ ["odict_iterator", "callable_iterator"] then "__reduce__"
      else "__length_hint__ __reduce__")]
    ++ if name ∈ ["list_iterator", "tuple_iterator", "list_reverseiterator", "bytes_iterator", "range_iterator",
        "bytearray_iterator", "str_iterator", "str_ascii_iterator", "longrange_iterator", "iterator"] then
      [(.method, "__setstate__")] else []

/-- The classes of the language without a name. -/
def namelessEntries : List LibraryEntry := [
  { cls := .builtin "dict_keys"
    holdings := [
      (.slot, "__repr__ __getattribute__ __lt__ __le__ __eq__ __ne__ __gt__ __ge__"),
      (.slot, "__iter__ __sub__ __rsub__ __and__ __rand__ __xor__ __rxor__ __or__ __ror__"),
      (.slot, "__len__ __contains__"), (.method, "isdisjoint __reversed__"), (.reader, "mapping"),
      (.absent, "__hash__")] },
  { cls := .builtin "dict_values"
    holdings := [
      (.slot, "__repr__ __getattribute__ __iter__ __len__"), (.method, "__reversed__"),
      (.reader, "mapping")] },
  { cls := .builtin "dict_items"
    holdings := [
      (.slot, "__repr__ __getattribute__ __lt__ __le__ __eq__ __ne__ __gt__ __ge__"),
      (.slot, "__iter__ __sub__ __rsub__ __and__ __rand__ __xor__ __rxor__ __or__ __ror__"),
      (.slot, "__len__ __contains__"), (.method, "isdisjoint __reversed__"), (.reader, "mapping"),
      (.absent, "__hash__")] },
  { cls := .builtin "mappingproxy"
    holdings := [
      (.slot, "__repr__ __str__ __getattribute__ __lt__ __le__ __eq__ __ne__ __gt__ __ge__"),
      (.slot, "__iter__ __or__ __ror__ __ior__ __len__ __getitem__ __contains__"),
      (.method, "get keys values items copy __reversed__"), (.maker, "__new__ __class_getitem__"),
      (.absent, "__hash__")] },
  { cls := .builtin "generator"
    holdings := [
      (.slot, "__repr__ __getattribute__ __iter__ __next__ __del__"),
      (.method, "send throw close __sizeof__"),
      (.reader, "__name__ __qualname__ gi_yieldfrom gi_running gi_frame gi_suspended"),
      (.part, "gi_code")] },
  { cls := .builtin "function"
    holdings := [
      (.slot, "__repr__ __call__ __get__"),
      (.reader, "__code__ __defaults__ __kwdefaults__ __annotations__ __name__ __qualname__"),
      (.part, "__closure__ __globals__ __builtins__"), (.maker, "__new__")] },
  { cls := .builtin "builtin_function_or_method"
    holdings := [
      (.slot, "__repr__ __hash__ __call__ __getattribute__ __lt__ __le__ __eq__ __ne__"),
      (.slot, "__gt__ __ge__"), (.method, "__reduce__"),
      (.reader, "__name__ __qualname__ __self__ __text_signature__")] },
  { cls := .builtin "ellipsis"
    holdings := [
      (.slot, "__repr__ __getattribute__"), (.method, "__reduce__"), (.maker, "__new__")] },
  { cls := .builtin "NotImplementedType"
    holdings := [
      (.slot, "__repr__ __bool__"), (.method, "__reduce__"), (.maker, "__new__")] },
  { cls := .builtin "module"
    holdings := [
      (.slot, "__repr__ __getattribute__ __setattr__ __delattr__ __init__"), (.method, "__dir__"),
      (.reader, "__annotations__"), (.maker, "__new__")] },
  { cls := .builtin "method"
    holdings := [
      (.slot, "__repr__ __hash__ __call__ __getattribute__ __setattr__ __delattr__ __lt__"),
      (.slot, "__le__ __eq__ __ne__ __gt__ __ge__"), (.method, "__reduce__"),
      (.part, "__func__ __self__"), (.maker, "__new__")] },
  { cls := .builtin "code"
    holdings := [
      (.slot, "__repr__ __hash__ __getattribute__ __lt__ __le__ __eq__ __ne__ __gt__"),
      (.slot, "__ge__"),
      (.method, "__sizeof__ co_lines co_positions replace _varname_from_oparg"),
      (.reader, "co_lnotab _co_code_adaptive co_varnames co_cellvars co_freevars co_code"),
      (.part, "co_argcount co_posonlyargcount co_kwonlyargcount co_stacksize co_flags"),
      (.part, "co_nlocals co_consts co_names co_filename co_name co_qualname"),
      (.part, "co_firstlineno co_linetable co_exceptiontable"), (.maker, "__new__")] }]
  ++ iteratorKinds.map iteratorEntry

end Mapsmith.Program
