import Mapsmith.Program.Library.Class

/-!
# How things are called: the data

In which way a method or a function of the library takes what it is given: nothing, one thing, things in their
places, or things that can also be given under names. What a call that does not fit is told depends on the way.
-/

namespace Mapsmith.Program

/-- A way in which something takes what it is given. -/
inductive Convention
  /-- It takes nothing. -/
  | nothing
  /-- It takes one thing. -/
  | one
  /-- It takes from so many things to so many, in their places. -/
  | places (least most : Nat)
  /-- It takes from so many things to so many, in their places, and says so in another way. -/
  | counted (least most : Nat)
  /-- It takes things that have names; it may know its own. A name with a question mark can be left out, those
  before a stroke have no name for others, those after a star have no place. -/
  | named (knowsName : Bool) (names : String)
  deriving Repr

/-- The ways in which what the classes of the language and of its library have is called. -/
def conventions : List (String × List (Convention × String)) := [
  ("builtins.int", [
    (.nothing, "conjugate bit_length bit_count as_integer_ratio __trunc__ __floor__ __ceil__"),
    (.nothing, "__getnewargs__ __sizeof__"),
    (.named true "length? byteorder? * signed?", "to_bytes"),
    (.named true "bytes byteorder? * signed?", "from_bytes"),
    (.places 0 1, "__round__"),
    (.one, "__format__")]),
  ("builtins.float", [
    (.nothing, "conjugate __trunc__ __floor__ __ceil__ as_integer_ratio hex is_integer"),
    (.nothing, "__getnewargs__"),
    (.places 0 1, "__round__"),
    (.one, "fromhex __getformat__ __format__")]),
  ("builtins.complex", [
    (.nothing, "conjugate __complex__ __getnewargs__"),
    (.one, "__format__")]),
  ("builtins.str", [
    (.named true "encoding? errors?", "encode"),
    (.places 2 3, "replace"),
    (.named true "sep? maxsplit?", "split rsplit"),
    (.one, "join partition rpartition translate removeprefix removesuffix zfill format_map"),
    (.one, "__format__"),
    (.nothing, "capitalize casefold title lower swapcase upper isascii islower isupper istitle"),
    (.nothing, "isspace isdecimal isdigit isnumeric isalpha isalnum isidentifier isprintable"),
    (.nothing, "__sizeof__ __getnewargs__"),
    (.places 1 2, "center ljust rjust"),
    (.counted 1 3, "count find index rfind rindex startswith endswith"),
    (.named true "tabsize?", "expandtabs"),
    (.places 0 1, "lstrip rstrip strip"),
    (.named true "keepends?", "splitlines"),
    (.places 1 3, "maketrans")]),
  ("builtins.bytes", [
    (.nothing, "__getnewargs__ __bytes__ capitalize isalnum isalpha isascii isdigit islower"),
    (.nothing, "isspace istitle isupper lower swapcase title upper"),
    (.places 1 2, "center ljust rjust"),
    (.counted 1 3, "count endswith find index rfind rindex startswith"),
    (.named true "encoding? errors?", "decode"),
    (.named true "tabsize?", "expandtabs"),
    (.one, "fromhex join partition removeprefix removesuffix rpartition zfill"),
    (.named true "sep? bytes_per_sep?", "hex"),
    (.places 0 1, "lstrip rstrip strip"),
    (.places 2 2, "maketrans"),
    (.places 2 3, "replace"),
    (.named true "sep? maxsplit?", "rsplit split"),
    (.named true "keepends?", "splitlines"),
    (.named true "table / delete?", "translate")]),
  ("builtins.bytearray", [
    (.nothing, "__alloc__ __reduce__ __sizeof__ capitalize clear copy isalnum isalpha isascii"),
    (.nothing, "isdigit islower isspace istitle isupper lower reverse swapcase title upper"),
    (.places 0 1, "__reduce_ex__ lstrip pop rstrip strip"),
    (.one, "append extend fromhex join partition remove removeprefix removesuffix rpartition"),
    (.one, "zfill"),
    (.places 1 2, "center ljust rjust"),
    (.counted 1 3, "count endswith find index rfind rindex startswith"),
    (.named true "encoding? errors?", "decode"),
    (.named true "tabsize?", "expandtabs"),
    (.named true "sep? bytes_per_sep?", "hex"),
    (.places 2 2, "insert maketrans"),
    (.places 2 3, "replace"),
    (.named true "sep? maxsplit?", "rsplit split"),
    (.named true "keepends?", "splitlines"),
    (.named true "table / delete?", "translate")]),
  ("builtins.list", [
    (.one, "__getitem__ append extend remove count __class_getitem__"),
    (.nothing, "__reversed__ __sizeof__ clear copy reverse"),
    (.places 2 2, "insert"),
    (.places 0 1, "pop"),
    (.places 1 3, "index"),
    (.named true "* key? reverse?", "sort")]),
  ("builtins.tuple", [
    (.nothing, "__getnewargs__"),
    (.places 1 3, "index"),
    (.one, "count __class_getitem__")]),
  ("builtins.dict", [
    (.one, "__getitem__ __contains__ __class_getitem__"),
    (.nothing, "__sizeof__ popitem keys items values clear copy __reversed__"),
    (.places 1 2, "get setdefault pop fromkeys")]),
  ("builtins.set", [
    (.one, "__contains__ add discard isdisjoint issubset issuperset remove symmetric_difference"),
    (.one, "symmetric_difference_update __class_getitem__"),
    (.nothing, "clear copy pop __reduce__ __sizeof__"),
    (.places 0 1000, "difference difference_update intersection intersection_update union"),
    (.places 0 1000, "update")]),
  ("builtins.frozenset", [
    (.one, "__contains__ isdisjoint issubset issuperset symmetric_difference __class_getitem__"),
    (.nothing, "copy __reduce__ __sizeof__"),
    (.places 0 1000, "difference intersection union")]),
  ("builtins.range", [
    (.nothing, "__reversed__"),
    (.places 0 1000, "__reduce__"),
    (.one, "count index")]),
  ("builtins.slice", [
    (.one, "indices"),
    (.nothing, "__reduce__")]),
  ("builtins.memoryview", [
    (.nothing, "release tolist toreadonly __enter__"),
    (.named true "order?", "tobytes"),
    (.named true "sep? bytes_per_sep?", "hex"),
    (.named true "format shape?", "cast"),
    (.places 0 1000, "__exit__")]),
  ("datetime.date", [
    (.one, "fromtimestamp fromisoformat"),
    (.counted 1 1, "fromordinal __format__"),
    (.named true "year month day", "fromisocalendar"),
    (.named true "year? month? day?", "replace"),
    (.nothing, "today ctime timetuple isocalendar isoformat isoweekday toordinal weekday"),
    (.nothing, "__reduce__"),
    (.named true "format", "strftime")]),
  ("datetime.time", [
    (.named true "timespec?", "isoformat"),
    (.named true "format", "strftime"),
    (.counted 1 1, "__format__ __reduce_ex__"),
    (.nothing, "utcoffset tzname dst __reduce__"),
    (.named true "hour? minute? second? microsecond? tzinfo? * fold?", "replace"),
    (.one, "fromisoformat")]),
  ("datetime.datetime", [
    (.named true "tz?", "now astimezone"),
    (.nothing, "utcnow date time timetz ctime timetuple timestamp utctimetuple utcoffset tzname"),
    (.nothing, "dst __reduce__"),
    (.named true "timestamp tz?", "fromtimestamp"),
    (.named true "sep? timespec?", "isoformat"),
    (.counted 1 1, "utcfromtimestamp __reduce_ex__"),
    (.counted 2 2, "strptime"),
    (.named true "date time tzinfo?", "combine"),
    (.one, "fromisoformat"),
    (.named true
      "year? month? day? hour? minute? second? microsecond? tzinfo? * fold?", "replace")]),
  ("datetime.tzinfo", [
    (.one, "tzname utcoffset dst fromutc")]),
  ("datetime.timedelta", [
    (.nothing, "total_seconds __reduce__")]),
  ("datetime.timezone", [
    (.one, "tzname utcoffset dst fromutc"),
    (.nothing, "__getinitargs__")]),
  ("decimal.Decimal", [
    (.named false "context?", "exp ln log10 next_minus next_plus normalize sqrt is_normal"),
    (.named false "context?", "is_subnormal logb logical_invert number_class to_eng_string"),
    (.named false "rounding? context?", "to_integral to_integral_exact to_integral_value"),
    (.named false "other context?", "compare compare_signal max max_mag min min_mag next_toward"),
    (.named false "other context?", "remainder_near compare_total compare_total_mag copy_sign"),
    (.named false "other context?", "same_quantum logical_and logical_or logical_xor rotate"),
    (.named false "other context?", "scaleb shift"),
    (.named false "exp rounding? context?", "quantize"),
    (.named false "other third context?", "fma"),
    (.nothing, "is_canonical is_finite is_infinite is_nan is_qnan is_snan is_signed is_zero"),
    (.nothing, "adjusted canonical conjugate radix copy_abs copy_negate as_tuple"),
    (.nothing, "as_integer_ratio __copy__ __reduce__ __ceil__ __floor__"),
    (.nothing, "__trunc__ __complex__ __sizeof__"),
    (.one, "from_float __deepcopy__"),
    (.places 0 1000, "__format__ __round__")]),
  ("collections.deque", [
    (.one, "append appendleft count extend extendleft remove __class_getitem__"),
    (.nothing, "clear __copy__ copy pop popleft __reduce__ __reversed__ reverse __sizeof__"),
    (.counted 1 3, "index"),
    (.counted 2 2, "insert"),
    (.places 0 1, "rotate")]),
  ("collections.OrderedDict", [
    (.named true "iterable value?", "fromkeys"),
    (.nothing, "__sizeof__ __reduce__ keys values items clear copy __reversed__"),
    (.named true "key default?", "setdefault"),
    (.named true "key default?", "pop"),
    (.named true "last?", "popitem"),
    (.named true "key last?", "move_to_end")]),
  ("collections.defaultdict", [
    (.one, "__missing__ __class_getitem__"),
    (.nothing, "copy __copy__ __reduce__")]),
  ("builtins.dict_keys", [
    (.one, "isdisjoint"),
    (.nothing, "__reversed__")]),
  ("builtins.dict_items", [
    (.one, "isdisjoint"),
    (.nothing, "__reversed__")]),
  ("builtins.dict_values", [
    (.nothing, "__reversed__")]),
  ("builtins.mappingproxy", [
    (.places 1 2, "get"),
    (.nothing, "keys values items copy __reversed__"),
    (.one, "__class_getitem__")]),
  ("builtins.BaseException", [
    (.nothing, "__reduce__"),
    (.one, "__setstate__ with_traceback add_note")]),
  ("builtins.BaseExceptionGroup", [
    (.one, "__class_getitem__"),
    (.places 0 1000, "derive"),
    (.places 1 1, "split subgroup")]),
  ("builtins", [
    (.one, "abs all any ascii bin callable chr hash hex id len oct ord repr"),
    (.nothing, "globals locals"),
    (.places 2 2, "delattr divmod hasattr isinstance issubclass"),
    (.places 3 3, "setattr"), (.places 1 3, "eval"), (.places 2 3, "getattr"),
    (.places 1 2, "format iter next"), (.places 0 1, "input dir vars"),
    (.named true "source globals? locals? / * closure?", "exec"),
    (.named true "base exp mod?", "pow"), (.named true "number ndigits?", "round"),
    (.named true "iterable / start?", "sum"),
    (.named true "source filename mode flags? dont_inherit? optimize? * _feature_version?", "compile"),
    (.named true "name globals? locals? fromlist? level?", "__import__")])]

/-- The way in which something is called that a class, or the module of the language, has under a name. -/
def convention? (holder name : String) : Option Convention :=
  ((conventions.lookup holder).getD []).findSome? fun (way, names) =>
    if name ∈ Text.parts ' ' names then some way else none

end Mapsmith.Program
