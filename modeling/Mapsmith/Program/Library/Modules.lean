import Mapsmith.Program.Library.Class

/-!
# Classes of other modules: the data

The classes of numbers, of points in time, of types and of choices between values, and what classes with
open methods, dataclasses and models are made with; then the classes that belong to models, these apart:
fields, notes, secrets, sizes, addresses, and what asks a type for what it accepts.
-/

namespace Mapsmith.Program

/-- The classes of other modules. -/
def moduleEntries : List LibraryEntry := [
  { cls := ⟨"datetime", "date"⟩, hasLayout := true
    holdings := [
      (.slot, "__repr__ __hash__ __str__ __getattribute__ __lt__ __le__ __eq__ __ne__ __gt__"),
      (.slot, "__ge__ __add__ __radd__ __sub__ __rsub__"),
      (.method, "ctime strftime __format__ timetuple isocalendar isoformat isoweekday"),
      (.method, "toordinal weekday replace __reduce__"), (.reader, "year month day"),
      (.maker, "__new__ fromtimestamp fromordinal fromisoformat fromisocalendar today"),
      (.value, "min max resolution")] },
  { cls := ⟨"datetime", "datetime"⟩, inherits := ["datetime.date"], hasLayout := true
    holdings := [
      (.slot, "__repr__ __hash__ __str__ __getattribute__ __lt__ __le__ __eq__ __ne__ __gt__"),
      (.slot, "__ge__ __add__ __radd__ __sub__ __rsub__"),
      (.method, "date time timetz ctime timetuple timestamp utctimetuple isoformat utcoffset"),
      (.method, "tzname dst replace astimezone __reduce_ex__ __reduce__"),
      (.reader, "hour minute second microsecond tzinfo fold"),
      (.maker, "__new__ now utcnow fromtimestamp utcfromtimestamp strptime combine"),
      (.maker, "fromisoformat"), (.value, "min max resolution")] },
  { cls := ⟨"datetime", "time"⟩, hasLayout := true
    holdings := [
      (.slot, "__repr__ __hash__ __str__ __getattribute__ __lt__ __le__ __eq__ __ne__ __gt__"),
      (.slot, "__ge__"),
      (.method, "isoformat strftime __format__ utcoffset tzname dst replace __reduce_ex__"),
      (.method, "__reduce__"), (.reader, "hour minute second microsecond tzinfo fold"),
      (.maker, "__new__ fromisoformat"), (.value, "min max resolution")] },
  { cls := ⟨"datetime", "timedelta"⟩, hasLayout := true
    holdings := [
      (.slot, "__repr__ __hash__ __str__ __getattribute__ __lt__ __le__ __eq__ __ne__ __gt__"),
      (.slot, "__ge__ __add__ __radd__ __sub__ __rsub__ __mul__ __rmul__ __mod__ __rmod__"),
      (.slot, "__divmod__ __rdivmod__ __neg__ __pos__ __abs__ __bool__ __floordiv__"),
      (.slot, "__rfloordiv__ __truediv__ __rtruediv__"), (.method, "total_seconds __reduce__"),
      (.part, "days seconds microseconds"), (.maker, "__new__"), (.value, "resolution min max")] },
  { cls := ⟨"datetime", "tzinfo"⟩
    holdings := [
      (.slot, "__getattribute__"), (.method, "tzname utcoffset dst fromutc __reduce__"),
      (.maker, "__new__")] },
  { cls := ⟨"datetime", "timezone"⟩, inherits := ["datetime.tzinfo"], hasLayout := true
    holdings := [
      (.slot, "__repr__ __hash__ __str__ __lt__ __le__ __eq__ __ne__ __gt__ __ge__"),
      (.method, "tzname utcoffset dst fromutc __getinitargs__"), (.maker, "__new__"),
      (.value, "utc min max")] },
  { cls := ⟨"datetime", "IsoCalendarDate"⟩, inherits := ["builtins.tuple"], hasLayout := true
    holdings := [(.slot, "__repr__"), (.method, "__reduce__"), (.reader, "year week weekday")] },
  { cls := ⟨"time", "struct_time"⟩, inherits := ["builtins.tuple"], hasLayout := true
    holdings := [
      (.slot, "__repr__"), (.method, "__reduce__"), (.maker, "__new__"),
      (.part, "tm_year tm_mon tm_mday tm_hour tm_min tm_sec tm_wday tm_yday tm_isdst tm_zone tm_gmtoff"),
      (.value, "n_sequence_fields n_unnamed_fields n_fields __match_args__")] },
  { cls := ⟨"decimal", "DecimalTuple"⟩, inherits := ["builtins.tuple"], hasLayout := true
    holdings := [
      (.function, "_replace __repr__ _asdict __getnewargs__"), (.shared, "__new__ _make"),
      (.value, "__slots__ _fields _field_defaults __match_args__ sign digits exponent")] },
  { cls := ⟨"decimal", "DecimalException"⟩
    inherits := ["builtins.ArithmeticError builtins.Exception builtins.BaseException"] },
  { cls := ⟨"decimal", "Clamped"⟩
    inherits := ["decimal.DecimalException builtins.ArithmeticError builtins.Exception",
      "builtins.BaseException"] },
  { cls := ⟨"decimal", "InvalidOperation"⟩
    inherits := ["decimal.DecimalException builtins.ArithmeticError builtins.Exception",
      "builtins.BaseException"] },
  { cls := ⟨"decimal", "DivisionByZero"⟩
    inherits := ["decimal.DecimalException builtins.ZeroDivisionError builtins.ArithmeticError",
      "builtins.Exception builtins.BaseException"] },
  { cls := ⟨"decimal", "Inexact"⟩
    inherits := ["decimal.DecimalException builtins.ArithmeticError builtins.Exception",
      "builtins.BaseException"] },
  { cls := ⟨"decimal", "Rounded"⟩
    inherits := ["decimal.DecimalException builtins.ArithmeticError builtins.Exception",
      "builtins.BaseException"] },
  { cls := ⟨"decimal", "Subnormal"⟩
    inherits := ["decimal.DecimalException builtins.ArithmeticError builtins.Exception",
      "builtins.BaseException"] },
  { cls := ⟨"decimal", "Overflow"⟩
    inherits := ["decimal.Inexact decimal.Rounded decimal.DecimalException",
      "builtins.ArithmeticError builtins.Exception builtins.BaseException"] },
  { cls := ⟨"decimal", "Underflow"⟩
    inherits := ["decimal.Inexact decimal.Rounded decimal.Subnormal decimal.DecimalException",
      "builtins.ArithmeticError builtins.Exception builtins.BaseException"] },
  { cls := ⟨"decimal", "FloatOperation"⟩
    inherits := ["decimal.DecimalException builtins.ArithmeticError builtins.TypeError",
      "builtins.Exception builtins.BaseException"] },
  { cls := ⟨"decimal", "Decimal"⟩, hasLayout := true
    holdings := [
      (.slot, "__repr__ __hash__ __str__ __getattribute__ __lt__ __le__ __eq__ __ne__ __gt__"),
      (.slot, "__ge__ __add__ __radd__ __sub__ __rsub__ __mul__ __rmul__ __mod__ __rmod__"),
      (.slot, "__divmod__ __rdivmod__ __pow__ __rpow__ __neg__ __pos__ __abs__ __bool__"),
      (.slot, "__int__ __float__ __floordiv__ __rfloordiv__ __truediv__ __rtruediv__"),
      (.method, "exp ln log10 next_minus next_plus normalize to_integral to_integral_exact"),
      (.method, "to_integral_value sqrt compare compare_signal max max_mag min min_mag"),
      (.method, "next_toward quantize remainder_near fma is_canonical is_finite is_infinite"),
      (.method, "is_nan is_qnan is_snan is_signed is_zero is_normal is_subnormal adjusted"),
      (.method, "canonical conjugate radix copy_abs copy_negate logb logical_invert"),
      (.method, "number_class to_eng_string compare_total compare_total_mag copy_sign"),
      (.method, "same_quantum logical_and logical_or logical_xor rotate scaleb shift"),
      (.method, "as_tuple as_integer_ratio __copy__ __deepcopy__ __format__ __reduce__"),
      (.method, "__round__ __ceil__ __floor__ __trunc__ __complex__ __sizeof__"),
      (.reader, "real imag"), (.maker, "__new__ from_float")] },
  { cls := ⟨"fractions", "Fraction"⟩
    inherits := ["numbers.Rational numbers.Real numbers.Complex numbers.Number"]
    maker := ⟨"abc", "ABCMeta"⟩, hasLayout := true
    holdings := [
      (.function, "as_integer_ratio limit_denominator __repr__ __str__ _operator_fallbacks"),
      (.function, "_add __add__ __radd__ _sub __sub__ __rsub__ _mul __mul__ __rmul__ _div"),
      (.function, "__truediv__ __rtruediv__ _floordiv __floordiv__ __rfloordiv__ _divmod"),
      (.function, "__divmod__ __rdivmod__ _mod __mod__ __rmod__ __pow__ __rpow__ __pos__"),
      (.function, "__neg__ __abs__ __int__ __trunc__ __floor__ __ceil__ __round__ __hash__"),
      (.function, "__eq__ _richcmp __lt__ __gt__ __le__ __ge__ __bool__ __reduce__ __copy__"),
      (.function, "__deepcopy__"), (.shared, "__new__ from_float from_decimal"),
      (.property, "numerator denominator"), (.part, "_denominator _numerator"),
      (.value, "__slots__ _abc_impl")] },
  { cls := ⟨"uuid", "UUID"⟩, hasLayout := true
    takes := [("hex", true), ("bytes", true), ("bytes_le", true), ("fields", true), ("int",
      true), ("version", true), ("is_safe", true)]
    holdings := [
      (.function, "__init__ __getstate__ __setstate__ __eq__ __lt__ __gt__ __le__ __ge__"),
      (.function, "__hash__ __int__ __repr__ __setattr__ __str__"),
      (.property, "bytes bytes_le fields time_low time_mid time_hi_version"),
      (.property, "clock_seq_hi_variant clock_seq_low time clock_seq node hex urn variant"),
      (.property, "version"), (.reader, "__weakref__"), (.part, "int is_safe"),
      (.value, "__slots__")] },
  { cls := ⟨"numbers", "Rational"⟩, inherits := ["numbers.Real numbers.Complex numbers.Number"]
    maker := ⟨"abc", "ABCMeta"⟩
    awaited := [
      "__abs__ __add__ __ceil__ __eq__ __floor__ __floordiv__ __le__ __lt__ __mod__",
      "__mul__ __neg__ __pos__ __pow__ __radd__ __rfloordiv__ __rmod__ __rmul__",
      "__round__ __rpow__ __rtruediv__ __truediv__ __trunc__ denominator numerator"]
    holdings := [(.function, "__float__"), (.property, "numerator denominator"),
      (.value, "__slots__ _abc_impl")] },
  { cls := ⟨"numbers", "Real"⟩, inherits := ["numbers.Complex numbers.Number"]
    maker := ⟨"abc", "ABCMeta"⟩
    awaited := [
      "__abs__ __add__ __ceil__ __eq__ __float__ __floor__ __floordiv__ __le__",
      "__lt__ __mod__ __mul__ __neg__ __pos__ __pow__ __radd__ __rfloordiv__",
      "__rmod__ __rmul__ __round__ __rpow__ __rtruediv__ __truediv__ __trunc__"]
    holdings := [
      (.function, "__float__ __trunc__ __floor__ __ceil__ __round__ __divmod__ __rdivmod__"),
      (.function, "__floordiv__ __rfloordiv__ __mod__ __rmod__ __lt__ __le__ __complex__"),
      (.function, "conjugate"), (.property, "real imag"), (.value, "__slots__ _abc_impl")] },
  { cls := ⟨"numbers", "Complex"⟩, inherits := ["numbers.Number"], maker := ⟨"abc", "ABCMeta"⟩
    awaited := [
      "__abs__ __add__ __complex__ __eq__ __mul__ __neg__ __pos__ __pow__ __radd__",
      "__rmul__ __rpow__ __rtruediv__ __truediv__ conjugate imag real"]
    holdings := [
      (.function, "__complex__ __bool__ __add__ __radd__ __neg__ __pos__ __sub__ __rsub__"),
      (.function, "__mul__ __rmul__ __truediv__ __rtruediv__ __pow__ __rpow__ __abs__"),
      (.function, "conjugate __eq__"), (.property, "real imag"), (.value, "__slots__ _abc_impl"),
      (.absent, "__hash__")] },
  { cls := ⟨"numbers", "Number"⟩, maker := ⟨"abc", "ABCMeta"⟩
    holdings := [(.value, "__slots__ _abc_impl"), (.absent, "__hash__")] },
  { cls := ⟨"abc", "ABC"⟩, maker := ⟨"abc", "ABCMeta"⟩
    holdings := [(.value, "__slots__ _abc_impl")] },
  { cls := ⟨"abc", "ABCMeta"⟩, inherits := ["builtins.type"]
    holdings := [(.function, "register __instancecheck__ __subclasscheck__ _dump_registry"),
      (.function, "_abc_registry_clear _abc_caches_clear"), (.shared, "__new__")] },
  { cls := ⟨"enum", "Enum"⟩, maker := ⟨"enum", "EnumType"⟩
    holdings := [(.function, "__init__ _generate_next_value_ __repr__ __str__ __dir__ __format__"),
      (.function, "__hash__ __reduce_ex__ __deepcopy__ __copy__ _new_member_"),
      (.shared, "__new__ _missing_"), (.property, "name value"), (.reader, "__dict__ __weakref__"),
      (.value, "_use_args_ _member_names_ _member_map_ _value2member_map_"),
      (.value, "_unhashable_values_ _member_type_"), (.absent, "_value_repr_")] },
  { cls := ⟨"enum", "EnumType"⟩, inherits := ["builtins.type"]
    holdings := [(.function, "__bool__ __call__ __contains__ __delattr__ __dir__ __getattr__"),
      (.function, "__getitem__ __iter__ __len__ __repr__ __reversed__ __setattr__ _create_"),
      (.function, "_convert_"),
      (.shared, "__prepare__ __new__ _check_for_existing_members_ _get_mixins_"),
      (.shared, "_find_data_repr_ _find_data_type_ _find_new_"), (.property, "__members__")] },
  { cls := ⟨"enum", "IntEnum"⟩, inherits := ["builtins.int enum.ReprEnum enum.Enum"]
    maker := ⟨"enum", "EnumType"⟩, hasLayout := true
    holdings := [(.function, "_generate_next_value_ __repr__ __new__"),
      (.slot, "_value_repr_ __str__"), (.method, "__format__"), (.reader, "__dict__"),
      (.maker, "_new_member_"),
      (.value, "_use_args_ _member_names_ _member_map_ _value2member_map_"),
      (.value, "_unhashable_values_ _member_type_")] },
  { cls := ⟨"enum", "StrEnum"⟩, inherits := ["builtins.str enum.ReprEnum enum.Enum"]
    maker := ⟨"enum", "EnumType"⟩
    holdings := [(.function, "_generate_next_value_ __new__ _new_member_ __repr__ __new_member__"),
      (.slot, "_value_repr_ __str__"), (.method, "__format__"), (.reader, "__dict__ __weakref__"),
      (.value, "_use_args_ _member_names_ _member_map_ _value2member_map_"),
      (.value, "_unhashable_values_ _member_type_")] },
  { cls := ⟨"enum", "Flag"⟩, inherits := ["enum.Enum"], maker := ⟨"enum", "EnumType"⟩
    holdings := [
      (.function, "_generate_next_value_ __contains__ __iter__ __len__ __repr__ __str__"),
      (.function, "__bool__ _get_value __or__ __and__ __xor__ __invert__ __rand__ __ror__"),
      (.function, "__rxor__ __new__"),
      (.shared, "_iter_member_by_value_ _iter_member_ _iter_member_by_def_ _missing_"),
      (.maker, "_numeric_repr_ _new_member_"),
      (.value, "_use_args_ _member_names_ _member_map_ _value2member_map_"),
      (.value, "_unhashable_values_ _member_type_ _boundary_ _flag_mask_ _singles_mask_"),
      (.value, "_all_bits_"), (.absent, "_value_repr_ _inverted_")] },
  { cls := ⟨"enum", "IntFlag"⟩, inherits := ["builtins.int enum.ReprEnum enum.Flag enum.Enum"]
    maker := ⟨"enum", "EnumType"⟩, hasLayout := true
    holdings := [
      (.function, "_generate_next_value_ __repr__ __or__ __and__ __xor__ __ror__ __rand__"),
      (.function, "__rxor__ __invert__ __new__"), (.slot, "_value_repr_ __str__"),
      (.method, "__format__"), (.reader, "__dict__"), (.maker, "_new_member_"),
      (.value, "_use_args_ _member_names_ _member_map_ _value2member_map_"),
      (.value, "_unhashable_values_ _member_type_ _boundary_ _flag_mask_ _singles_mask_"),
      (.value, "_all_bits_"), (.absent, "_inverted_")] },
  { cls := ⟨"enum", "ReprEnum"⟩, inherits := ["enum.Enum"], maker := ⟨"enum", "EnumType"⟩
    holdings := [(.function, "_generate_next_value_ __new__"), (.maker, "_new_member_"),
      (.value, "_use_args_ _member_names_ _member_map_ _value2member_map_"),
      (.value, "_unhashable_values_ _member_type_"), (.absent, "_value_repr_")] },
  { cls := ⟨"enum", "auto"⟩, takes := [("value", true)]
    holdings := [(.function, "__init__ __repr__"), (.reader, "__dict__ __weakref__")] },
  { cls := ⟨"enum", "property"⟩
    holdings := [(.function, "__get__ __set__ __delete__ __set_name__")] },
  { cls := ⟨"typing", "Any"⟩, maker := ⟨"typing", "_AnyMeta"⟩
    holdings := [(.shared, "__new__"), (.reader, "__dict__ __weakref__")] },
  { cls := ⟨"typing", "Annotated"⟩
    holdings := [(.function, "_class_getitem_inner"),
      (.shared, "__new__ __class_getitem__ __init_subclass__"), (.value, "__slots__")] },
  { cls := ⟨"typing", "ForwardRef"⟩, hasLayout := true
    takes := [("arg", false), ("is_argument", true), ("module", true), ("is_class", true)]
    holdings := [(.function, "__init__ _evaluate __eq__ __hash__ __or__ __ror__ __repr__"),
      (.part, "__forward_arg__ __forward_code__ __forward_evaluated__"),
      (.part, "__forward_is_argument__ __forward_is_class__ __forward_module__"),
      (.part, "__forward_value__"), (.value, "__slots__")] },
  { cls := ⟨"typing", "Generic"⟩
    holdings := [(.shared, "__class_getitem__ __init_subclass__"),
      (.value, "__slots__ _is_protocol")] },
  { cls := ⟨"typing", "ParamSpec"⟩
    takes := [("name", false), ("bound", true), ("covariant", true), ("contravariant", true)]
    holdings := [(.function, "__init__ __typing_subst__ __typing_prepare_subst__"),
      (.property, "args kwargs"), (.reader, "__dict__")] },
  { cls := ⟨"typing", "TypeVar"⟩
    takes := [("name", false), ("bound", true), ("covariant", true), ("contravariant", true)]
    holdings := [(.function, "__init__ __typing_subst__"), (.reader, "__dict__")] },
  { cls := ⟨"typing", "TypeVarTuple"⟩, takes := [("name", false)]
    holdings := [
      (.function, "__init__ __iter__ __repr__ __typing_subst__ __typing_prepare_subst__"),
      (.reader, "__dict__")] },
  { cls := ⟨"typing", "BinaryIO"⟩, inherits := ["typing.IO typing.Generic"]
    holdings := [(.function, "write __enter__"), (.value, "__slots__ __parameters__")] },
  { cls := ⟨"typing", "IO"⟩, inherits := ["typing.Generic"]
    holdings := [
      (.function, "close fileno flush isatty read readable readline readlines seek seekable"),
      (.function, "tell truncate writable write writelines __enter__ __exit__"),
      (.property, "mode name closed"), (.value, "__slots__ __parameters__")] },
  { cls := ⟨"typing", "TextIO"⟩, inherits := ["typing.IO typing.Generic"]
    holdings := [(.function, "__enter__"),
      (.property, "buffer encoding errors line_buffering newlines"),
      (.value, "__slots__ __parameters__")] },
  { cls := ⟨"typing", "NewType"⟩, takes := [("name", false), ("tp", false)]
    holdings := [(.function, "__init__ __mro_entries__ __repr__ __reduce__ __or__ __ror__"),
      (.reader, "__dict__ __weakref__"), (.maker, "__call__")] },
  { cls := ⟨"typing", "ParamSpecArgs"⟩, takes := [("origin", false)]
    holdings := [(.function, "__init__ __repr__ __eq__"), (.reader, "__dict__"),
      (.absent, "__hash__")] },
  { cls := ⟨"typing", "ParamSpecKwargs"⟩, takes := [("origin", false)]
    holdings := [(.function, "__init__ __repr__ __eq__"), (.reader, "__dict__"),
      (.absent, "__hash__")] },
  { cls := ⟨"typing", "Protocol"⟩, inherits := ["typing.Generic"]
    maker := ⟨"typing", "_ProtocolMeta"⟩
    holdings := [(.shared, "__init_subclass__"),
      (.value, "__slots__ _is_protocol _is_runtime_protocol __parameters__ _abc_impl")] },
  { cls := ⟨"typing", "SupportsAbs"⟩, inherits := ["typing.Protocol typing.Generic"]
    maker := ⟨"typing", "_ProtocolMeta"⟩, awaited := ["__abs__"]
    holdings := [(.function, "__abs__ __subclasshook__ __init__"),
      (.value, "__slots__ __parameters__ _is_protocol _abc_impl _is_runtime_protocol")] },
  { cls := ⟨"typing", "SupportsBytes"⟩, inherits := ["typing.Protocol typing.Generic"]
    maker := ⟨"typing", "_ProtocolMeta"⟩, awaited := ["__bytes__"]
    holdings := [(.function, "__bytes__ __subclasshook__ __init__"),
      (.value, "__slots__ __parameters__ _is_protocol _abc_impl _is_runtime_protocol")] },
  { cls := ⟨"typing", "SupportsComplex"⟩, inherits := ["typing.Protocol typing.Generic"]
    maker := ⟨"typing", "_ProtocolMeta"⟩, awaited := ["__complex__"]
    holdings := [(.function, "__complex__ __subclasshook__ __init__"),
      (.value, "__slots__ __parameters__ _is_protocol _abc_impl _is_runtime_protocol")] },
  { cls := ⟨"typing", "SupportsFloat"⟩, inherits := ["typing.Protocol typing.Generic"]
    maker := ⟨"typing", "_ProtocolMeta"⟩, awaited := ["__float__"]
    holdings := [(.function, "__float__ __subclasshook__ __init__"),
      (.value, "__slots__ __parameters__ _is_protocol _abc_impl _is_runtime_protocol")] },
  { cls := ⟨"typing", "SupportsIndex"⟩, inherits := ["typing.Protocol typing.Generic"]
    maker := ⟨"typing", "_ProtocolMeta"⟩, awaited := ["__index__"]
    holdings := [(.function, "__index__ __subclasshook__ __init__"),
      (.value, "__slots__ __parameters__ _is_protocol _abc_impl _is_runtime_protocol")] },
  { cls := ⟨"typing", "SupportsInt"⟩, inherits := ["typing.Protocol typing.Generic"]
    maker := ⟨"typing", "_ProtocolMeta"⟩, awaited := ["__int__"]
    holdings := [(.function, "__int__ __subclasshook__ __init__"),
      (.value, "__slots__ __parameters__ _is_protocol _abc_impl _is_runtime_protocol")] },
  { cls := ⟨"typing", "SupportsRound"⟩, inherits := ["typing.Protocol typing.Generic"]
    maker := ⟨"typing", "_ProtocolMeta"⟩, awaited := ["__round__"]
    holdings := [(.function, "__round__ __subclasshook__ __init__"),
      (.value, "__slots__ __parameters__ _is_protocol _abc_impl _is_runtime_protocol")] },
  { cls := ⟨"dataclasses", "Field"⟩, hasLayout := true
    takes := [("default", false), ("default_factory", false), ("init", false), ("repr", false),
      ("hash", false), ("compare", false), ("metadata", false), ("kw_only", false)]
    holdings := [(.function, "__init__ __repr__ __set_name__"), (.shared, "__class_getitem__"),
      (.part, "_field_type compare default default_factory hash init kw_only metadata name"),
      (.part, "repr type"), (.value, "__slots__")] },
  { cls := ⟨"dataclasses", "FrozenInstanceError"⟩
    inherits := ["builtins.AttributeError builtins.Exception builtins.BaseException"]
    holdings := [(.reader, "__weakref__")] },
  { cls := ⟨"dataclasses", "InitVar"⟩, hasLayout := true, takes := [("type", false)]
    holdings := [(.function, "__init__ __repr__"), (.shared, "__class_getitem__"), (.part, "type"),
      (.value, "__slots__")] },
  { cls := ⟨"typing", "_AnyMeta"⟩, inherits := ["builtins.type"]
    holdings := [(.function, "__instancecheck__ __repr__")] },
  { cls := ⟨"typing", "_ProtocolMeta"⟩, inherits := ["abc.ABCMeta builtins.type"]
    holdings := [(.function, "__instancecheck__")] },
  { cls := ⟨"pydantic._internal._model_construction", "ModelMetaclass"⟩
    inherits := ["abc.ABCMeta builtins.type"]
    holdings := [(.function, "__getattr__ __instancecheck__ __subclasscheck__ __dir__"),
      (.shared, "__new__ __prepare__ _collect_bases_data"),
      (.property, "__fields__ __pydantic_fields_complete__")] },
  { cls := .model, maker := ⟨"pydantic._internal._model_construction", "ModelMetaclass"⟩
    hasLayout := true
    holdings := [
      (.function, "__init__ model_copy model_dump model_dump_json model_post_init __copy__"),
      (.function, "__deepcopy__ __getattr__ __setattr__ __delattr__ __replace__ __getstate__"),
      (.function, "__setstate__ __eq__ __iter__ __repr__ __repr_args__ __repr_name__"),
      (.function, "__repr_recursion__ __repr_str__ __pretty__ __rich_repr__ __str__ dict json"),
      (.function, "copy _iter _setattr_handler"),
      (.shared, "model_construct model_json_schema model_parametrized_name model_rebuild"),
      (.shared, "model_validate model_validate_json model_validate_strings parse_obj parse_raw"),
      (.shared, "parse_file from_orm construct schema schema_json validate update_forward_refs"),
      (.shared, "_copy_and_set_values _get_value _calculate_keys __class_getitem__"),
      (.shared, "__get_pydantic_core_schema__ __get_pydantic_json_schema__"),
      (.shared, "__pydantic_init_subclass__ __init_subclass__"),
      (.property, "model_extra model_fields_set __fields_set__"),
      (.value, "model_config model_fields model_computed_fields _abc_impl __slots__"),
      (.value, "__class_vars__ __private_attributes__ __signature__ __pydantic_complete__"),
      (.value, "__pydantic_core_schema__ __pydantic_custom_init__ __pydantic_decorators__"),
      (.value, "__pydantic_generic_metadata__ __pydantic_parent_namespace__"),
      (.value, "__pydantic_post_init__ __pydantic_root_model__ __pydantic_serializer__"),
      (.value, "__pydantic_validator__ __pydantic_fields__ __pydantic_computed_fields__"),
      (.value, "__pydantic_extra__ __pydantic_fields_set__ __pydantic_private__ __fields__")] }]

/-! ### The classes that belong to models -/

/-- What every class holds that writes its values by their parts. -/
def representationHoldings : Holding × String :=
  (.function, "__repr_args__ __repr_name__ __repr_recursion__ __repr_str__ __pretty__ __rich_repr__ __repr__")

/-- What the classes of addresses hold. -/
def addressHoldings : List (Holding × String) := [
  (.function, "__init__ __str__ __repr__ __deepcopy__ __eq__ __lt__ __gt__ __le__ __ge__ __hash__ __len__"),
  (.function, "unicode_string encoded_string query_params unicode_host"),
  (.property, "scheme username password host port path query fragment"),
  (.shared, "build serialize_url __get_pydantic_core_schema__ __get_pydantic_json_schema__"),
  (.value, "_constraints")]

/-- A class of notes with the functions that it has and the names of its parts. -/
def noteEntry (module name functions parts : String) : LibraryEntry :=
  { cls := ⟨module, name⟩
    holdings := [(.function, "__init__ __repr__ __eq__ " ++ functions), (.part, parts)] }

/-- The classes of the library of models, models apart. -/
def modelEntries : List LibraryEntry := [
  { cls := ⟨"pydantic.fields", "FieldInfo"⟩
    holdings := [representationHoldings,
      (.function, "__init__ get_default is_required rebuild_annotation apply_typevars_map asdict"),
      (.shared, "from_field from_annotation from_annotated_attribute merge_field_infos _from_dataclass_field"),
      (.shared, "_construct _collect_metadata"),
      (.property, "default_factory_takes_validated_data deprecation_message"),
      (.part, "annotation default default_factory alias alias_priority validation_alias"),
      (.part, "serialization_alias title field_title_generator description examples exclude exclude_if"),
      (.part, "discriminator deprecated json_schema_extra frozen validate_default repr init init_var"),
      (.part, "kw_only metadata"), (.value, "__slots__ metadata_lookup")] },
  { cls := ⟨"pydantic.types", "SecretStr"⟩
    holdings := [(.function, "__init__ get_secret_value __eq__ __hash__ __str__ __repr__ __len__ _display"),
      (.shared, "__get_pydantic_core_schema__ __class_getitem__"), (.value, "_inner_schema _error_kind")] },
  { cls := ⟨"pydantic.types", "SecretBytes"⟩
    holdings := [(.function, "__init__ get_secret_value __eq__ __hash__ __str__ __repr__ __len__ _display"),
      (.shared, "__get_pydantic_core_schema__ __class_getitem__"), (.value, "_inner_schema _error_kind")] },
  { cls := ⟨"pydantic.types", "Secret"⟩
    holdings := [(.function, "__init__ get_secret_value __eq__ __hash__ __str__ __repr__ _display"),
      (.shared, "__get_pydantic_core_schema__ __class_getitem__")] },
  { cls := ⟨"pydantic.types", "ByteSize"⟩, inherits := ["builtins.int"]
    holdings := [(.function, "human_readable to"), (.shared, "_validate __get_pydantic_core_schema__"),
      (.value, "byte_sizes byte_string_pattern byte_string_re"), (.reader, "__dict__")] },
  { cls := ⟨"pydantic.type_adapter", "TypeAdapter"⟩
    holdings := [
      (.function, "__init__ rebuild validate_python validate_json validate_strings get_default_value"),
      (.function, "dump_python dump_json json_schema __repr__ _init_core_attrs _defer_build"),
      (.shared, "json_schemas __class_getitem__"), (.property, "_model_config")] },
  noteEntry "pydantic.aliases" "AliasPath" "convert_to_aliases search_dict_for_path" "path",
  noteEntry "pydantic.aliases" "AliasChoices" "convert_to_aliases" "choices",
  noteEntry "pydantic.aliases" "AliasGenerator" "_generate_alias generate_aliases"
    "alias validation_alias serialization_alias",
  noteEntry "pydantic.types" "Strict" "" "strict",
  noteEntry "pydantic.types" "AllowInfNan" "" "allow_inf_nan",
  noteEntry "pydantic.types" "FailFast" "" "fail_fast",
  noteEntry "pydantic.types" "StringConstraints" "__iter__"
    "strip_whitespace to_upper to_lower strict min_length max_length pattern ascii_only",
  noteEntry "pydantic.types" "Tag" "__get_pydantic_core_schema__" "tag",
  noteEntry "pydantic.types" "PathType"
    "__get_pydantic_json_schema__ __get_pydantic_core_schema__ __hash__" "path_type",
  noteEntry "pydantic.types" "Discriminator" "_convert_schema __get_pydantic_core_schema__"
    "discriminator custom_error_type custom_error_message custom_error_context",
  noteEntry "pydantic.networks" "UrlConstraints" "__hash__ __get_pydantic_core_schema__"
    "max_length allowed_schemes host_required default_host default_port default_path preserve_empty_path"]
  ++ ["AnyUrl", "AnyHttpUrl", "HttpUrl", "FileUrl", "FtpUrl", "WebsocketUrl", "AnyWebsocketUrl", "PostgresDsn",
    "CockroachDsn", "AmqpDsn", "RedisDsn", "MongoDsn", "KafkaDsn", "NatsDsn", "MySQLDsn", "MariaDBDsn",
    "ClickHouseDsn", "SnowflakeDsn"].map fun name =>
    { cls := ⟨"pydantic.networks", name⟩, holdings := addressHoldings }

end Mapsmith.Program
