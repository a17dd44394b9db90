import Mapsmith.Program.Library.Class

/-!
# Collections: the data

The abstract collections and the further containers, with what they hold.
-/

namespace Mapsmith.Program

/-- The classes of collections. -/
def collectionEntries : List LibraryEntry := [
  { cls := ⟨"collections.abc", "AsyncGenerator"⟩
    inherits := ["collections.abc.AsyncIterator collections.abc.AsyncIterable"]
    maker := ⟨"abc", "ABCMeta"⟩, awaited := ["asend athrow"]
    holdings := [(.function, "__anext__ asend athrow aclose"), (.shared, "__subclasshook__"),
      (.value, "__slots__ _abc_impl")] },
  { cls := ⟨"collections.abc", "AsyncIterable"⟩, maker := ⟨"abc", "ABCMeta"⟩
    awaited := ["__aiter__"]
    holdings := [(.function, "__aiter__"), (.shared, "__subclasshook__ __class_getitem__"),
      (.value, "__slots__ _abc_impl")] },
  { cls := ⟨"collections.abc", "AsyncIterator"⟩, inherits := ["collections.abc.AsyncIterable"]
    maker := ⟨"abc", "ABCMeta"⟩, awaited := ["__anext__"]
    holdings := [(.function, "__anext__ __aiter__"), (.shared, "__subclasshook__"),
      (.value, "__slots__ _abc_impl")] },
  { cls := ⟨"collections.abc", "Awaitable"⟩, maker := ⟨"abc", "ABCMeta"⟩, awaited := ["__await__"]
    holdings := [(.function, "__await__"), (.shared, "__subclasshook__ __class_getitem__"),
      (.value, "__slots__ _abc_impl")] },
  { cls := ⟨"collections.abc", "ByteString"⟩
    inherits := [
      "collections.abc.Sequence collections.abc.Reversible",
      "collections.abc.Collection collections.abc.Sized collections.abc.Iterable",
      "collections.abc.Container"]
    maker := ⟨"abc", "ABCMeta"⟩, awaited := ["__getitem__ __len__"]
    holdings := [(.value, "__slots__ _abc_impl")] },
  { cls := ⟨"collections.abc", "Callable"⟩, maker := ⟨"abc", "ABCMeta"⟩, awaited := ["__call__"]
    holdings := [(.function, "__call__"), (.shared, "__subclasshook__ __class_getitem__"),
      (.value, "__slots__ _abc_impl")] },
  { cls := ⟨"collections.abc", "Collection"⟩
    inherits := ["collections.abc.Sized collections.abc.Iterable collections.abc.Container"]
    maker := ⟨"abc", "ABCMeta"⟩, awaited := ["__contains__ __iter__ __len__"]
    holdings := [(.shared, "__subclasshook__"), (.value, "__slots__ _abc_impl")] },
  { cls := ⟨"collections.abc", "Container"⟩, maker := ⟨"abc", "ABCMeta"⟩
    awaited := ["__contains__"]
    holdings := [(.function, "__contains__"), (.shared, "__subclasshook__ __class_getitem__"),
      (.value, "__slots__ _abc_impl")] },
  { cls := ⟨"collections.abc", "Coroutine"⟩, inherits := ["collections.abc.Awaitable"]
    maker := ⟨"abc", "ABCMeta"⟩, awaited := ["__await__ send throw"]
    holdings := [(.function, "send throw close"), (.shared, "__subclasshook__"),
      (.value, "__slots__ _abc_impl")] },
  { cls := ⟨"collections.abc", "Generator"⟩
    inherits := ["collections.abc.Iterator collections.abc.Iterable"], maker := ⟨"abc", "ABCMeta"⟩
    awaited := ["send throw"]
    holdings := [(.function, "__next__ send throw close"), (.shared, "__subclasshook__"),
      (.value, "__slots__ _abc_impl")] },
  { cls := ⟨"collections.abc", "Hashable"⟩, maker := ⟨"abc", "ABCMeta"⟩, awaited := ["__hash__"]
    holdings := [(.function, "__hash__"), (.shared, "__subclasshook__"),
      (.value, "__slots__ _abc_impl")] },
  { cls := ⟨"collections.abc", "ItemsView"⟩
    inherits := [
      "collections.abc.MappingView collections.abc.Set collections.abc.Collection",
      "collections.abc.Sized collections.abc.Iterable collections.abc.Container"]
    maker := ⟨"abc", "ABCMeta"⟩
    holdings := [(.function, "__contains__ __iter__"), (.shared, "_from_iterable"),
      (.value, "__slots__ _abc_impl")] },
  { cls := ⟨"collections.abc", "Iterable"⟩, maker := ⟨"abc", "ABCMeta"⟩, awaited := ["__iter__"]
    holdings := [(.function, "__iter__"), (.shared, "__subclasshook__ __class_getitem__"),
      (.value, "__slots__ _abc_impl")] },
  { cls := ⟨"collections.abc", "Iterator"⟩, inherits := ["collections.abc.Iterable"]
    maker := ⟨"abc", "ABCMeta"⟩, awaited := ["__next__"]
    holdings := [(.function, "__next__ __iter__"), (.shared, "__subclasshook__"),
      (.value, "__slots__ _abc_impl")] },
  { cls := ⟨"collections.abc", "KeysView"⟩
    inherits := [
      "collections.abc.MappingView collections.abc.Set collections.abc.Collection",
      "collections.abc.Sized collections.abc.Iterable collections.abc.Container"]
    maker := ⟨"abc", "ABCMeta"⟩
    holdings := [(.function, "__contains__ __iter__"), (.shared, "_from_iterable"),
      (.value, "__slots__ _abc_impl")] },
  { cls := ⟨"collections.abc", "Mapping"⟩
    inherits := [
      "collections.abc.Collection collections.abc.Sized collections.abc.Iterable",
      "collections.abc.Container"]
    maker := ⟨"abc", "ABCMeta"⟩, awaited := ["__getitem__ __iter__ __len__"]
    holdings := [(.function, "__getitem__ get __contains__ keys items values __eq__"),
      (.value, "__slots__ _abc_impl"), (.absent, "__reversed__ __hash__")] },
  { cls := ⟨"collections.abc", "MappingView"⟩, inherits := ["collections.abc.Sized"]
    maker := ⟨"abc", "ABCMeta"⟩, hasLayout := true, takes := [("mapping", false)]
    holdings := [(.function, "__init__ __len__ __repr__"), (.shared, "__class_getitem__"),
      (.part, "_mapping"), (.value, "__slots__ _abc_impl")] },
  { cls := ⟨"collections.abc", "MutableMapping"⟩
    inherits := [
      "collections.abc.Mapping collections.abc.Collection collections.abc.Sized",
      "collections.abc.Iterable collections.abc.Container"]
    maker := ⟨"abc", "ABCMeta"⟩, awaited := ["__delitem__ __getitem__ __iter__ __len__ __setitem__"]
    holdings := [(.function, "__setitem__ __delitem__ pop popitem clear update setdefault"),
      (.value, "__slots__ _MutableMapping__marker _abc_impl")] },
  { cls := ⟨"collections.abc", "MutableSequence"⟩
    inherits := [
      "collections.abc.Sequence collections.abc.Reversible",
      "collections.abc.Collection collections.abc.Sized collections.abc.Iterable",
      "collections.abc.Container"]
    maker := ⟨"abc", "ABCMeta"⟩, awaited := ["__delitem__ __getitem__ __len__ __setitem__ insert"]
    holdings := [
      (.function, "__setitem__ __delitem__ insert append clear reverse extend pop remove"),
      (.function, "__iadd__"), (.value, "__slots__ _abc_impl")] },
  { cls := ⟨"collections.abc", "MutableSet"⟩
    inherits := [
      "collections.abc.Set collections.abc.Collection collections.abc.Sized",
      "collections.abc.Iterable collections.abc.Container"]
    maker := ⟨"abc", "ABCMeta"⟩, awaited := ["__contains__ __iter__ __len__ add discard"]
    holdings := [(.function, "add discard remove pop clear __ior__ __iand__ __ixor__ __isub__"),
      (.value, "__slots__ _abc_impl")] },
  { cls := ⟨"collections.abc", "Reversible"⟩, inherits := ["collections.abc.Iterable"]
    maker := ⟨"abc", "ABCMeta"⟩, awaited := ["__iter__ __reversed__"]
    holdings := [(.function, "__reversed__"), (.shared, "__subclasshook__"),
      (.value, "__slots__ _abc_impl")] },
  { cls := ⟨"collections.abc", "Sequence"⟩
    inherits := [
      "collections.abc.Reversible collections.abc.Collection collections.abc.Sized",
      "collections.abc.Iterable collections.abc.Container"]
    maker := ⟨"abc", "ABCMeta"⟩, awaited := ["__getitem__ __len__"]
    holdings := [(.function, "__getitem__ __iter__ __contains__ __reversed__ index count"),
      (.value, "__slots__ _abc_impl")] },
  { cls := ⟨"collections.abc", "Set"⟩
    inherits := [
      "collections.abc.Collection collections.abc.Sized collections.abc.Iterable",
      "collections.abc.Container"]
    maker := ⟨"abc", "ABCMeta"⟩, awaited := ["__contains__ __iter__ __len__"]
    holdings := [
      (.function, "__le__ __lt__ __gt__ __ge__ __eq__ __and__ __rand__ isdisjoint __or__"),
      (.function, "__ror__ __sub__ __rsub__ __xor__ __rxor__ _hash"), (.shared, "_from_iterable"),
      (.value, "__slots__ _abc_impl"), (.absent, "__hash__")] },
  { cls := ⟨"collections.abc", "Sized"⟩, maker := ⟨"abc", "ABCMeta"⟩, awaited := ["__len__"]
    holdings := [(.function, "__len__"), (.shared, "__subclasshook__"),
      (.value, "__slots__ _abc_impl")] },
  { cls := ⟨"collections.abc", "ValuesView"⟩
    inherits := [
      "collections.abc.MappingView collections.abc.Collection collections.abc.Sized",
      "collections.abc.Iterable collections.abc.Container"]
    maker := ⟨"abc", "ABCMeta"⟩
    holdings := [(.function, "__contains__ __iter__"), (.value, "__slots__ _abc_impl")] },
  { cls := ⟨"collections", "ChainMap"⟩
    inherits := [
      "collections.abc.MutableMapping collections.abc.Mapping",
      "collections.abc.Collection collections.abc.Sized collections.abc.Iterable",
      "collections.abc.Container"]
    maker := ⟨"abc", "ABCMeta"⟩
    holdings := [(.function, "__init__ __missing__ __getitem__ get __len__ __iter__ __contains__"),
      (.function, "__bool__ __repr__ copy __copy__ new_child __setitem__ __delitem__ popitem"),
      (.function, "pop clear __ior__ __or__ __ror__"), (.shared, "fromkeys"),
      (.property, "parents"), (.reader, "__dict__ __weakref__"), (.value, "_abc_impl")] },
  { cls := ⟨"collections", "Counter"⟩, inherits := ["builtins.dict"]
    holdings := [
      (.function, "__init__ __missing__ total most_common elements update subtract copy"),
      (.function, "__reduce__ __delitem__ __repr__ __eq__ __ne__ __le__ __lt__ __ge__ __gt__"),
      (.function, "__add__ __sub__ __or__ __and__ __pos__ __neg__ _keep_positive __iadd__"),
      (.function, "__isub__ __ior__ __iand__"), (.shared, "fromkeys"),
      (.reader, "__dict__ __weakref__"), (.absent, "__hash__")] },
  { cls := ⟨"collections", "OrderedDict"⟩, inherits := ["builtins.dict"], hasLayout := true
    holdings := [
      (.slot, "__repr__ __lt__ __le__ __eq__ __ne__ __gt__ __ge__ __iter__ __init__ __or__"),
      (.slot, "__ror__ __ior__ __setitem__ __delitem__"),
      (.method, "__sizeof__ __reduce__ setdefault pop popitem keys values items update clear"),
      (.method, "copy __reversed__ move_to_end"), (.reader, "__dict__"), (.maker, "fromkeys"),
      (.absent, "__hash__")] },
  { cls := ⟨"collections", "UserDict"⟩
    inherits := [
      "collections.abc.MutableMapping collections.abc.Mapping",
      "collections.abc.Collection collections.abc.Sized collections.abc.Iterable",
      "collections.abc.Container"]
    maker := ⟨"abc", "ABCMeta"⟩
    holdings := [(.function, "__init__ __len__ __getitem__ __setitem__ __delitem__ __iter__"),
      (.function, "__contains__ __repr__ __or__ __ror__ __ior__ __copy__ copy"),
      (.shared, "fromkeys"), (.reader, "__dict__ __weakref__"), (.value, "_abc_impl")] },
  { cls := ⟨"collections", "UserList"⟩
    inherits := [
      "collections.abc.MutableSequence collections.abc.Sequence",
      "collections.abc.Reversible collections.abc.Collection collections.abc.Sized",
      "collections.abc.Iterable collections.abc.Container"]
    maker := ⟨"abc", "ABCMeta"⟩, takes := [("initlist", true)]
    holdings := [
      (.function, "__init__ __repr__ __lt__ __le__ __eq__ __gt__ __ge__ _UserList__cast"),
      (.function, "__contains__ __len__ __getitem__ __setitem__ __delitem__ __add__ __radd__"),
      (.function, "__iadd__ __mul__ __rmul__ __imul__ __copy__ append insert pop remove"),
      (.function, "clear copy count index reverse sort extend"), (.reader, "__dict__ __weakref__"),
      (.value, "_abc_impl"), (.absent, "__hash__")] },
  { cls := ⟨"collections", "UserString"⟩
    inherits := [
      "collections.abc.Sequence collections.abc.Reversible",
      "collections.abc.Collection collections.abc.Sized collections.abc.Iterable",
      "collections.abc.Container"]
    maker := ⟨"abc", "ABCMeta"⟩, takes := [("seq", false)]
    holdings := [(.function, "__init__ __str__ __repr__ __int__ __float__ __complex__ __hash__"),
      (.function, "__getnewargs__ __eq__ __lt__ __le__ __gt__ __ge__ __contains__ __len__"),
      (.function, "__getitem__ __add__ __radd__ __mul__ __rmul__ __mod__ __rmod__ capitalize"),
      (.function, "casefold center count removeprefix removesuffix encode endswith"),
      (.function, "expandtabs find format format_map index isalpha isalnum isascii isdecimal"),
      (.function, "isdigit isidentifier islower isnumeric isprintable isspace istitle"),
      (.function, "isupper join ljust lower lstrip partition replace rfind rindex rjust"),
      (.function, "rpartition rstrip split rsplit splitlines startswith strip swapcase title"),
      (.function, "translate upper zfill"), (.reader, "__dict__ __weakref__"),
      (.maker, "maketrans"), (.value, "_abc_impl")] },
  { cls := ⟨"collections", "defaultdict"⟩, inherits := ["builtins.dict"], hasLayout := true
    holdings := [(.slot, "__repr__ __getattribute__ __init__ __or__ __ror__"),
      (.method, "__missing__ copy __copy__ __reduce__"), (.part, "default_factory"),
      (.maker, "__class_getitem__")] },
  { cls := ⟨"collections", "deque"⟩, hasLayout := true
    holdings := [
      (.slot, "__repr__ __getattribute__ __lt__ __le__ __eq__ __ne__ __gt__ __ge__ __iter__"),
      (.slot, "__init__ __len__ __add__ __mul__ __rmul__ __getitem__ __setitem__ __delitem__"),
      (.slot, "__contains__ __iadd__ __imul__"),
      (.method, "append appendleft clear __copy__ copy count extend extendleft index insert"),
      (.method, "pop popleft __reduce__ remove __reversed__ reverse rotate __sizeof__"),
      (.reader, "maxlen"), (.maker, "__new__ __class_getitem__"), (.absent, "__hash__")] }]

end Mapsmith.Program
