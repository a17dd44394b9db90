import Mapsmith.Program.Library.Class

/-!
# The failures of the language: the data

The classes of what can go wrong in a program, with what they hold.
-/

namespace Mapsmith.Program

/-- The classes of failures. -/
def failureEntries : List LibraryEntry := [
  { cls := .builtin "ArithmeticError", inherits := ["builtins.Exception builtins.BaseException"]
    holdings := [(.slot, "__init__"), (.maker, "__new__")] },
  { cls := .builtin "AssertionError", inherits := ["builtins.Exception builtins.BaseException"]
    holdings := [(.slot, "__init__"), (.maker, "__new__")] },
  { cls := .builtin "AttributeError", inherits := ["builtins.Exception builtins.BaseException"]
    hasLayout := true
    holdings := [(.slot, "__str__ __init__"), (.part, "name obj")] },
  { cls := .builtin "BaseException", hasLayout := true
    holdings := [(.slot, "__repr__ __str__ __getattribute__ __setattr__ __delattr__ __init__"),
      (.method, "__reduce__ __setstate__ with_traceback add_note"),
      (.reader, "__dict__ args __traceback__ __context__ __cause__"),
      (.part, "__suppress_context__"), (.maker, "__new__")] },
  { cls := .builtin "BaseExceptionGroup", inherits := ["builtins.BaseException"], hasLayout := true
    holdings := [(.slot, "__str__ __init__"), (.method, "derive split subgroup"),
      (.part, "message exceptions"), (.maker, "__new__ __class_getitem__")] },
  { cls := .builtin "BlockingIOError"
    inherits := ["builtins.OSError builtins.Exception builtins.BaseException"]
    holdings := [(.slot, "__init__")] },
  { cls := .builtin "BrokenPipeError"
    inherits := [
      "builtins.ConnectionError builtins.OSError builtins.Exception",
      "builtins.BaseException"]
    holdings := [(.slot, "__init__")] },
  { cls := .builtin "BufferError", inherits := ["builtins.Exception builtins.BaseException"]
    holdings := [(.slot, "__init__"), (.maker, "__new__")] },
  { cls := .builtin "BytesWarning"
    inherits := ["builtins.Warning builtins.Exception builtins.BaseException"]
    holdings := [(.slot, "__init__"), (.maker, "__new__")] },
  { cls := .builtin "ChildProcessError"
    inherits := ["builtins.OSError builtins.Exception builtins.BaseException"]
    holdings := [(.slot, "__init__")] },
  { cls := .builtin "ConnectionAbortedError"
    inherits := [
      "builtins.ConnectionError builtins.OSError builtins.Exception",
      "builtins.BaseException"]
    holdings := [(.slot, "__init__")] },
  { cls := .builtin "ConnectionError"
    inherits := ["builtins.OSError builtins.Exception builtins.BaseException"]
    holdings := [(.slot, "__init__")] },
  { cls := .builtin "ConnectionRefusedError"
    inherits := [
      "builtins.ConnectionError builtins.OSError builtins.Exception",
      "builtins.BaseException"]
    holdings := [(.slot, "__init__")] },
  { cls := .builtin "ConnectionResetError"
    inherits := [
      "builtins.ConnectionError builtins.OSError builtins.Exception",
      "builtins.BaseException"]
    holdings := [(.slot, "__init__")] },
  { cls := .builtin "DeprecationWarning"
    inherits := ["builtins.Warning builtins.Exception builtins.BaseException"]
    holdings := [(.slot, "__init__"), (.maker, "__new__")] },
  { cls := .builtin "EOFError", inherits := ["builtins.Exception builtins.BaseException"]
    holdings := [(.slot, "__init__"), (.maker, "__new__")] },
  { cls := .builtin "EncodingWarning"
    inherits := ["builtins.Warning builtins.Exception builtins.BaseException"]
    holdings := [(.slot, "__init__"), (.maker, "__new__")] },
  { cls := .builtin "OSError", inherits := ["builtins.Exception builtins.BaseException"]
    hasLayout := true
    holdings := [(.slot, "__str__ __init__"), (.method, "__reduce__"),
      (.reader, "characters_written"), (.part, "errno strerror filename filename2"),
      (.maker, "__new__")] },
  { cls := .builtin "Exception", inherits := ["builtins.BaseException"]
    holdings := [(.slot, "__init__"), (.maker, "__new__")] },
  { cls := .builtin "ExceptionGroup"
    inherits := ["builtins.BaseExceptionGroup builtins.Exception builtins.BaseException"]
    holdings := [(.reader, "__weakref__")] },
  { cls := .builtin "FileExistsError"
    inherits := ["builtins.OSError builtins.Exception builtins.BaseException"]
    holdings := [(.slot, "__init__")] },
  { cls := .builtin "FileNotFoundError"
    inherits := ["builtins.OSError builtins.Exception builtins.BaseException"]
    holdings := [(.slot, "__init__")] },
  { cls := .builtin "FloatingPointError"
    inherits := ["builtins.ArithmeticError builtins.Exception builtins.BaseException"]
    holdings := [(.slot, "__init__"), (.maker, "__new__")] },
  { cls := .builtin "FutureWarning"
    inherits := ["builtins.Warning builtins.Exception builtins.BaseException"]
    holdings := [(.slot, "__init__"), (.maker, "__new__")] },
  { cls := .builtin "GeneratorExit", inherits := ["builtins.BaseException"]
    holdings := [(.slot, "__init__"), (.maker, "__new__")] },
  { cls := .builtin "ImportError", inherits := ["builtins.Exception builtins.BaseException"]
    hasLayout := true
    holdings := [(.slot, "__str__ __init__"), (.method, "__reduce__"), (.part, "msg name path")] },
  { cls := .builtin "ImportWarning"
    inherits := ["builtins.Warning builtins.Exception builtins.BaseException"]
    holdings := [(.slot, "__init__"), (.maker, "__new__")] },
  { cls := .builtin "IndentationError"
    inherits := ["builtins.SyntaxError builtins.Exception builtins.BaseException"]
    holdings := [(.slot, "__init__")] },
  { cls := .builtin "IndexError"
    inherits := ["builtins.LookupError builtins.Exception builtins.BaseException"]
    holdings := [(.slot, "__init__"), (.maker, "__new__")] },
  { cls := .builtin "InterruptedError"
    inherits := ["builtins.OSError builtins.Exception builtins.BaseException"]
    holdings := [(.slot, "__init__")] },
  { cls := .builtin "IsADirectoryError"
    inherits := ["builtins.OSError builtins.Exception builtins.BaseException"]
    holdings := [(.slot, "__init__")] },
  { cls := .builtin "KeyError"
    inherits := ["builtins.LookupError builtins.Exception builtins.BaseException"]
    holdings := [(.slot, "__str__ __init__")] },
  { cls := .builtin "KeyboardInterrupt", inherits := ["builtins.BaseException"]
    holdings := [(.slot, "__init__"), (.maker, "__new__")] },
  { cls := .builtin "LookupError", inherits := ["builtins.Exception builtins.BaseException"]
    holdings := [(.slot, "__init__"), (.maker, "__new__")] },
  { cls := .builtin "MemoryError", inherits := ["builtins.Exception builtins.BaseException"]
    holdings := [(.slot, "__init__"), (.maker, "__new__")] },
  { cls := .builtin "ModuleNotFoundError"
    inherits := ["builtins.ImportError builtins.Exception builtins.BaseException"]
    holdings := [(.slot, "__init__")] },
  { cls := .builtin "NameError", inherits := ["builtins.Exception builtins.BaseException"]
    hasLayout := true
    holdings := [(.slot, "__str__ __init__"), (.part, "name")] },
  { cls := .builtin "NotADirectoryError"
    inherits := ["builtins.OSError builtins.Exception builtins.BaseException"]
    holdings := [(.slot, "__init__")] },
  { cls := .builtin "NotImplementedError"
    inherits := ["builtins.RuntimeError builtins.Exception builtins.BaseException"]
    holdings := [(.slot, "__init__"), (.maker, "__new__")] },
  { cls := .builtin "OverflowError"
    inherits := ["builtins.ArithmeticError builtins.Exception builtins.BaseException"]
    holdings := [(.slot, "__init__"), (.maker, "__new__")] },
  { cls := .builtin "PendingDeprecationWarning"
    inherits := ["builtins.Warning builtins.Exception builtins.BaseException"]
    holdings := [(.slot, "__init__"), (.maker, "__new__")] },
  { cls := .builtin "PermissionError"
    inherits := ["builtins.OSError builtins.Exception builtins.BaseException"]
    holdings := [(.slot, "__init__")] },
  { cls := .builtin "ProcessLookupError"
    inherits := ["builtins.OSError builtins.Exception builtins.BaseException"]
    holdings := [(.slot, "__init__")] },
  { cls := .builtin "RecursionError"
    inherits := ["builtins.RuntimeError builtins.Exception builtins.BaseException"]
    holdings := [(.slot, "__init__"), (.maker, "__new__")] },
  { cls := .builtin "ReferenceError", inherits := ["builtins.Exception builtins.BaseException"]
    holdings := [(.slot, "__init__"), (.maker, "__new__")] },
  { cls := .builtin "ResourceWarning"
    inherits := ["builtins.Warning builtins.Exception builtins.BaseException"]
    holdings := [(.slot, "__init__"), (.maker, "__new__")] },
  { cls := .builtin "RuntimeError", inherits := ["builtins.Exception builtins.BaseException"]
    holdings := [(.slot, "__init__"), (.maker, "__new__")] },
  { cls := .builtin "RuntimeWarning"
    inherits := ["builtins.Warning builtins.Exception builtins.BaseException"]
    holdings := [(.slot, "__init__"), (.maker, "__new__")] },
  { cls := .builtin "StopAsyncIteration", inherits := ["builtins.Exception builtins.BaseException"]
    holdings := [(.slot, "__init__"), (.maker, "__new__")] },
  { cls := .builtin "StopIteration", inherits := ["builtins.Exception builtins.BaseException"]
    hasLayout := true
    holdings := [(.slot, "__init__"), (.part, "value")] },
  { cls := .builtin "SyntaxError", inherits := ["builtins.Exception builtins.BaseException"]
    hasLayout := true
    holdings := [(.slot, "__str__ __init__"),
      (.part, "msg filename lineno offset text end_lineno end_offset print_file_and_line")] },
  { cls := .builtin "SyntaxWarning"
    inherits := ["builtins.Warning builtins.Exception builtins.BaseException"]
    holdings := [(.slot, "__init__"), (.maker, "__new__")] },
  { cls := .builtin "SystemError", inherits := ["builtins.Exception builtins.BaseException"]
    holdings := [(.slot, "__init__"), (.maker, "__new__")] },
  { cls := .builtin "SystemExit", inherits := ["builtins.BaseException"], hasLayout := true
    holdings := [(.slot, "__init__"), (.part, "code")] },
  { cls := .builtin "TabError"
    inherits := [
      "builtins.IndentationError builtins.SyntaxError builtins.Exception",
      "builtins.BaseException"]
    holdings := [(.slot, "__init__")] },
  { cls := .builtin "TimeoutError"
    inherits := ["builtins.OSError builtins.Exception builtins.BaseException"]
    holdings := [(.slot, "__init__")] },
  { cls := .builtin "TypeError", inherits := ["builtins.Exception builtins.BaseException"]
    holdings := [(.slot, "__init__"), (.maker, "__new__")] },
  { cls := .builtin "UnboundLocalError"
    inherits := ["builtins.NameError builtins.Exception builtins.BaseException"]
    holdings := [(.slot, "__init__")] },
  { cls := .builtin "UnicodeDecodeError"
    inherits := [
      "builtins.UnicodeError builtins.ValueError builtins.Exception",
      "builtins.BaseException"]
    hasLayout := true
    holdings := [(.slot, "__str__ __init__"), (.part, "encoding object start end reason"),
      (.maker, "__new__")] },
  { cls := .builtin "UnicodeEncodeError"
    inherits := [
      "builtins.UnicodeError builtins.ValueError builtins.Exception",
      "builtins.BaseException"]
    hasLayout := true
    holdings := [(.slot, "__str__ __init__"), (.part, "encoding object start end reason"),
      (.maker, "__new__")] },
  { cls := .builtin "UnicodeError"
    inherits := ["builtins.ValueError builtins.Exception builtins.BaseException"]
    holdings := [(.slot, "__init__"), (.maker, "__new__")] },
  { cls := .builtin "UnicodeTranslateError"
    inherits := [
      "builtins.UnicodeError builtins.ValueError builtins.Exception",
      "builtins.BaseException"]
    hasLayout := true
    holdings := [(.slot, "__str__ __init__"), (.part, "encoding object start end reason"),
      (.maker, "__new__")] },
  { cls := .builtin "UnicodeWarning"
    inherits := ["builtins.Warning builtins.Exception builtins.BaseException"]
    holdings := [(.slot, "__init__"), (.maker, "__new__")] },
  { cls := .builtin "UserWarning"
    inherits := ["builtins.Warning builtins.Exception builtins.BaseException"]
    holdings := [(.slot, "__init__"), (.maker, "__new__")] },
  { cls := .builtin "ValueError", inherits := ["builtins.Exception builtins.BaseException"]
    holdings := [(.slot, "__init__"), (.maker, "__new__")] },
  { cls := .builtin "Warning", inherits := ["builtins.Exception builtins.BaseException"]
    holdings := [(.slot, "__init__"), (.maker, "__new__")] },
  { cls := .builtin "ZeroDivisionError"
    inherits := ["builtins.ArithmeticError builtins.Exception builtins.BaseException"]
    holdings := [(.slot, "__init__"), (.maker, "__new__")] }]

end Mapsmith.Program
