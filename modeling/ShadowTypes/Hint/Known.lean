import ShadowTypes.Hint.Basic

/-!
# Names known everywhere

A forward reference that no class of its module answers to may still name a built-in class, a
constant or a built-in function.
-/

namespace ShadowTypes.Hint

def builtinClasses : List String := [
  "object", "type", "bool", "int", "float", "complex", "str", "bytes", "bytearray", "memoryview",
  "list", "tuple", "set", "frozenset", "dict", "range", "slice", "property", "classmethod",
  "staticmethod", "super", "enumerate", "filter", "map", "reversed", "zip"]

/-- The built-in classes of exceptions and warnings. -/
def builtinExceptions : List String := [
  "ArithmeticError", "AssertionError", "AttributeError", "BaseException", "BaseExceptionGroup",
  "BlockingIOError", "BrokenPipeError", "BufferError", "BytesWarning", "ChildProcessError",
  "ConnectionAbortedError", "ConnectionError", "ConnectionRefusedError", "ConnectionResetError",
  "DeprecationWarning", "EOFError", "EncodingWarning", "Exception", "ExceptionGroup",
  "FileExistsError", "FileNotFoundError", "FloatingPointError", "FutureWarning", "GeneratorExit",
  "ImportError", "ImportWarning", "IndentationError", "IndexError", "InterruptedError",
  "IsADirectoryError", "KeyError", "KeyboardInterrupt", "LookupError", "MemoryError",
  "ModuleNotFoundError", "NameError", "NotADirectoryError", "NotImplementedError", "OSError",
  "OverflowError", "PendingDeprecationWarning", "PermissionError", "ProcessLookupError",
  "RecursionError", "ReferenceError", "ResourceWarning", "RuntimeError", "RuntimeWarning",
  "StopAsyncIteration", "StopIteration", "SyntaxError", "SyntaxWarning", "SystemError",
  "SystemExit", "TabError", "TimeoutError", "TypeError", "UnboundLocalError",
  "UnicodeDecodeError", "UnicodeEncodeError", "UnicodeError", "UnicodeTranslateError",
  "UnicodeWarning", "UserWarning", "ValueError", "Warning", "ZeroDivisionError"]

/-- Second names of built-in classes. -/
def builtinAliases : List (String × String) := [
  ("EnvironmentError", "OSError"), ("IOError", "OSError")]

def builtinFunctions : List String := [
  "__build_class__", "__import__", "abs", "aiter", "all", "anext", "any", "ascii", "bin",
  "breakpoint", "callable", "chr", "compile", "delattr", "dir", "divmod", "eval", "exec", "format",
  "getattr", "globals", "hasattr", "hash", "hex", "id", "input", "isinstance", "issubclass",
  "iter", "len", "locals", "max", "min", "next", "oct", "open", "ord", "pow", "print", "repr",
  "round", "setattr", "sorted", "sum", "vars"]

def builtinConstants : List (String × String) := [
  ("None", "None"), ("True", "True"), ("False", "False"), ("Ellipsis", "Ellipsis"),
  ("NotImplemented", "NotImplemented"), ("__debug__", "True")]

/-- The helpers of interactive work, and how they show. -/
def builtinHelpers : List (String × String) := [
  ("exit", "Use exit() or Ctrl-D (i.e. EOF) to exit"),
  ("quit", "Use quit() or Ctrl-D (i.e. EOF) to exit"),
  ("help", "Type help() for interactive help, or help(object) for help about object."),
  ("license", "Type license() to see the full license text")]

/-- What a name stands for if nothing else has it. -/
def known? (name : String) : Option Hint :=
  if builtinClasses.contains name || builtinExceptions.contains name then
    some (.named (.builtin name))
  else match builtinAliases.find? (·.1 == name) with
    | some (_, c) => some (.named (.builtin c))
    | .none => match (builtinConstants ++ builtinHelpers).find? (·.1 == name) with
      | some (_, t) => some (.symbol t)
      | .none =>
        if builtinFunctions.contains name then some (.symbol ("<built-in function " ++ name ++ ">"))
        else .none

end ShadowTypes.Hint
