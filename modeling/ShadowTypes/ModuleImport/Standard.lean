/-!
# Modules that are always there

The modules of the language's own library can be imported everywhere and declare no classes. A
package is a module that has others inside.
-/

namespace ShadowTypes.ModuleImport

def plainModules : List String := [
  "__future__", "__main__", "abc", "aifc", "argparse", "array", "ast", "asynchat", "asyncore",
  "atexit", "audioop", "base64", "bdb", "binascii", "bisect", "builtins", "bz2", "cProfile",
  "calendar", "cgi", "cgitb", "chunk", "cmath", "cmd", "code", "codecs", "codeop", "colorsys",
  "compileall", "configparser", "contextlib", "contextvars", "copy", "copyreg", "crypt", "csv",
  "dataclasses", "datetime", "decimal", "difflib", "dis", "doctest", "enum", "errno",
  "faulthandler", "fcntl", "filecmp", "fileinput", "fnmatch", "fractions", "ftplib", "functools",
  "gc", "genericpath", "getopt", "getpass", "gettext", "glob", "graphlib", "grp", "gzip",
  "hashlib", "heapq", "hmac", "imaplib", "imghdr", "imp", "inspect", "io", "ipaddress",
  "itertools", "keyword", "linecache", "locale", "lzma", "mailbox", "mailcap", "marshal", "math",
  "mimetypes", "mmap", "modulefinder", "netrc", "nntplib", "ntpath", "nturl2path", "numbers",
  "opcode", "operator", "optparse", "os", "pathlib", "pdb", "pickle", "pickletools", "pipes",
  "pkgutil", "platform", "plistlib", "poplib", "posix", "posixpath", "pprint", "profile",
  "pstats", "pty", "pwd", "py_compile", "pyclbr", "pydoc", "pyexpat", "queue", "quopri", "random",
  "readline", "reprlib", "resource", "rlcompleter", "runpy", "sched", "secrets", "select",
  "selectors", "shelve", "shlex", "shutil", "signal", "site", "smtpd", "smtplib", "sndhdr",
  "socket", "socketserver", "sre_compile", "sre_constants", "sre_parse", "ssl", "stat",
  "statistics", "string", "stringprep", "struct", "subprocess", "sunau", "symtable", "sys",
  "sysconfig", "syslog", "tabnanny", "tarfile", "telnetlib", "tempfile", "termios", "textwrap",
  "threading", "time", "timeit", "token", "tokenize", "trace", "traceback", "tracemalloc", "tty",
  "types", "typing", "unicodedata", "uu", "uuid", "warnings", "wave", "weakref", "webbrowser",
  "xdrlib", "zipapp", "zipfile", "zipimport", "zlib"]

/-- The packages, with the names of the modules inside. -/
def packages : List (String × List String) := [
  ("asyncio", [
    "base_events", "base_futures", "base_subprocess", "base_tasks", "constants", "coroutines",
    "events", "exceptions", "format_helpers", "futures", "locks", "log", "mixins",
    "proactor_events", "protocols", "queues", "runners", "selector_events", "sslproto",
    "staggered", "streams", "subprocess", "taskgroups", "tasks", "threads", "timeouts",
    "transports", "trsock", "unix_events"]),
  ("collections", ["abc"]),
  ("concurrent", ["futures"]),
  ("concurrent.futures", ["process", "thread"]),
  ("ctypes", ["macholib", "util"]),
  ("ctypes.macholib", ["dyld", "dylib", "framework"]),
  ("curses", ["ascii", "has_key", "panel", "textpad"]),
  ("dbm", ["dumb", "ndbm"]),
  ("distutils", []),
  ("email", [
    "base64mime", "charset", "contentmanager", "encoders", "errors", "feedparser", "generator",
    "header", "headerregistry", "iterators", "message", "mime", "parser", "policy", "quoprimime",
    "utils"]),
  ("email.mime", [
    "application", "audio", "base", "image", "message", "multipart", "nonmultipart", "text"]),
  ("encodings", []),
  ("ensurepip", []),
  ("html", ["entities", "parser"]),
  ("http", ["client", "cookiejar", "cookies", "server"]),
  ("importlib", ["abc", "machinery", "metadata", "readers", "resources", "simple", "util"]),
  ("importlib.resources", ["abc", "readers", "simple"]),
  ("json", ["decoder", "encoder", "scanner", "tool"]),
  ("logging", ["config", "handlers"]),
  ("multiprocessing", [
    "connection", "context", "dummy", "forkserver", "heap", "managers", "pool", "popen_fork",
    "popen_forkserver", "popen_spawn_posix", "process", "queues", "reduction", "resource_sharer",
    "resource_tracker", "shared_memory", "sharedctypes", "spawn", "synchronize", "util"]),
  ("multiprocessing.dummy", ["connection"]),
  ("pydoc_data", ["topics"]),
  ("re", []),
  ("sqlite3", ["dbapi2", "dump"]),
  ("tomllib", []),
  ("unittest", [
    "async_case", "case", "loader", "main", "mock", "result", "runner", "signals", "suite",
    "util"]),
  ("urllib", ["error", "parse", "request", "response", "robotparser"]),
  ("venv", []),
  ("wsgiref", ["handlers", "headers", "simple_server", "types", "util", "validate"]),
  ("xml", ["dom", "etree", "parsers", "sax"]),
  ("xml.dom", [
    "NodeFilter", "domreg", "expatbuilder", "minicompat", "minidom", "pulldom", "xmlbuilder"]),
  ("xml.etree", ["ElementInclude", "ElementPath", "ElementTree", "cElementTree"]),
  ("xml.parsers", ["expat"]),
  ("xml.sax", ["expatreader", "handler", "saxutils", "xmlreader"]),
  ("xmlrpc", ["client", "server"]),
  ("zoneinfo", [])]

/-- The modules that others have a name for, though they are no packages. -/
def innerNames : List String := ["os.path"]

/-- The modules inside the packages, by their whole names. -/
def innerModules : List String :=
  packages.flatMap fun p => p.2.map fun name => p.1 ++ "." ++ name

def isStandard (name : String) : Bool :=
  plainModules.contains name || packages.any (·.1 == name) || innerModules.contains name ||
    innerNames.contains name

/-- Whether a module of the given whole name can be inside `outer`: only packages have others. -/
def hasInside (outer name : String) : Bool :=
  packages.any (·.1 == outer) || innerNames.contains name

end ShadowTypes.ModuleImport
