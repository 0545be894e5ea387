import TupleStore.CommandLine.Command
import TupleStore.Json.Class

/-!
# Command lines as JSON

What a command line says, and the options of a connection, as JSON.
-/

namespace TupleStore

open ToJson (toJson)

namespace ConnectionOptions

def functionNames (options : ConnectionOptions) : List String :=
  let functions := options.functions
  [functions.schema, functions.select, functions.insert, functions.replace, functions.update,
    functions.upsert, functions.delete, functions.truncate]

def description (options : ConnectionOptions) : List (String × Json) :=
  [("nodes", toJson options.nodes), ("user", toJson options.user),
    ("password", toJson options.password), ("connections", toJson options.connections),
    ("connect_timeout", toJson options.connectTimeout),
    ("read_timeout", toJson options.readTimeout),
    ("request_timeout", toJson options.requestTimeout), ("cluster", toJson options.cluster),
    ("crud_available", toJson options.crudAvailable),
    ("uses_proxy", toJson options.usesCluster), ("functions", toJson options.functionNames)]

end ConnectionOptions

instance : ToJson ConnectionOptions := ⟨fun options => .object options.description⟩

instance : ToJson Network.Config :=
  ⟨fun config => .object [("nodes", toJson config.nodes), ("user", toJson config.user),
    ("password", toJson config.password), ("connections", toJson config.connections),
    ("connect_timeout", toJson config.connectTimeout),
    ("read_timeout", toJson config.readTimeout),
    ("request_timeout", toJson config.requestTimeout)]⟩

namespace CommandLine

instance : ToJson CacheCommand where
  toJson
    | .get cache key => toJson ["get", cache, key]
    | .put cache key value seconds =>
        .array [.str "put", .str cache, .str key, .str value, toJson seconds]
    | .evict cache key => toJson ["evict", cache, key]
    | .clear cache => toJson ["clear", cache]

namespace Command

def name : Command → String
  | .ping => "ping"
  | .spaces => "spaces"
  | .select .. => "select"
  | .call .. => "call"
  | .eval .. => "eval"
  | .truncate _ => "truncate"
  | .cache _ => "cache"

def argumentEntries : Command → List (String × Json)
  | .ping | .spaces => []
  | .select space selection =>
      [("space", toJson space), ("index", toJson selection.index), ("key", toJson selection.key),
        ("limit", toJson selection.limit), ("offset", toJson selection.offset),
        ("desc", toJson selection.descending)]
  | .call function arguments => [("function", toJson function), ("args", toJson arguments)]
  | .eval expression arguments => [("expression", toJson expression), ("args", toJson arguments)]
  | .truncate space => [("space", toJson space)]
  | .cache command => [("cache", toJson command)]

end Command

instance : ToJson Invocation :=
  ⟨fun invocation => .object (("command", toJson invocation.command.name) ::
    ("options", toJson invocation.options) :: invocation.command.argumentEntries)⟩

end CommandLine

end TupleStore
