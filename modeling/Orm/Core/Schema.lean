import Orm.Core.Value

/-!
# Table schemas and cache keys

The part of an entity schema (`tableSchema`) that the flush engine and the consumer read:
table and pool names, the ordered column list with its column mapping, the cache tiers, the
cached indexes, the log and dirty-stream configuration, the reference fields, the unique
indexes and the reverse-reference usage map that drives cascading deletes.

Shape decisions:

* a schema is plain data; the validated registry maps the Go type's name to its schema
  (`Orm.Engine.schemas`), so an entity records only its type name;
* `columnMapping` is Go's `map[string]int` read directly: a column it does not know reads
  as index `0`, the `ID` slot;
* the two key builders the schema provides outside src (`getCacheKey`,
  `getCacheKeySearch`) are modelled from the spec: a row key is `CachePrefix:ID`, and a
  query key is a deterministic function of the prefix, the index name and the attributes
  (a 32-bit FNV-1a digest of the attributes' `%v` rendering, printed in decimal).
-/

namespace Orm

/-- One entry of `cachedIndexesAll`. -/
structure CachedIndex where
  /-- `TrackedFields`: the columns whose change invalidates the index's keys. -/
  trackedFields : List String
  /-- `QueryFields`: the columns whose values parameterise a key of the index. -/
  queryFields : List String
  deriving DecidableEq, Repr

/-- The schema data of one entity type. -/
structure TableSchema where
  /-- The Go type's name: the key of the flush's per-type maps and the `E` of dirty events. -/
  t : String
  tableName : String
  mysqlPoolName : String
  /-- The ordered columns; element `0` is `ID`. -/
  columnNames : List String
  cachePrefix : String
  /-- The local cache pool, when the schema has one. -/
  localCache : Option String
  /-- The remote (Redis) cache pool, when the schema has one. -/
  redisCache : Option String
  cachedIndexesAll : GoMap String CachedIndex
  hasFakeDelete : Bool
  hasLog : Bool
  logTableName : String
  logPoolName : String
  skipLogs : List String
  /-- `dirtyFields`: stream name to the columns it tracks (`"ORM"` tracks every change). -/
  dirtyFields : GoMap String (List String)
  /-- Fields holding one referenced entity. -/
  refOne : List String
  /-- Fields holding a slice of referenced entities. -/
  refMany : List String
  uniqueIndices : GoMap String (List String)
  /-- The columns whose tag carries `cascade`. -/
  cascadeColumns : List String
  /-- `GetUsage`: referencing type to its reference columns that point at this type. -/
  usage : GoMap String (List String)
  hasSearchCache : Bool
  searchCacheName : String
  redisSearchPrefix : String
  /-- The columns of `mapBindToRedisSearch`; their conversion is the identity here. -/
  mapBindToRedisSearch : List String
  deriving Repr

namespace TableSchema

variable (s : TableSchema)

/-- `columnMapping[name]`: the column's index in the row vector, `0` for an unknown name. -/
def columnMapping (name : String) : Nat :=
  GoMap.findD (s.columnNames.enum.map Prod.swap) name 0

/-- `getCacheKey` (not in src), modelled from the spec: `CachePrefix + ":" + ID`. -/
def getCacheKey (id : Nat) : String :=
  s.cachePrefix ++ ":" ++ toString id

end TableSchema

/-- `fmt.Sprintf("%v", v)` of one canonical value. -/
def Value.render : Value → String
  | .null => "<nil>"
  | .u64 n => toString n
  | .i64 n => toString n
  | .str s => s
  | .bool b => toString b

/-- The 32-bit FNV-1a digest of a string's characters. -/
def fnv1a (s : String) : Nat :=
  s.toList.foldl (fun h c => (Nat.xor h c.toNat * 16777619) % 4294967296) 2166136261

/-- `getCacheKeySearch` (not in src), modelled from the spec: a deterministic function of the
cache prefix, the index name and the attribute tuple. -/
def getCacheKeySearch (s : TableSchema) (indexName : String) (attributes : List Value) :
    String :=
  s.cachePrefix ++ "_" ++ indexName ++
    toString (fnv1a ("[" ++ " ".intercalate (attributes.map Value.render) ++ "]"))

end Orm
