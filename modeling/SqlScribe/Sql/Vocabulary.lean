import SqlScribe.Dialect

/-!
# Vocabulary

The words with a meaning of their own, in upper case: for each dialect its keywords, the
names of its functions and the names of its types, and apart from these the keywords that
all dialects share.  Text is read without knowing its dialect, so a word counts as a
keyword, a function or a type as soon as one dialect has it as such; `isKeyword`,
`isFunction` and `isDatatype` compare a word exactly, and so know upper-case words only.
-/

namespace SqlScribe.Sql

/-- The words of one dialect. -/
structure Vocabulary where
  /-- The keywords that not all dialects share. -/
  keywords : List String
  /-- The names of the built-in functions. -/
  functions : List String
  /-- The names of the types. -/
  datatypes : List String
  deriving Repr

/-- The keywords of every dialect. -/
def commonKeywords : List String := [
    "ADD", "ALL", "ALTER", "AND", "ANY", "AS", "ASC", "BEGIN", "BETWEEN", "BY", "CASCADE", "CASE",
    "CHECK", "COLUMN", "COMMENT", "COMMIT", "CONSTRAINT", "CREATE", "CROSS", "DATABASE",
    "DEFAULT", "DELETE", "DESC", "DISTINCT", "DROP", "ELSE", "END", "EXCEPT", "EXISTS", "FALSE",
    "FETCH", "FOR", "FOREIGN", "FROM", "FULL", "GRANT", "GROUP", "HAVING", "IF", "IN", "INDEX",
    "INNER", "INSERT", "INTERSECT", "INTO", "IS", "JOIN", "KEY", "LEFT", "LIKE", "LIMIT", "NOT",
    "NULL", "OFFSET", "ON", "OR", "ORDER", "OUTER", "PRIMARY", "REFERENCES", "REVOKE", "RIGHT",
    "ROLLBACK", "SCHEMA", "SELECT", "SET", "TABLE", "THEN", "TO", "TRANSACTION", "TRIGGER",
    "TRUE", "TRUNCATE", "UNION", "UNIQUE", "UPDATE", "USING", "VALUES", "VIEW", "WHEN", "WHERE",
    "WITH"
  ]

namespace Vocabulary

/-- The words of MySQL. -/
def mySql : Vocabulary where
  keywords := [
    "AUTO_INCREMENT", "CHARSET", "COLLATE", "DELAYED", "DUPLICATE", "ENGINE", "EXPLAIN", "FORCE",
    "HIGH_PRIORITY", "IGNORE", "LOCK", "LOW_PRIORITY", "MODIFY", "REGEXP", "RENAME", "REPLACE",
    "SHOW", "STRAIGHT_JOIN", "TEMPORARY", "UNLOCK", "UNSIGNED", "USE", "ZEROFILL"
  ]
  functions := [
    "AVG", "CONCAT", "CONCAT_WS", "COUNT", "CURDATE", "CURRENT_TIMESTAMP", "DATE_ADD",
    "DATE_FORMAT", "DATE_SUB", "GROUP_CONCAT", "IFNULL", "JSON_EXTRACT", "JSON_OBJECT",
    "LAST_INSERT_ID", "LENGTH", "LOWER", "MAX", "MIN", "NOW", "ROUND", "SUBSTRING", "SUM",
    "UPPER", "UUID"
  ]
  datatypes := [
    "BIGINT", "BINARY", "BLOB", "BOOL", "BOOLEAN", "CHAR", "DATE", "DATETIME", "DECIMAL",
    "DOUBLE", "ENUM", "FLOAT", "INT", "INTEGER", "JSON", "LONGBLOB", "LONGTEXT", "MEDIUMINT",
    "MEDIUMTEXT", "SMALLINT", "TEXT", "TIME", "TIMESTAMP", "TINYINT", "TINYTEXT", "VARBINARY",
    "VARCHAR", "YEAR"
  ]

/-- The words of PostgreSQL. -/
def postgreSql : Vocabulary where
  keywords := [
    "ALWAYS", "ANALYZE", "CONFLICT", "DO", "EXTENSION", "GENERATED", "IDENTITY", "ILIKE",
    "LATERAL", "MATERIALIZED", "NOTHING", "NULLS", "OVER", "PARTITION", "RETURNING", "SEQUENCE",
    "SIMILAR", "TABLESPACE", "VACUUM", "WINDOW"
  ]
  functions := [
    "ARRAY_AGG", "COALESCE", "CURRENT_DATE", "DATE_TRUNC", "EXTRACT", "GEN_RANDOM_UUID",
    "GENERATE_SERIES", "JSONB_AGG", "JSONB_BUILD_OBJECT", "NEXTVAL", "NULLIF", "ROW_NUMBER",
    "STRING_AGG", "TO_CHAR", "TO_JSONB", "UNNEST"
  ]
  datatypes := [
    "BIGSERIAL", "BIT", "BYTEA", "CIDR", "DOUBLE", "INET", "INTERVAL", "JSONB", "MONEY",
    "NUMERIC", "PRECISION", "REAL", "SERIAL", "SMALLSERIAL", "TIMESTAMPTZ", "TSVECTOR", "UUID",
    "VARBIT", "XML"
  ]

/-- The words of SQLite. -/
def sqlite : Vocabulary where
  keywords := [
    "ABORT", "AUTOINCREMENT", "ATTACH", "DETACH", "FAIL", "GLOB", "PRAGMA", "RAISE", "REINDEX",
    "ROWID", "STRICT", "TEMP", "VIRTUAL", "WITHOUT"
  ]
  functions := [
    "ABS", "CHANGES", "DATETIME", "GROUP_CONCAT", "HEX", "INSTR", "JSON_EXTRACT",
    "LAST_INSERT_ROWID", "LTRIM", "PRINTF", "RANDOM", "RTRIM", "STRFTIME", "SUBSTR", "TOTAL",
    "TRIM", "TYPEOF"
  ]
  datatypes := [
    "BLOB", "INTEGER", "NUMERIC", "REAL", "TEXT"
  ]

/-- The words of Oracle Database. -/
def oracle : Vocabulary where
  keywords := [
    "CONNECT", "DUAL", "EACH", "INCREMENT", "MERGE", "MINUS", "NEW", "NOCACHE", "NOCYCLE",
    "PRIOR", "REPLACE", "ROW", "ROWNUM", "START", "SYNONYM", "SYSDATE"
  ]
  functions := [
    "ADD_MONTHS", "DECODE", "INITCAP", "LISTAGG", "NEXTVAL", "NVL", "NVL2", "SUBSTR", "SYS_GUID",
    "TO_CHAR", "TO_DATE", "TO_NUMBER", "TO_TIMESTAMP", "TRUNC"
  ]
  datatypes := [
    "BINARY_DOUBLE", "BINARY_FLOAT", "CLOB", "LONG", "NCHAR", "NCLOB", "NUMBER", "NVARCHAR2",
    "RAW", "ROWID", "VARCHAR2"
  ]

/-- The words of a dialect. -/
def ofDialect : Dialect → Vocabulary
  | .mySql => mySql
  | .postgreSql => postgreSql
  | .sqlite => sqlite
  | .oracle => oracle

end Vocabulary

/-- Whether a word is a keyword of some dialect. -/
def isKeyword (word : String) : Bool :=
  commonKeywords.contains word
    || Dialect.all.any fun d => (Vocabulary.ofDialect d).keywords.contains word

/-- Whether a word is the name of a function of some dialect. -/
def isFunction (word : String) : Bool :=
  Dialect.all.any fun d => (Vocabulary.ofDialect d).functions.contains word

/-- Whether a word is the name of a type of some dialect. -/
def isDatatype (word : String) : Bool :=
  Dialect.all.any fun d => (Vocabulary.ofDialect d).datatypes.contains word

end SqlScribe.Sql
