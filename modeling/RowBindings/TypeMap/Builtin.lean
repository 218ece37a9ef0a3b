import RowBindings.TypeMap.RuleSet

/-!
# The rules that are always at hand

The rules used when none are given. Types that the client library cannot read are not covered, so
that they get the fallback's type.
-/

namespace RowBindings.TypeMap

/-- A rule whose type for columns that may be null is the optional form of the other. -/
def Rule.optional (name : String) (dbTypes : List String) (type : String) : Rule :=
  { name, dbTypes, notNullType := type, nullableType := "Option<" ++ type ++ ">" }

/-- The rules used when none are given. -/
def RuleSet.builtin : RuleSet where
  rules := [
    .optional "string" ["character", "character varying", "text", "name", "citext"] "String",
    .optional "bool" ["boolean"] "bool",
    .optional "smallint" ["smallint"] "i16",
    .optional "integer" ["integer"] "i32",
    .optional "bigint" ["bigint"] "i64",
    .optional "real" ["real"] "f32",
    .optional "double" ["double precision"] "f64",
    .optional "numeric" ["numeric"] "rust_decimal::Decimal",
    .optional "timestamptz" ["timestamp with time zone"] "chrono::DateTime<chrono::Utc>",
    .optional "timestamp" ["timestamp without time zone"] "chrono::NaiveDateTime",
    .optional "date" ["date"] "chrono::NaiveDate",
    .optional "time" ["time without time zone"] "chrono::NaiveTime",
    .optional "uuid" ["uuid"] "uuid::Uuid",
    .optional "json" ["json", "jsonb"] "serde_json::Value",
    .optional "bytea" ["bytea"] "Vec<u8>",
    .optional "inet" ["inet"] "std::net::IpAddr",
    .optional "cidr" ["cidr"] "cidr::IpCidr",
    .optional "text_array" ["re/^(text|character varying)\\[\\]$"] "Vec<String>"]
  fallback := .optional fallbackName ["*"] "String"

end RowBindings.TypeMap
