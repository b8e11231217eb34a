import AccountStats.GitHub.Tokens
import AccountStats.Settings.Check
import AccountStats.Text.Decimal
import AccountStats.Text.Utf8
/-
Reading settings from environment variables. A value that is no text counts as not set, except where it is required. A
number that cannot be read counts as not set, too.

The database and Redis are given by URLs, or by parts from which URLs are put together.
-/
namespace AccountStats

/-- environment variables with their values -/
abbrev Environment := List (String × ByteArray)

namespace Environment

inductive ReadError where
  | notFound
  | notText (value : ByteArray)

def ReadError.text : ReadError → String
  | .notFound => "environment variable not found"
  | .notText value => "environment variable was not valid unicode: " ++ Text.quotedBytes value

def read (env : Environment) (name : String) : Except ReadError String :=
  match env.lookup name with
  | none => .error .notFound
  | some value => match Text.decodeUtf8 value with
    | some s => .ok s
    | none => .error (.notText value)

/-- a value, if it is set -/
def read? (env : Environment) (name : String) : Option String := (env.read name).toOption

def readOr (env : Environment) (name default : String) : String := (env.read? name).getD default

/-- a number of that many bits, blanks around it left out -/
def number (env : Environment) (bits : Nat) (name : String) (default : Nat) : Nat :=
  ((env.read? name).bind fun s => Text.unsigned? bits (Text.trim s.toList)).getD default

def word (env : Environment) (name : String) (default : Nat) : UInt64 := UInt64.ofNat (env.number 64 name default)

end Environment

inductive Settings.LoadError where
  /-- a part of the database URL that has no default -/
  | databasePart (name : String) (cause : Environment.ReadError)
  | tokens (cause : Environment.ReadError)
  | fault (fault : Settings.Fault)

namespace Settings

/-- the texts of an error, from the outermost to its cause -/
def LoadError.chain : LoadError → List String
  | .databasePart name cause =>
    ["Failed to load database configuration", name ++ " is required without DATABASE_URL", cause.text]
  | .tokens cause => ["GITHUB_TOKENS must be set", cause.text]
  | .fault f => [f.text]

/-- the chain as far as only the database URL was asked for -/
def LoadError.databaseChain (e : LoadError) : List String :=
  match e with
  | .databasePart .. => e.chain.drop 1
  | e => e.chain

def databasePart (env : Environment) (name : String) : Except LoadError String :=
  (env.read name).mapError (.databasePart name)

/-- the database URL, given whole or in parts -/
def loadDatabaseUrl (env : Environment) : Except LoadError String :=
  match env.read? "DATABASE_URL" with
  | some url => .ok url
  | none => do
    let user ← databasePart env "DB_USER"
    let password ← databasePart env "DB_PASSWORD"
    let name ← databasePart env "DB_NAME"
    let host := env.readOr "DB_HOST" "localhost"
    let port := env.readOr "DB_PORT" "5432"
    return "postgres://" ++ user ++ ":" ++ password ++ "@" ++ host ++ ":" ++ port ++ "/" ++ name

/-- the part of a Redis URL that gives a password, unless that is empty -/
def redisAuth (env : Environment) : String :=
  match env.read? "REDIS_PASSWORD" with
  | some password => if password = "" then "" else ":" ++ password ++ "@"
  | none => ""

/-- the Redis URL, given whole or in parts, of which the host is required -/
def loadRedisUrl (env : Environment) : Option String :=
  match env.read? "REDIS_URL" with
  | some url => some url
  | none => (env.read? "REDIS_HOST").map fun host =>
    "redis://" ++ redisAuth env ++ host ++ ":" ++ env.readOr "REDIS_PORT" "6379" ++ "/" ++ env.readOr "REDIS_DB" "0"

/-- settings as the environment gives them, not checked -/
def ofEnvironment (env : Environment) : Except LoadError Settings := do
  let databaseUrl ← loadDatabaseUrl env
  let tokens ← (env.read "GITHUB_TOKENS").mapError .tokens
  return {
    databaseUrl
    redisUrl := loadRedisUrl env
    listen := env.readOr "LISTEN" "0.0.0.0:3000"
    logFilter := env.readOr "RUST_LOG" "info"
    logFormat := env.readOr "LOG_FORMAT" "text"
    tokens := GitHub.tokensOf tokens
    gitHubUrl := env.readOr "GITHUB_API_URL" "https://api.github.com"
    gitHubTimeout := env.word "GITHUB_REQUEST_TIMEOUT_SECS" 10
    softTtl := env.word "STATS_SOFT_TTL_SECS" 600
    hardTtl := env.word "STATS_HARD_TTL_SECS" 86400
    refreshTimeout := env.word "BACKGROUND_REFRESH_TIMEOUT_SECS" 30
    refreshLimit := env.word "BACKGROUND_REFRESH_LIMIT" 16
    sweepInterval := env.word "REFRESH_INTERVAL_SECS" 3600
    sweepConcurrency := env.word "REFRESH_CONCURRENCY" 4
    sweepBatch := env.word "REFRESH_BATCH_SIZE" 10
    bannerChannel := env.readOr "BANNER_EVENTS_CHANNEL" "github_banner_info"
    maxConnections := UInt32.ofNat (env.number 32 "DB_MAX_CONNECTIONS" 10)
    connectTimeout := env.word "DB_CONNECT_TIMEOUT" 30
    idleTimeout := env.word "DB_IDLE_TIMEOUT" 600
    maxLifetime := env.word "DB_MAX_LIFETIME" 1800 }

/-- the variables that settings are read from -/
def variableNames : List String := [
  "DATABASE_URL", "DB_USER", "DB_PASSWORD", "DB_NAME", "DB_HOST", "DB_PORT", "REDIS_URL", "REDIS_HOST", "REDIS_PORT",
  "REDIS_DB", "REDIS_PASSWORD", "LISTEN", "RUST_LOG", "LOG_FORMAT", "GITHUB_TOKENS", "GITHUB_API_URL",
  "GITHUB_REQUEST_TIMEOUT_SECS", "STATS_SOFT_TTL_SECS", "STATS_HARD_TTL_SECS", "BACKGROUND_REFRESH_TIMEOUT_SECS",
  "BACKGROUND_REFRESH_LIMIT", "REFRESH_INTERVAL_SECS", "REFRESH_CONCURRENCY", "REFRESH_BATCH_SIZE",
  "BANNER_EVENTS_CHANNEL", "DB_MAX_CONNECTIONS", "DB_CONNECT_TIMEOUT", "DB_IDLE_TIMEOUT", "DB_MAX_LIFETIME"]

/-- settings that were checked -/
def load (env : Environment) : Except LoadError Settings := do
  let s ← ofEnvironment env
  match s.fault? with
  | some f => .error (.fault f)
  | none => return s

end Settings

end AccountStats
