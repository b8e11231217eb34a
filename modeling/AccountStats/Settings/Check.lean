import AccountStats.Settings.Shown
import AccountStats.Text.Blank
/-
Which settings the service accepts. Settings are checked in a fixed order, and the first fault counts.
-/
namespace AccountStats

inductive Settings.Fault where
  | logFormat (given : String)
  | listen (given : String)
  /-- URLs are kept masked -/
  | databaseUrl (masked : String)
  | redisUrl (masked : String)
  | noToken
  | gitHubUrl (given : String)
  | noGitHubTimeout
  | noSoftTtl
  | hardTtlShorter (hard soft : UInt64)
  | noRefreshTimeout
  | refreshLimit (given : UInt64)
  | noSweepInterval
  | sweepConcurrency (given : UInt64)
  | noBannerChannel
  | noConnection
  | noConnectTimeout
deriving DecidableEq, Repr

namespace Settings

def Fault.text : Fault → String
  | .logFormat given => "LOG_FORMAT must be 'text' or 'json', got '" ++ given ++ "'"
  | .listen given => "LISTEN must be in format 'host:port', got '" ++ given ++ "'"
  | .databaseUrl masked => "DATABASE_URL must start with 'postgres://' or 'postgresql://', got '" ++ masked ++ "'"
  | .redisUrl masked => "REDIS_URL must start with 'redis://' or 'rediss://', got '" ++ masked ++ "'"
  | .noToken => "GITHUB_TOKENS must contain at least one token"
  | .gitHubUrl given => "GITHUB_API_URL must be an http(s) URL, got '" ++ given ++ "'"
  | .noGitHubTimeout => "GITHUB_REQUEST_TIMEOUT_SECS must be greater than 0"
  | .noSoftTtl => "STATS_SOFT_TTL_SECS must be greater than 0"
  | .hardTtlShorter hard soft =>
    "STATS_HARD_TTL_SECS (" ++ toString hard ++ ") must not be shorter than STATS_SOFT_TTL_SECS (" ++
      toString soft ++ ")"
  | .noRefreshTimeout => "BACKGROUND_REFRESH_TIMEOUT_SECS must be greater than 0"
  | .refreshLimit given => "BACKGROUND_REFRESH_LIMIT must be between 1 and 1024, got " ++ toString given
  | .noSweepInterval => "REFRESH_INTERVAL_SECS must be greater than 0"
  | .sweepConcurrency given => "REFRESH_CONCURRENCY must be at most 256, got " ++ toString given
  | .noBannerChannel => "BANNER_EVENTS_CHANNEL must not be empty"
  | .noConnection => "DB_MAX_CONNECTIONS must be at least 1"
  | .noConnectTimeout => "DB_CONNECT_TIMEOUT must be greater than 0"

/-- whether a text begins with one of these -/
def startsWithAny (starts : List String) (s : String) : Bool :=
  starts.any fun start => start.toList.isPrefixOf s.toList

/-- the rules that settings are checked against: each a condition that is a fault, and that fault -/
def rules (s : Settings) : List (Bool × Fault) := [
  (s.logFormat != "text" && s.logFormat != "json", .logFormat s.logFormat),
  (!s.listen.toList.contains ':', .listen s.listen),
  (!startsWithAny ["postgres://", "postgresql://"] s.databaseUrl, .databaseUrl (maskPassword s.databaseUrl)),
  (s.redisUrl.any fun url => !startsWithAny ["redis://", "rediss://"] url,
    .redisUrl (maskPassword (s.redisUrl.getD ""))),
  (s.tokens.isEmpty, .noToken),
  (!startsWithAny ["http://", "https://"] s.gitHubUrl, .gitHubUrl s.gitHubUrl),
  (s.gitHubTimeout == 0, .noGitHubTimeout),
  (s.softTtl == 0, .noSoftTtl),
  (s.hardTtl < s.softTtl, .hardTtlShorter s.hardTtl s.softTtl),
  (s.refreshTimeout == 0, .noRefreshTimeout),
  (s.refreshLimit == 0 || s.refreshLimit > 1024, .refreshLimit s.refreshLimit),
  (s.sweepInterval == 0, .noSweepInterval),
  (s.sweepConcurrency > 256, .sweepConcurrency s.sweepConcurrency),
  (s.redisUrl.isSome && Text.allBlank s.bannerChannel, .noBannerChannel),
  (s.maxConnections == 0, .noConnection),
  (s.connectTimeout == 0, .noConnectTimeout)]

/-- the first fault of settings, if they have one -/
def fault? (s : Settings) : Option Fault := (s.rules.find? Prod.fst).map Prod.snd

end Settings

end AccountStats
