import HttpBench.Text.Quoted

/-!
# Setup errors

What is wrong with the setup of a run, found before any request is made. Each
error is a cause with the facts that explain it; `message` is its text, and
`record` shows the cause and the facts one by one.
-/

namespace HttpBench

/-- **Why a run cannot be set up.** -/
inductive SetupError where
  | zeroRequests
  | zeroConcurrency
  | concurrencyExceedsTotal (concurrency total : Nat)
  | zeroTimeout
  | zeroCacheTtl
  | zeroIterations
  | invalidTarget (url reason : String)
  | unsupportedScheme (scheme : String)
  | invalidHeader (name reason : String)
  | unknownValue (field value : String)
  | noRuns
  /-- the configuration file cannot be read -/
  | unreadable (reason : String)
  /-- the configuration is not well formed, or does not fit -/
  | malformed
deriving DecidableEq, Repr

namespace SetupError

/-- The text of an error for a reader. -/
def message : SetupError → String
  | .zeroRequests => "Total request count must be positive"
  | .zeroConcurrency => "Concurrency level must be positive"
  | .concurrencyExceedsTotal concurrency total =>
    "Concurrency " ++ Nat.repr concurrency ++ " exceeds total request count " ++ Nat.repr total
  | .zeroTimeout => "Per-request timeout must be non-zero"
  | .zeroCacheTtl => "Cache TTL must be non-zero when caching is enabled"
  | .zeroIterations => "Iteration count must be positive"
  | .invalidTarget url reason => "Invalid target '" ++ url ++ "': " ++ reason
  | .unsupportedScheme scheme => "Unsupported URL scheme: " ++ scheme
  | .invalidHeader name reason => "Invalid header '" ++ name ++ "': " ++ reason
  | .unknownValue field value => "Unknown value '" ++ value ++ "' for " ++ field
  | .noRuns => "No benchmark runs configured"
  | .unreadable reason => "IO error: " ++ reason
  | .malformed => "TOML parse error"

/-- The name of the cause. -/
def cause : SetupError → String
  | .zeroRequests => "ZeroRequests"
  | .zeroConcurrency => "ZeroConcurrency"
  | .concurrencyExceedsTotal .. => "ConcurrencyExceedsTotal"
  | .zeroTimeout => "ZeroTimeout"
  | .zeroCacheTtl => "ZeroCacheTtl"
  | .zeroIterations => "ZeroIterations"
  | .invalidTarget .. => "InvalidTarget"
  | .unsupportedScheme _ => "UnsupportedScheme"
  | .invalidHeader .. => "InvalidHeader"
  | .unknownValue .. => "UnknownValue"
  | .noRuns => "NoRuns"
  | .unreadable _ => "Io"
  | .malformed => "Toml"

/-- A record of facts under names. -/
def named (facts : List (String × String)) : String :=
  " \x7b " ++ ", ".intercalate (facts.map fun f => f.1 ++ ": " ++ f.2) ++ " \x7d"

/-- The facts of an error. -/
def factsText : SetupError → String
  | .concurrencyExceedsTotal concurrency total =>
    named [("concurrency", Nat.repr concurrency), ("total_requests", Nat.repr total)]
  | .invalidTarget url reason => named [("url", Text.quoted url), ("reason", Text.quoted reason)]
  | .invalidHeader name reason => named [("name", Text.quoted name), ("reason", Text.quoted reason)]
  | .unknownValue field value => named [("field", Text.quoted field), ("value", Text.quoted value)]
  | .unsupportedScheme text | .unreadable text => "(" ++ Text.quoted text ++ ")"
  | .malformed => "(\"TOML parse error\")"
  | .zeroRequests | .zeroConcurrency | .zeroTimeout | .zeroCacheTtl | .zeroIterations | .noRuns => ""

/-- **The cause and its facts.** -/
def record (e : SetupError) : String := e.cause ++ e.factsText

end SetupError

end HttpBench
