import JsonReference.Download.Error

namespace JsonReference

structure Http where
  timeout : Nat
  maxRetries : Nat
  baseDelay : Nat
deriving DecidableEq, Repr

namespace Http

def standard : Http := ⟨30000, 3, 200⟩

def withTimeout (h : Http) (timeout : Nat) : Http := { h with timeout }

def withRetries (h : Http) (maxRetries baseDelay : Nat) : Http := { h with maxRetries, baseDelay }

def decimals (thousandths : Nat) : Text :=
  if thousandths = 0 then []
  else
    let digits := (Text.ofNat (1000 + thousandths)).drop 1
    '.' :: (digits.reverse.dropWhile (· = '0')).reverse

/-- A time in seconds if it has one, else in milliseconds. -/
def duration (ms : Nat) : Text :=
  if ms = 0 then "0ns".toList
  else if ms < 1000 then Text.ofNat ms ++ "ms".toList
  else Text.ofNat (ms / 1000) ++ decimals (ms % 1000) ++ ['s']

def describe (h : Http) : Text :=
  "HttpDownloader \x7b timeout: ".toList ++ duration h.timeout ++ ", max_retries: ".toList ++
    Text.ofNat h.maxRetries ++ ", base_delay: ".toList ++ duration h.baseDelay ++
    ", .. \x7d".toList

end Http
end JsonReference
