import HttpFetch.Settings.Proxies
import HttpFetch.Tls.Trust
/-!
# Settings

How long to wait, how far to follow, how much to read at a time, and whom to go through and trust.
Times are in milliseconds; without one there is no limit.
-/

namespace HttpFetch

/-- What is set for a transfer. -/
structure Settings where
  connectTimeout : Option Nat := some 30000
  readTimeout : Option Nat := some 300000
  maxRedirects : Nat := 5
  readBufferSize : Nat := 2048
  proxies : Proxies := {}
  trust : Trust := {}
  deriving DecidableEq

namespace Settings

/-- Sets how much is read at a time: one byte at least. -/
def withReadBufferSize (settings : Settings) (size : Nat) : Settings :=
  { settings with readBufferSize := max size 1 }

/-- The digits of a fraction of a second that count, from milliseconds. -/
def fractionDigits (milliseconds : Nat) : List Char :=
  let digits := (toString (1000 + milliseconds)).toList.drop 1
  (digits.reverse.dropWhile (· == '0')).reverse

/-- A time in the largest unit that leaves no leading zero. -/
def timeText (milliseconds : Nat) : String :=
  let seconds := milliseconds / 1000
  let rest := milliseconds % 1000
  if seconds = 0 then if rest = 0 then "0ns" else toString rest ++ "ms"
  else if rest = 0 then toString seconds ++ "s"
  else toString seconds ++ "." ++ String.ofList (fractionDigits rest) ++ "s"

end Settings
end HttpFetch
