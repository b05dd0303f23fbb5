import ArenaStandings.Text.Blank
import ArenaStandings.Text.Split

/-!
# Trusted origins

An origin is trusted if it is on a list, or, where hosted origins are admitted, if it begins like
the address of a hosted site: the secure scheme, any text on one line, and the domain of the host.
-/

namespace ArenaStandings

structure OriginPolicy where
  listed : List String
  /-- Are hosted origins admitted? -/
  hosted : Bool

namespace OriginPolicy

/-- The pattern of the beginning of a hosted origin. -/
def hostedPattern : String := "https://.*\\.vercel\\.app"

def hostedScheme : List Char := "https://".toList

/-- The domain of a hosted origin. -/
def hostedDomain : List Char := ".vercel.app".toList

def occursIn (part : List Char) : List Char → Bool
  | [] => part.isEmpty
  | character :: rest => part.isPrefixOf (character :: rest) || occursIn part rest

/-- Does a text begin like the address of a hosted site? -/
def beginsHosted (origin : List Char) : Bool :=
  hostedScheme.isPrefixOf origin &&
    occursIn hostedDomain ((origin.drop hostedScheme.length).takeWhile (· ≠ '\n'))

/-- The entries of a list of origins, each trimmed. -/
def parseList (text : String) : List String :=
  (Split.all ',' text.toList).map fun entry => .ofList (Blank.trim Blank.isBlank entry)

/-- Is an origin trusted? No origin is not. -/
def allows (policy : OriginPolicy) (origin : String) : Bool :=
  origin != "" &&
    (policy.listed.contains origin || policy.hosted && beginsHosted origin.toList)

end OriginPolicy

end ArenaStandings
