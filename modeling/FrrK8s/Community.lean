import FrrK8s.Api
/-!
# Community — BGP communities (`internal/community/community.go`)
-/
namespace FrrK8s

/-- A `BGPCommunity`: `BGPCommunityLegacy` or `BGPCommunityLarge`. -/
inductive BGPCommunity
  | legacy (upperVal lowerVal : Nat)
  | large (globalAdministrator localDataPart1 localDataPart2 : Nat)
deriving DecidableEq, Repr

namespace Community

def largeBGPCommunityMarker : String := "large"

def isLarge : BGPCommunity → Bool
  | .legacy .. => false
  | .large .. => true

def string : BGPCommunity → String
  | .legacy u l => s!"{u}:{l}"
  | .large g a b => s!"{g}:{a}:{b}"

/-- The loop of `strconv.ParseUint` over the rest of `text`, from the number read so far.  A number that is out of
range ends it before the rest is looked at. -/
def parseUintLoop (bitSize : Nat) (text : List Char) : List Char → Nat → Except String Nat
  | [], n => .ok n
  | c :: s, n =>
    if c.isDigit then
      if 2 ^ bitSize ≤ n * 10 + Net.digitVal c then
        .error s!"strconv.ParseUint: parsing {quote (String.ofList text)}: value out of range"
      else parseUintLoop bitSize text s (n * 10 + Net.digitVal c)
    else .error s!"strconv.ParseUint: parsing {quote (String.ofList text)}: invalid syntax"

/-- `strconv.ParseUint(s, 10, bitSize)`. -/
def parseUint (bitSize : Nat) (s : List Char) : Except String Nat :=
  if s = [] then .error s!"strconv.ParseUint: parsing {quote (String.ofList s)}: invalid syntax"
  else parseUintLoop bitSize s s 0

/-- One section of a community. -/
def parseSection (bitSize : Nat) (c : String) (s : List Char) : Result Nat :=
  match parseUint bitSize s with
  | .ok n => .ok n
  | .error e =>
    fail s!"invalid community value: invalid section {quote (String.ofList s)} of community {quote c}, err: {quote e}"

/-- `community.New`; `strings.Split` at a colon is `List.splitOn`. -/
def new (c : String) : Result BGPCommunity :=
  match c.toList.splitOn ':' with
  | [f0, f1] => do
    let u ← parseSection 16 c f0
    let l ← parseSection 16 c f1
    return .legacy u l
  | [f0, f1, f2, f3] =>
    if f0 ≠ largeBGPCommunityMarker.toList then
      fail ("invalid community value: invalid marker for large community, expected community to be of " ++
        s!"format {largeBGPCommunityMarker}:<uint32>:<uint32>:<uint32> but got {quote c} instead")
    else do
      let g ← parseSection 32 c f1
      let a ← parseSection 32 c f2
      let b ← parseSection 32 c f3
      return .large g a b
  | _ => fail s!"invalid community format: {c}"

end Community
end FrrK8s
