import FrrK8s.Accumulate
import FrrK8s.Net
/-!
# Api — the resources (`api/v1beta1/frrconfiguration_types.go`), errors and Go's text formats

Every record has the fields the modelled code reads, with Go's zero value as default.  Unsigned integers are `Nat` (the
code compares and prints them, it does no arithmetic on them), durations are nanoseconds in `Int`, a pointer is an
`Option`.  A slice whose `nil` and empty value the code tells apart is a `Slice`; the others are lists.
-/
namespace FrrK8s

/-! ## Errors -/

/-- An error: its text, and whether it is (or wraps) a `TransientError`. -/
structure Error where
  text : String
  transient : Bool := false
deriving DecidableEq, Repr

abbrev Result (α : Type) := Except Error α

def fail {α : Type} (text : String) : Result α := .error { text := text }

/-- `if c { return fmt.Errorf(...) }`. -/
def reject (c : Prop) [Decidable c] (text : String) : Result Unit := if c then fail text else .ok ()

/-- `fmt.Errorf("... %w", err)`: the text changes, the wrapped error stays. -/
def Result.wrap {α : Type} (r : Result α) (f : String → String) : Result α :=
  r.mapError (fun e => { e with text := f e.text })

@[simp] theorem fail_ne_ok {α : Type} (text : String) (a : α) : (fail text : Result α) ≠ .ok a := by simp [fail]

@[simp] theorem reject_eq_ok (c : Prop) [Decidable c] (text : String) (u : Unit) : reject c text = .ok u ↔ ¬ c := by
  unfold reject; split <;> simp_all

@[simp] theorem wrap_eq_ok {α : Type} (r : Result α) (f : String → String) (a : α) : r.wrap f = .ok a ↔ r = .ok a := by
  cases r <;> simp [Result.wrap, Except.mapError]

theorem toOption_wrap {α : Type} (r : Result α) (f : String → String) : (r.wrap f).toOption = r.toOption := by
  cases r <;> rfl

/-! ## Go's text formats -/

/-- `%s` of a slice of strings. -/
def sliceText (l : List String) : String := "[" ++ " ".intercalate l ++ "]"

/-- A decimal fraction of `digits` digits, without trailing zeros and without a dot when it is zero. -/
def fracText (v digits : Nat) : String :=
  if v = 0 then ""
  else
    let s := (Nat.toDigits 10 v).reverse.dropWhile (· == '0')
    "." ++ String.ofList (List.replicate (digits - (Nat.toDigits 10 v).length) '0' ++ s.reverse)

/-- `time.Duration.String` of `u` nanoseconds. -/
def durationNat (u : Nat) : String :=
  if u = 0 then "0s"
  else if u < 1000 then s!"{u}ns"
  else if u < 1000000 then s!"{u / 1000}{fracText (u % 1000) 3}µs"
  else if u < 1000000000 then s!"{u / 1000000}{fracText (u % 1000000) 6}ms"
  else
    let sec := u / 1000000000
    let s := s!"{sec % 60}{fracText (u % 1000000000) 9}s"
    if sec < 60 then s else if sec < 3600 then s!"{sec / 60}m{s}" else s!"{sec / 3600}h{sec / 60 % 60}m{s}"

def durationText (d : Int) : String := (if d < 0 then "-" else "") ++ durationNat d.natAbs

/-- `metav1.Duration.String` of a pointer. -/
def durationPtrText (d : Int) : String := "&Duration\x7bDuration:" ++ durationText d ++ ",\x7d"

/-! ## The records -/

/-- A slice that may be `nil`. -/
abbrev Slice (α : Type) := Option (List α)

def Slice.elems {α : Type} (s : Slice α) : List α := s.getD []

/-- A `corev1.Secret`. -/
structure Secret where
  name : String := ""
  ns : String := ""
  type : String := ""
  data : SortedMap String String := .empty
deriving DecidableEq

/-- `AllowMode`; a mode that is not `all` filters. -/
inductive AllowMode
  | all
  | filtered
deriving DecidableEq, Repr

structure NextHop where
  ipv4 : String := ""
  ipv6 : String := ""
deriving DecidableEq, Repr

structure LocalPrefPrefixes where
  prefixes : List String := []
  localPref : Nat := 0
deriving DecidableEq, Repr

structure CommunityPrefixes where
  prefixes : List String := []
  community : String := ""
deriving DecidableEq, Repr

structure AllowedOutPrefixes where
  prefixes : List String := []
  mode : AllowMode := .filtered
deriving DecidableEq, Repr

structure Advertise where
  allowed : AllowedOutPrefixes := {}
  nextHop : NextHop := {}
  prefixesWithLocalPref : List LocalPrefPrefixes := []
  prefixesWithCommunity : List CommunityPrefixes := []
deriving DecidableEq, Repr

structure PrefixSelector where
  pfx : String := ""
  le : Nat := 0
  ge : Nat := 0
deriving DecidableEq, Repr

structure AllowedInPrefixes where
  prefixes : List PrefixSelector := []
  mode : AllowMode := .filtered
deriving DecidableEq, Repr

structure Receive where
  allowed : AllowedInPrefixes := {}
deriving DecidableEq, Repr

/-- `passwordSecret` is the name of the `SecretReference`. -/
structure Neighbor where
  asn : Nat := 0
  dynamicASN : String := ""
  sourceAddress : String := ""
  address : String := ""
  interface : String := ""
  port : Option Nat := none
  password : String := ""
  passwordSecret : String := ""
  holdTime : Option Int := none
  keepaliveTime : Option Int := none
  connectTime : Option Int := none
  ebgpMultiHop : Bool := false
  bfdProfile : String := ""
  enableGracefulRestart : Bool := false
  toAdvertise : Advertise := {}
  toReceive : Receive := {}
  disableMP : Bool := false
  dualStackAddressFamily : Bool := false
  localASN : Nat := 0
  addressFamilies : Slice String := none
deriving DecidableEq, Repr

structure VNIPropertiesSpec where
  rd : String := ""
  importRTs : Slice String := none
  exportRTs : Slice String := none
deriving DecidableEq, Repr

structure L2VNISpec where
  vni : Nat := 0
  properties : VNIPropertiesSpec := {}
deriving DecidableEq, Repr

structure L3VNISpec where
  vni : Nat := 0
  properties : VNIPropertiesSpec := {}
  advertisePrefixes : Slice String := none
deriving DecidableEq, Repr

structure EVPNSpec where
  advertiseVNIs : Option String := none
  advertiseSVI : Bool := false
  l2vnis : List L2VNISpec := []
  l3vni : Option L3VNISpec := none
deriving DecidableEq, Repr

/-- `imports` lists the VRFs of the `Import`s. -/
structure Router where
  asn : Nat := 0
  id : String := ""
  vrf : String := ""
  neighbors : List Neighbor := []
  prefixes : List String := []
  imports : List String := []
  evpn : Option EVPNSpec := none
deriving DecidableEq, Repr

structure BFDProfileSpec where
  name : String := ""
  receiveInterval : Option Nat := none
  transmitInterval : Option Nat := none
  detectMultiplier : Option Nat := none
  echoInterval : Option Nat := none
  echoMode : Option Bool := none
  passiveMode : Option Bool := none
  minimumTTL : Option Nat := none
deriving DecidableEq, Repr

structure RawConfig where
  priority : Int := 0
  config : String := ""
deriving DecidableEq, Repr

/-- A `metav1.LabelSelectorRequirement`. -/
structure LabelSelectorRequirement where
  key : String
  operator : String
  values : List String := []
deriving DecidableEq, Repr

/-- A `metav1.LabelSelector`. -/
structure LabelSelector where
  matchLabels : SortedMap String String := .empty
  matchExpressions : List LabelSelectorRequirement := []
deriving DecidableEq

structure FRRConfiguration where
  name : String := ""
  ns : String := ""
  routers : List Router := []
  bfdProfiles : List BFDProfileSpec := []
  raw : RawConfig := {}
  nodeSelector : LabelSelector := {}
deriving DecidableEq

/-- `passwordSecrets` by name. -/
structure ClusterResources where
  frrConfigs : List FRRConfiguration
  passwordSecrets : SortedMap String Secret

end FrrK8s
