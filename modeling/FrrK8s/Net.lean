import Mathlib.Data.String.Basic
/-!
# Net — addresses and prefixes (Go's `net` package, `internal/ipfamily`)

`parseIP`, `parseCIDR` and `IPNet.string` follow the Go standard library: `netip.ParseAddr` reads a dotted quad or an
IPv6 address (with `::` and a trailing dotted quad), `net.ParseIP` refuses a zone, `net.ParseCIDR` reads
`address/decimal` with a length within the address, and an address in `::ffff:0:0/96` is an IPv4 one to `To4`.
Text is read character by character, so that every definition here evaluates.
-/
namespace FrrK8s

/-- `ipfamily.Family`. -/
inductive Family
  | ipv4
  | ipv6
  | dual
  | unknown
deriving DecidableEq, Repr

def Family.string : Family → String
  | .ipv4 => "ipv4"
  | .ipv6 => "ipv6"
  | .dual => "dual"
  | .unknown => "unknown"

namespace Net

/-! ## Addresses -/

/-- A `netip.Addr` without zone: its length in bits and its 16-byte form (an IPv4 address as `::ffff:a.b.c.d`). -/
structure Addr where
  bitLen : Nat
  as16 : Nat
deriving DecidableEq, Repr

/-- The 16-byte form of an IPv4 address. -/
def v4InV6 (v : Nat) : Nat := 0xffff * 2 ^ 32 + v

/-- `IP.To4` of a 16-byte address. -/
def to4 (ip : Nat) : Option Nat := if ip / 2 ^ 32 = 0xffff then some (ip % 2 ^ 32) else none

def digitVal (c : Char) : Nat := c.toNat - '0'.toNat

/-- `netip.parseIPv4Fields`: the octets read so far, the value and the number of digits of the current one. -/
def parseIPv4Fields : List Char → List Nat → Nat → Nat → Option (List Nat)
  | [], fields, val, _ => if fields.length < 3 then none else some (fields ++ [val])
  | c :: s, fields, val, digLen =>
    if c.isDigit then
      if digLen = 1 ∧ val = 0 then none
      else if 255 < val * 10 + digitVal c then none
      else parseIPv4Fields s fields (val * 10 + digitVal c) (digLen + 1)
    else if c = '.' then
      if digLen = 0 ∨ s = [] then none
      else if fields.length = 3 then none
      else parseIPv4Fields s (fields ++ [val]) 0 0
    else none

def ofBytes (bs : List Nat) : Nat := bs.foldl (fun v b => v * 2 ^ 8 + b) 0

def parseIPv4 (s : List Char) : Option Addr :=
  (parseIPv4Fields s [] 0 0).map (fun fields => ⟨32, v4InV6 (ofBytes fields)⟩)

def hexVal (c : Char) : Option Nat :=
  if c.isDigit then some (digitVal c)
  else if 'a' ≤ c ∧ c ≤ 'f' then some (c.toNat - 'a'.toNat + 10)
  else if 'A' ≤ c ∧ c ≤ 'F' then some (c.toNat - 'A'.toNat + 10)
  else none

/-- The hexadecimal number a text starts with: its value, its number of digits and the rest. -/
def takeHex : List Char → Nat → Nat → Nat × Nat × List Char
  | [], acc, off => (acc, off, [])
  | c :: s, acc, off =>
    match hexVal c with
    | some v => takeHex s (acc * 16 + v) (off + 1)
    | none => (acc, off, c :: s)

/-- The loop of `netip.parseIPv6`: the 16-bit groups read so far (at most `fuel` more) and the position of `::`.
It ends with the groups, the position of `::` and the text left. -/
def parseIPv6Loop : Nat → List Char → List Nat → Option Nat → Option (List Nat × Option Nat × List Char)
  | 0, s, groups, ellipsis => some (groups, ellipsis, s)
  | fuel + 1, s, groups, ellipsis =>
    let (acc, off, rest) := takeHex s 0 0
    if off = 0 ∨ 4 < off then none
    else
      match rest with
      | '.' :: _ =>
        if (ellipsis = none ∧ groups.length ≠ 6) ∨ 8 < groups.length + 2 then none
        else
          match parseIPv4Fields s [] 0 0 with
          | some [a, b, c, d] => some (groups ++ [a * 2 ^ 8 + b, c * 2 ^ 8 + d], ellipsis, [])
          | _ => none
      | [] => some (groups ++ [acc], ellipsis, [])
      | ':' :: [] => none
      | ':' :: ':' :: rest =>
        if ellipsis.isSome then none
        else if rest = [] then some (groups ++ [acc], some (groups.length + 1), [])
        else parseIPv6Loop fuel rest (groups ++ [acc]) (some (groups.length + 1))
      | ':' :: rest => parseIPv6Loop fuel rest (groups ++ [acc]) ellipsis
      | _ => none

def ofGroups (gs : List Nat) : Nat := gs.foldl (fun v g => v * 2 ^ 16 + g) 0

/-- The end of `netip.parseIPv6`: all text used, and `::` expanded to at least one group of zeros. -/
def expandGroups (groups : List Nat) (ellipsis : Option Nat) : Option (List Nat) :=
  if groups.length < 8 then
    ellipsis.map (fun k => groups.take k ++ List.replicate (8 - groups.length) 0 ++ groups.drop k)
  else if ellipsis.isSome then none
  else some groups

def parseIPv6 (s : List Char) : Option Addr := do
  let start : Option Nat × List Char := match s with
    | ':' :: ':' :: rest => (some 0, rest)
    | _ => (none, s)
  if start = (some 0, []) then return ⟨128, 0⟩
  let (groups, ellipsis, rest) ← parseIPv6Loop 8 start.2 [] start.1
  if rest ≠ [] then none
  let gs ← expandGroups groups ellipsis
  return ⟨128, ofGroups gs⟩

/-- `netip.ParseAddr`; an address with a zone is refused, as `net.ParseIP` and `net.ParseCIDR` do. -/
def parseAddr (s : List Char) : Option Addr :=
  match s.find? (fun c => c == '.' || c == ':' || c == '%') with
  | some '.' => parseIPv4 s
  | some ':' => parseIPv6 s
  | _ => none

/-- `netip.ParseAddr`, with the zone of an IPv6 address. -/
def parseAddrZone (s : List Char) : Option (Addr × List Char) :=
  match s.find? (fun c => c == '.' || c == ':' || c == '%') with
  | some '.' => (parseIPv4 s).map (fun a => (a, []))
  | some ':' =>
    match s.dropWhile (· != '%') with
    | [] => (parseIPv6 s).map (fun a => (a, []))
    | _ :: zone => if zone = [] then none else (parseIPv6 (s.takeWhile (· != '%'))).map (fun a => (a, zone))
  | _ => none

/-- `net.ParseIP`: the 16-byte form. -/
def parseIP (s : String) : Option Nat := (parseAddr s.toList).map Addr.as16

/-! ## Prefixes -/

/-- A `net.IPNet` as `net.ParseCIDR` builds them: 4 or 16 bytes, a mask of `ones` leading ones, no bit past it. -/
structure IPNet where
  bits : Nat
  ones : Nat
  ip : Nat
  bits_eq : bits = 32 ∨ bits = 128
  ones_le : ones ≤ bits
  ip_lt : ip < 2 ^ bits
  masked : ip % 2 ^ (bits - ones) = 0
deriving DecidableEq

/-- `dtoi` of a whole text. -/
def dtoi (s : List Char) : Option Nat :=
  if s ≠ [] ∧ s.all Char.isDigit then some (s.foldl (fun n c => n * 10 + digitVal c) 0) else none

/-- What `net.ParseCIDR` reads: the address as written, its length in bits, and the mask length. -/
structure CIDR where
  addr : Addr
  ones : Nat
deriving DecidableEq, Repr

/-- `net.ParseCIDR`. -/
def parseCIDR (s : String) : Option CIDR :=
  match s.toList.span (· ≠ '/') with
  | (_, []) => none
  | (addr, _ :: mask) => do
    let a ← parseAddr addr
    let n ← dtoi mask
    if a.bitLen < n then none
    return ⟨a, n⟩

/-- The network of an address: the bits past the mask cleared. -/
def IPNet.mask (bits ones ip : Nat) (hbits : bits = 32 ∨ bits = 128) (hones : ones ≤ bits) : IPNet where
  bits := bits
  ones := ones
  ip := ip % 2 ^ bits / 2 ^ (bits - ones) * 2 ^ (bits - ones)
  bits_eq := hbits
  ones_le := hones
  ip_lt := lt_of_le_of_lt (Nat.div_mul_le_self _ _) (Nat.mod_lt _ (Nat.two_pow_pos bits))
  masked := Nat.mul_mod_left _ _

/-- The network `net.ParseCIDR` reads. -/
def parseNet (s : String) : Option IPNet := do
  let c ← parseCIDR s
  if h : (c.addr.bitLen = 32 ∨ c.addr.bitLen = 128) ∧ c.ones ≤ c.addr.bitLen then
    return IPNet.mask c.addr.bitLen c.ones c.addr.as16 h.1 h.2
  else none

/-- `r` is a part of the network. -/
def IPNet.contains (n r : IPNet) : Bool :=
  n.bits = r.bits && n.ones ≤ r.ones && r.ip / 2 ^ (n.bits - n.ones) = n.ip / 2 ^ (n.bits - n.ones)

/-- `IPNet.IP.To4` (4 bytes, or 16 bytes that are an IPv4 address). -/
def IPNet.to4 (n : IPNet) : Option Nat := if n.bits = 32 then some n.ip else Net.to4 n.ip

def hexDigits (v : Nat) : String := String.ofList (Nat.toDigits 16 v)

/-- The `i`-th 16-bit group of an IPv6 address. -/
def group (ip i : Nat) : Nat := ip / 2 ^ (16 * (7 - i)) % 2 ^ 16

/-- The number of groups of zeros from the `i`-th on. -/
def zeroRun (ip : Nat) : Nat → Nat → Nat
  | 0, _ => 0
  | fuel + 1, i => if group ip i = 0 then zeroRun ip fuel (i + 1) + 1 else 0

/-- The first longest run of at least two groups of zeros (`appendTo6`): its start and its length. -/
def longestRun (ip : Nat) : Option (Nat × Nat) :=
  (List.range 8).foldl (fun best i =>
    let l := zeroRun ip (8 - i) i
    if 2 ≤ l ∧ (best.map Prod.snd).getD 0 < l then some (i, l) else best) none

def colonJoin (gs : List Nat) : String := ":".intercalate (gs.map hexDigits)

/-- `netip.Addr.String` of an IPv6 address. -/
def ipv6String (ip : Nat) : String :=
  let gs := (List.range 8).map (group ip)
  match longestRun ip with
  | none => colonJoin gs
  | some (i, l) => colonJoin (gs.take i) ++ "::" ++ colonJoin (gs.drop (i + l))

/-- A group with its leading zeros. -/
def hexPad (g : Nat) : String :=
  String.ofList (List.replicate (4 - (Nat.toDigits 16 g).length) '0' ++ Nat.toDigits 16 g)

/-- `netip.Addr.StringExpanded` of an IPv6 address. -/
def stringExpanded (ip : Nat) (zone : List Char) : String :=
  ":".intercalate ((List.range 8).map (fun i => hexPad (group ip i))) ++
    (if zone = [] then "" else "%" ++ String.ofList zone)

def ipv4String (v : Nat) : String :=
  s!"{v / 2 ^ 24}.{v / 2 ^ 16 % 2 ^ 8}.{v / 2 ^ 8 % 2 ^ 8}.{v % 2 ^ 8}"

/-- `IPNet.String`: an IPv4 address in 16 bytes is written with the last 4 bytes of its mask. -/
def IPNet.string (n : IPNet) : String :=
  match n.to4 with
  | some v => s!"{ipv4String v}/{n.ones - (n.bits - 32)}"
  | none => s!"{ipv6String n.ip}/{n.ones}"

end Net

/-! ## `internal/ipfamily` -/

/-- `strconv.Quote`, which is `%q` of a text.  Beyond Latin-1 every character is taken for a printable one. -/
def quote (s : String) : String :=
  let esc : Char → String := fun c =>
    if c = '"' then "\\\"" else if c = '\\' then "\\\\"
    else if c.toNat = 7 then "\\a" else if c.toNat = 8 then "\\b" else if c.toNat = 12 then "\\f"
    else if c = '\n' then "\\n" else if c = '\r' then "\\r" else if c = '\t' then "\\t"
    else if c.toNat = 11 then "\\v"
    else if c.toNat < 16 then "\\x0" ++ Net.hexDigits c.toNat
    else if c.toNat < 32 ∨ c.toNat = 127 then "\\x" ++ Net.hexDigits c.toNat
    else if 128 ≤ c.toNat ∧ c.toNat ≤ 160 ∨ c.toNat = 173 then "\\u00" ++ Net.hexDigits c.toNat
    else String.ofList [c]
  "\"" ++ String.join (s.toList.map esc) ++ "\""

def forAddress (ip : Nat) : Family := if Net.to4 ip = none then .ipv6 else .ipv4

/-- `ForAddresses` of one address. -/
def forAddresses (s : String) : Except String Family :=
  match Net.parseIP s with
  | none => .error s!"IPFamilyForAddresses: Invalid address [{quote s}]"
  | some ip => .ok (forAddress ip)

def forCIDRString (s : String) : Family :=
  match Net.parseCIDR s with
  | none => .unknown
  | some c => forAddress c.addr.as16

def forCIDR (n : Net.IPNet) : Family := if n.to4 = none then .ipv6 else .ipv4

def filterPrefixes (prefixes : List String) (familyToFilter : Family) : List String :=
  if familyToFilter = .dual then prefixes else prefixes.filter (fun p => forCIDRString p = familyToFilter)

def matchesPrefix (toMatch : Family) (p : String) : Bool := toMatch = .dual || forCIDRString p = toMatch

end FrrK8s
