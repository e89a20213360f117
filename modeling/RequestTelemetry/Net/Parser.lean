import RequestTelemetry.Net.Address

/-!
# Reading addresses

The texts of addresses. Octets of an IPv4 address have no leading zeros; groups of an IPv6 address
have one to four digits, may end in a dotted IPv4 address and may leave out zero groups once by
`::`. A socket address ends in a port, and a scope may follow an IPv6 address.
-/

namespace RequestTelemetry.Net

namespace Reader

/-- The value of a digit below a base of at most 16. -/
def digit? (base : Nat) (c : Char) : Option Nat :=
  let n := c.toNat
  let value :=
    if 0x30 ≤ n ∧ n ≤ 0x39 then some (n - 0x30)
    else if 0x61 ≤ n ∧ n ≤ 0x66 then some (n - 0x61 + 10)
    else if 0x41 ≤ n ∧ n ≤ 0x46 then some (n - 0x41 + 10)
    else none
  value.filter (· < base)

/-- The digits at the start of a text, and the rest. -/
def digits (base : Nat) (cs : List Char) : List Nat × List Char :=
  (cs.takeWhile (fun c ↦ (digit? base c).isSome) |>.filterMap (digit? base),
    cs.dropWhile fun c ↦ (digit? base c).isSome)

/-- The value of digits. -/
def value (base : Nat) (ds : List Nat) : Nat := ds.foldl (fun n d ↦ n * base + d) 0

/-- Reads a number of at least one digit that is at most `max`. -/
def number? (base max : Nat) (cs : List Char) : Option (Nat × List Char) :=
  let (ds, rest) := digits base cs
  if ds.isEmpty ∨ max < value base ds then none else some (value base ds, rest)

/-- Reads a given character. -/
def char? (c : Char) : List Char → Option (List Char)
  | d :: rest => if c = d then some rest else none
  | [] => none

/-- Reads an octet in decimal, without leading zeros. -/
def octet? (cs : List Char) : Option (UInt8 × List Char) :=
  let (ds, rest) := digits 10 cs
  match ds with
  | [] => none
  | 0 :: _ :: _ => none
  | ds =>
    if ds.length ≤ 3 ∧ value 10 ds < 256 then some ((value 10 ds).toUInt8, rest) else none

/-- Reads a dotted IPv4 address. -/
def v4? (cs : List Char) : Option (V4 × List Char) := do
  let (a, cs) ← octet? cs
  let (b, cs) ← octet? (← char? '.' cs)
  let (c, cs) ← octet? (← char? '.' cs)
  let (d, cs) ← octet? (← char? '.' cs)
  some (⟨a, b, c, d⟩, cs)

/-- Reads a group of one to four hexadecimal digits. -/
def group? (cs : List Char) : Option (UInt16 × List Char) :=
  let (ds, rest) := digits 16 cs
  if ds.isEmpty ∨ 4 < ds.length then none else some ((value 16 ds).toUInt16, rest)

/-- The two groups of an IPv4 address. -/
def groupsOf (ip : V4) : List UInt16 :=
  [ip.a.toUInt16 * 256 + ip.b.toUInt16, ip.c.toUInt16 * 256 + ip.d.toUInt16]

/-- Reads up to `n` groups with colons between them. An IPv4 address may stand for the last two;
the flag tells whether one did. `first` is true where no colon comes before the next group. -/
def groups (n : Nat) (first : Bool) (cs : List Char) : List UInt16 × Bool × List Char :=
  match n with
  | 0 => ([], false, cs)
  | n + 1 =>
    match if first then some cs else char? ':' cs with
    | none => ([], false, cs)
    | some body =>
      match if n = 0 then none else v4? body with
      | some (ip, rest) => (groupsOf ip, true, rest)
      | none =>
        match group? body with
        | none => ([], false, cs)
        | some (g, rest) =>
          let (gs, dotted, rest) := groups n false rest
          (g :: gs, dotted, rest)

/-- Groups as an address, if there are eight. -/
def ofGroups? (gs : List UInt16) : Option V6 :=
  if h : gs.length = 8 then some ⟨gs, h⟩ else none

/-- Reads an IPv6 address. -/
def v6? (cs : List Char) : Option (V6 × List Char) := do
  let (head, dotted, rest) := groups 8 true cs
  if head.length = 8 then
    some (← ofGroups? head, rest)
  else if dotted then none
  else
    let rest ← char? ':' (← char? ':' rest)
    let (tail, _, rest) := groups (7 - head.length) true rest
    let zeros := List.replicate (8 - head.length - tail.length) 0
    some (← ofGroups? (head ++ zeros ++ tail), rest)

/-- Reads a colon and a port. -/
def port? (cs : List Char) : Option (UInt16 × List Char) := do
  let (n, rest) ← number? 10 65535 (← char? ':' cs)
  some (n.toUInt16, rest)

/-- Reads the scope of an IPv6 address; without one it is zero. -/
def scope (cs : List Char) : UInt32 × List Char :=
  match char? '%' cs with
  | none => (0, cs)
  | some body =>
    match number? 10 (Nat.pow 2 32 - 1) body with
    | some (n, rest) => (n.toUInt32, rest)
    | none => (0, cs)

/-- Reads an IPv4 address and a port. -/
def socketV4? (cs : List Char) : Option (SocketAddr × List Char) := do
  let (ip, cs) ← v4? cs
  let (port, cs) ← port? cs
  some (.v4 ip port, cs)

/-- Reads a bracketed IPv6 address and a port. -/
def socketV6? (cs : List Char) : Option (SocketAddr × List Char) := do
  let (ip, cs) ← v6? (← char? '[' cs)
  let (zone, cs) := scope cs
  let (port, cs) ← port? (← char? ']' cs)
  some (.v6 ip port 0 zone, cs)

/-- What was read, if nothing is left over. -/
def complete? {α : Type} : Option (α × List Char) → Option α
  | some (a, []) => some a
  | _ => none

end Reader

/-- Reads an IP address. -/
def Ip.ofChars? (cs : List Char) : Option Ip :=
  match Reader.v4? cs with
  | some (ip, rest) => if rest.isEmpty then some (.v4 ip) else none
  | none => (Reader.complete? (Reader.v6? cs)).map .v6

/-- Reads an IP address. -/
def Ip.ofText? (s : String) : Option Ip := Ip.ofChars? s.toList

/-- Reads a socket address. -/
def SocketAddr.ofText? (s : String) : Option SocketAddr :=
  Reader.complete? <| (Reader.socketV4? s.toList).orElse fun _ ↦ Reader.socketV6? s.toList

/-- The text of the error for a text that is no socket address. -/
def SocketAddr.parseError : String := "invalid socket address syntax"

end RequestTelemetry.Net
