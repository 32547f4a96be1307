import CameraServer.Text.Numeral

/-!
Internet addresses and socket addresses: their readers and their printed form. An IPv6 address is
printed with its first longest run of two or more zero groups written `::`, and an address that
maps an IPv4 address is printed with that address in dotted form.
-/

set_option autoImplicit false

namespace CameraServer.Net

structure Ipv4 where
  first : UInt8
  second : UInt8
  third : UInt8
  fourth : UInt8
deriving DecidableEq, Repr

structure Ipv6 where
  groups : List UInt16
  eight : groups.length = 8
deriving DecidableEq, Repr

inductive SocketAddress where
  | v4 (ip : Ipv4) (port : UInt16)
  | v6 (ip : Ipv6) (scope : UInt32) (port : UInt16)
deriving DecidableEq, Repr

/-! ### Readers: each takes its text from the front and returns what follows. -/

def readChar (c : Char) : List Char → Option (List Char)
  | [] => none
  | d :: rest => if d = c then some rest else none

def readNumber (radix maxDigits bound : Nat) (leadingZero : Bool) (cs : List Char) :
    Option (Nat × List Char) :=
  let digits := cs.takeWhile (Text.isDigitIn radix)
  let value := Text.digitsValue radix digits
  if digits = [] ∨ maxDigits < digits.length ∨ bound ≤ value then none
  else if !leadingZero && decide (1 < digits.length) && digits.head? == some '0' then none
  else some (value, cs.dropWhile (Text.isDigitIn radix))

def readDecimal (bound : Nat) (cs : List Char) : Option (Nat × List Char) :=
  readNumber 10 cs.length bound true cs

def readOctet (cs : List Char) : Option (UInt8 × List Char) :=
  (readNumber 10 3 256 false cs).map fun r => (UInt8.ofNat r.1, r.2)

def readDotOctet (cs : List Char) : Option (UInt8 × List Char) :=
  (readChar '.' cs).bind readOctet

def readIpv4 (cs : List Char) : Option (Ipv4 × List Char) :=
  (readOctet cs).bind fun a =>
  (readDotOctet a.2).bind fun b =>
  (readDotOctet b.2).bind fun c =>
  (readDotOctet c.2).map fun d =>
  (⟨a.1, b.1, c.1, d.1⟩, d.2)

def readGroup (cs : List Char) : Option (UInt16 × List Char) :=
  (readNumber 16 4 65536 true cs).map fun r => (UInt16.ofNat r.1, r.2)

def Ipv4.groups (ip : Ipv4) : List UInt16 :=
  [UInt16.ofNat (ip.first.toNat * 256 + ip.second.toNat),
   UInt16.ofNat (ip.third.toNat * 256 + ip.fourth.toNat)]

def readSeparator (started : Bool) (cs : List Char) : Option (List Char) :=
  if started then readChar ':' cs else some cs

structure Groups where
  groups : List UInt16
  dotted : Bool
  rest : List Char

/-- Reads at most `room` groups. A dotted address may stand for the last two and ends the run. -/
def readGroups : Nat → Bool → List Char → Groups
  | 0, _, cs => ⟨[], false, cs⟩
  | room + 1, started, cs =>
      match (if room = 0 then none else (readSeparator started cs).bind readIpv4) with
      | some (ip, rest) => ⟨ip.groups, true, rest⟩
      | none =>
          match (readSeparator started cs).bind readGroup with
          | none => ⟨[], false, cs⟩
          | some (group, rest) =>
              let more := readGroups room true rest
              ⟨group :: more.groups, more.dotted, more.rest⟩

def ipv6? (groups : List UInt16) : Option Ipv6 :=
  if eight : groups.length = 8 then some ⟨groups, eight⟩ else none

def readIpv6 (cs : List Char) : Option (Ipv6 × List Char) :=
  let head := readGroups 8 false cs
  if head.groups.length = 8 then (ipv6? head.groups).map fun ip => (ip, head.rest)
  else if head.dotted then none
  else
    ((readChar ':' head.rest).bind (readChar ':')).bind fun rest =>
      let tail := readGroups (7 - head.groups.length) false rest
      let zeros := List.replicate (8 - head.groups.length - tail.groups.length) 0
      (ipv6? (head.groups ++ zeros ++ tail.groups)).map fun ip => (ip, tail.rest)

def readPort (cs : List Char) : Option (UInt16 × List Char) :=
  ((readChar ':' cs).bind (readDecimal 65536)).map fun r => (UInt16.ofNat r.1, r.2)

def readScope (cs : List Char) : UInt32 × List Char :=
  match (readChar '%' cs).bind (readDecimal 4294967296) with
  | some r => (UInt32.ofNat r.1, r.2)
  | none => (0, cs)

def readSocketV4 (cs : List Char) : Option (SocketAddress × List Char) :=
  (readIpv4 cs).bind fun ip =>
  (readPort ip.2).map fun port => (.v4 ip.1 port.1, port.2)

def readSocketV6 (cs : List Char) : Option (SocketAddress × List Char) :=
  (readChar '[' cs).bind fun inside =>
  (readIpv6 inside).bind fun ip =>
  let scope := readScope ip.2
  (readChar ']' scope.2).bind fun outside =>
  (readPort outside).map fun port => (.v6 ip.1 scope.1 port.1, port.2)

def SocketAddress.parse? (cs : List Char) : Option SocketAddress :=
  match (readSocketV4 cs).or (readSocketV6 cs) with
  | some (address, []) => some address
  | _ => none

/-! ### Printed forms -/

def Ipv4.chars (ip : Ipv4) : List Char :=
  let octet (n : UInt8) := Nat.toDigits 10 n.toNat
  octet ip.first ++ '.' :: octet ip.second ++ '.' :: octet ip.third ++ '.' :: octet ip.fourth

def groupChars (group : UInt16) : List Char :=
  Text.hexadecimal group.toNat

def colonSeparated : List UInt16 → List Char
  | [] => []
  | [group] => groupChars group
  | group :: rest => groupChars group ++ ':' :: colonSeparated rest

structure ZeroRun where
  start : Nat
  length : Nat
deriving DecidableEq, Repr

/-- The first longest run of zeros in `groups`, whose first member has position `start`; `current`
is the run that ends just before it. -/
def longestZeros : List UInt16 → Nat → ZeroRun → ZeroRun → ZeroRun
  | [], _, _, longest => longest
  | group :: rest, start, current, longest =>
      if group = 0 then
        let grown := if current.length = 0 then ⟨start, 1⟩ else ⟨current.start, current.length + 1⟩
        longestZeros rest (start + 1) grown (if longest.length < grown.length then grown else longest)
      else longestZeros rest (start + 1) ⟨0, 0⟩ longest

def Ipv6.mapped? (ip : Ipv6) : Option Ipv4 :=
  match ip.groups with
  | [0, 0, 0, 0, 0, 65535, high, low] =>
      some ⟨UInt8.ofNat (high.toNat / 256), UInt8.ofNat (high.toNat % 256),
        UInt8.ofNat (low.toNat / 256), UInt8.ofNat (low.toNat % 256)⟩
  | _ => none

def Ipv6.chars (ip : Ipv6) : List Char :=
  match ip.mapped? with
  | some v4 => "::ffff:".toList ++ v4.chars
  | none =>
      let run := longestZeros ip.groups 0 ⟨0, 0⟩ ⟨0, 0⟩
      if 1 < run.length then
        colonSeparated (ip.groups.take run.start) ++ ':' :: ':' ::
          colonSeparated (ip.groups.drop (run.start + run.length))
      else colonSeparated ip.groups

def SocketAddress.ipChars : SocketAddress → List Char
  | .v4 ip _ => ip.chars
  | .v6 ip _ _ => ip.chars

def SocketAddress.port : SocketAddress → UInt16
  | .v4 _ port => port
  | .v6 _ _ port => port

def scopeChars (scope : UInt32) : List Char :=
  if scope = 0 then [] else '%' :: Nat.toDigits 10 scope.toNat

def SocketAddress.chars : SocketAddress → List Char
  | .v4 ip port => ip.chars ++ ':' :: Nat.toDigits 10 port.toNat
  | .v6 ip scope port =>
      '[' :: ip.chars ++ scopeChars scope ++ ']' :: ':' :: Nat.toDigits 10 port.toNat

end CameraServer.Net
