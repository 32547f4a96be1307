import CameraServer.Net.Address
import CameraServer.Proofs.Text.Numeral

/-!
Addresses survive printing. Main statements: the groups of an IPv6 address are its printed groups with the
zeros filled in where `::` stands, and the reader of socket addresses takes the whole printed form of an
address and gives just this address back.
-/

set_option autoImplicit false

namespace CameraServer.Net

open Text

/-! ### Numbers -/

theorem stops_cons (radix : Nat) (c : Char) (rest : List Char) (other : isDigitIn radix c = false) :
    Stops radix (c :: rest) := by
  simpa [Stops] using other

theorem stops_decimal (rest : List Char) (stops : Stops 16 rest) : Stops 10 rest := by
  intro c first
  have other := stops c first
  rw [isDigitIn, digitValue?] at other ⊢
  cases value : hexValue? c with
  | none => rfl
  | some v =>
      simp [value, Option.filter] at other ⊢
      omega

theorem read_number_printed (radix maxDigits bound n : Nat) (zeros : Bool) (rest : List Char) (wide : 1 < radix)
    (narrow : radix ≤ 16) (short : (Nat.toDigits radix n).length ≤ maxDigits) (small : n < bound)
    (stops : Stops radix rest) :
    readNumber radix maxDigits bound zeros (Nat.toDigits radix n ++ rest) = some (n, rest) := by
  have digits := printed_digits radix wide narrow n
  simp only [readNumber, take_digits radix _ rest digits stops, drop_digits radix _ rest digits stops,
    printed_value radix wide narrow n]
  rw [if_neg (by simp [Nat.toDigits_ne_nil]; omega), if_neg]
  intro leading
  simp only [Bool.and_eq_true, decide_eq_true_eq, beq_iff_eq] at leading
  exact printed_head radix wide n leading.1.2 leading.2

theorem read_number_stopped (radix maxDigits bound : Nat) (zeros : Bool) (rest : List Char)
    (stops : Stops radix rest) : readNumber radix maxDigits bound zeros rest = none := by
  have none_taken := take_digits radix [] rest (by simp) stops
  rw [List.nil_append] at none_taken
  simp [readNumber, none_taken]

theorem read_decimal_printed (bound n : Nat) (rest : List Char) (small : n < bound) (stops : Stops 10 rest) :
    readDecimal bound (Nat.toDigits 10 n ++ rest) = some (n, rest) :=
  read_number_printed 10 _ bound n true rest (by decide) (by decide) (by simp) small stops

theorem read_octet_printed (n : UInt8) (rest : List Char) (stops : Stops 10 rest) :
    readOctet (Nat.toDigits 10 n.toNat ++ rest) = some (n, rest) := by
  have small : n.toNat < 256 := n.toNat_lt
  have short : (Nat.toDigits 10 n.toNat).length ≤ 3 :=
    (Nat.length_toDigits_le_iff (by decide) (by decide)).mpr (by omega)
  rw [readOctet, read_number_printed 10 3 256 n.toNat false rest (by decide) (by decide) short small stops]
  simp

theorem read_group_printed (group : UInt16) (rest : List Char) (stops : Stops 16 rest) :
    readGroup (groupChars group ++ rest) = some (group, rest) := by
  have small : group.toNat < 65536 := group.toNat_lt
  have short : (Nat.toDigits 16 group.toNat).length ≤ 4 :=
    (Nat.length_toDigits_le_iff (by decide) (by decide)).mpr (by omega)
  rw [readGroup, groupChars, hexadecimal,
    read_number_printed 16 4 65536 group.toNat true rest (by decide) (by decide) short small stops]
  simp

/-! ### IPv4 -/

theorem read_char_same (c : Char) (rest : List Char) : readChar c (c :: rest) = some rest := by
  simp [readChar]

theorem read_dot_octet_printed (n : UInt8) (rest : List Char) (stops : Stops 10 rest) :
    readDotOctet ('.' :: (Nat.toDigits 10 n.toNat ++ rest)) = some (n, rest) := by
  rw [readDotOctet, read_char_same]
  exact read_octet_printed n rest stops

theorem read_ipv4_printed (ip : Ipv4) (rest : List Char) (stops : Stops 10 rest) :
    readIpv4 (ip.chars ++ rest) = some (ip, rest) := by
  have dot (more : List Char) : Stops 10 ('.' :: more) := stops_cons 10 '.' more (by decide)
  simp only [Ipv4.chars, List.append_assoc, List.cons_append]
  simp only [readIpv4, read_octet_printed ip.first _ (dot _), read_dot_octet_printed ip.second _ (dot _),
    read_dot_octet_printed ip.third _ (dot _), read_dot_octet_printed ip.fourth rest stops, Option.bind_some,
    Option.map_some]

theorem read_ipv4_undotted (cs : List Char) (undotted : (cs.dropWhile (isDigitIn 10)).head? ≠ some '.') :
    readIpv4 cs = none := by
  rw [readIpv4, readOctet]
  cases first : readNumber 10 3 256 false cs with
  | none => rfl
  | some r =>
      have rest : r.2 = cs.dropWhile (isDigitIn 10) := by
        simp only [readNumber] at first
        split at first
        · cases first
        · split at first
          · cases first
          · cases first
            rfl
      rw [← rest] at undotted
      have dotless : readChar '.' r.2 = none := by
        cases after : r.2 with
        | nil => rfl
        | cons c more =>
            rw [after] at undotted
            simpa [readChar] using undotted
      simp [readDotOctet, dotless]

/-! ### Groups -/

structure Halts (rest : List Char) : Prop where
  stops : Stops 16 rest
  undotted : rest.head? ≠ some '.'
  colon : ∀ more, rest = ':' :: more → Stops 16 more

theorem halts_cons (c : Char) (rest : List Char) (digit : isDigitIn 16 c = false) (dot : c ≠ '.') (colon : c ≠ ':') :
    Halts (c :: rest) where
  stops := stops_cons 16 c rest digit
  undotted := by simpa using dot
  colon := fun more same => absurd (List.cons.inj same).1 colon

theorem halts_gap (rest : List Char) : Halts (':' :: ':' :: rest) where
  stops := stops_cons 16 ':' _ (by decide)
  undotted := by simp
  colon := by
    rintro _ ⟨⟩
    exact stops_cons 16 ':' rest (by decide)

theorem read_ipv4_group (digits rest : List Char) (all : ∀ c ∈ digits, isDigitIn 16 c = true)
    (stops : Stops 16 rest) (undotted : rest.head? ≠ some '.') : readIpv4 (digits ++ rest) = none := by
  apply read_ipv4_undotted
  induction digits with
  | nil =>
      have whole := drop_digits 10 [] rest (by simp) (stops_decimal rest stops)
      rw [List.nil_append] at whole ⊢
      rwa [whole]
  | cons c digits ih =>
      rw [List.cons_append, List.dropWhile_cons]
      split
      · exact ih fun other member => all other (List.mem_cons_of_mem c member)
      · have hexadecimal := all c List.mem_cons_self
        intro dot
        cases dot
        revert hexadecimal
        decide

theorem read_ipv4_stopped (rest : List Char) (stops : Stops 16 rest) : readIpv4 rest = none := by
  rw [readIpv4, readOctet, read_number_stopped 10 3 256 false rest (stops_decimal rest stops)]
  rfl

theorem read_group_stopped (rest : List Char) (stops : Stops 16 rest) : readGroup rest = none := by
  rw [readGroup, read_number_stopped 16 4 65536 true rest stops]
  rfl

theorem read_groups_halt (room : Nat) (started : Bool) (rest : List Char) (halts : Halts rest) :
    readGroups room started rest = ⟨[], false, rest⟩ := by
  cases room with
  | zero => rfl
  | succ room =>
      have stops : ∀ more, readSeparator started rest = some more → Stops 16 more := by
        intro more after
        cases started with
        | false =>
            cases after
            exact halts.stops
        | true =>
            cases rest with
            | nil => cases after
            | cons c tail =>
                simp only [readSeparator, readChar, if_true, Option.ite_none_right_eq_some, Option.some.injEq] at after
                exact halts.colon more (by rw [after.1, after.2])
      have nothing : (readSeparator started rest).bind readIpv4 = none ∧
          (readSeparator started rest).bind readGroup = none := by
        cases after : readSeparator started rest with
        | none => exact ⟨rfl, rfl⟩
        | some more => exact ⟨read_ipv4_stopped more (stops more after), read_group_stopped more (stops more after)⟩
      simp [readGroups, nothing.1, nothing.2]

def separator (started : Bool) : List Char := if started then [':'] else []

theorem read_separator_printed (started : Bool) (rest : List Char) :
    readSeparator started (separator started ++ rest) = some rest := by
  cases started with
  | false => rfl
  | true => exact read_char_same ':' rest

theorem read_groups_cons (room : Nat) (started : Bool) (group : UInt16) (rest : List Char) (stops : Stops 16 rest)
    (undotted : rest.head? ≠ some '.') :
    readGroups (room + 1) started (separator started ++ (groupChars group ++ rest)) =
      ⟨group :: (readGroups room true rest).groups, (readGroups room true rest).dotted,
        (readGroups room true rest).rest⟩ := by
  have digits := printed_digits 16 (by decide) (by decide) group.toNat
  have undotted := read_ipv4_group (groupChars group) rest digits stops undotted
  simp [readGroups, read_separator_printed, undotted, read_group_printed group rest stops]

theorem read_groups_dotted (room : Nat) (ip : Ipv4) (rest : List Char) (room_left : room ≠ 0) (stops : Stops 10 rest) :
    readGroups (room + 1) true (':' :: (ip.chars ++ rest)) = ⟨ip.groups, true, rest⟩ := by
  have separated : readSeparator true (':' :: (ip.chars ++ rest)) = some (ip.chars ++ rest) := read_char_same ':' _
  simp [readGroups, room_left, separated, read_ipv4_printed ip rest stops]

def tailChars (groups : List UInt16) : List Char := groups.flatMap fun group => ':' :: groupChars group

theorem colon_separated_cons (group : UInt16) (groups : List UInt16) :
    colonSeparated (group :: groups) = groupChars group ++ tailChars groups := by
  induction groups generalizing group with
  | nil => simp [colonSeparated, tailChars]
  | cons next groups ih => simp [colonSeparated, tailChars, ih next]

theorem tail_chars_stop (groups : List UInt16) (rest : List Char) (halts : Halts rest) :
    Stops 16 (tailChars groups ++ rest) ∧ (tailChars groups ++ rest).head? ≠ some '.' := by
  cases groups with
  | nil => exact ⟨halts.stops, halts.undotted⟩
  | cons group groups => exact ⟨stops_cons 16 ':' _ (by decide), by simp [tailChars]⟩

theorem read_groups_tail (groups : List UInt16) (room : Nat) (rest : List Char) (fits : groups.length ≤ room)
    (halts : Halts rest) : readGroups room true (tailChars groups ++ rest) = ⟨groups, false, rest⟩ := by
  induction groups generalizing room with
  | nil => exact read_groups_halt room true rest halts
  | cons group groups ih =>
      cases room with
      | zero => simp at fits
      | succ room =>
          obtain ⟨stops, undotted⟩ := tail_chars_stop groups rest halts
          have first := read_groups_cons room true group _ stops undotted
          rw [ih room (by simpa using fits)] at first
          simpa [tailChars, separator] using first

theorem read_groups_printed (groups : List UInt16) (room : Nat) (rest : List Char) (fits : groups.length ≤ room)
    (halts : Halts rest) : readGroups room false (colonSeparated groups ++ rest) = ⟨groups, false, rest⟩ := by
  cases groups with
  | nil => exact read_groups_halt room false rest halts
  | cons group groups =>
      cases room with
      | zero => simp at fits
      | succ room =>
          obtain ⟨stops, undotted⟩ := tail_chars_stop groups rest halts
          have first := read_groups_cons room false group _ stops undotted
          rw [read_groups_tail groups room rest (by simpa using fits) halts] at first
          rw [colon_separated_cons, List.append_assoc]
          exact first

/-! ### IPv6 -/

def Zeros (groups : List UInt16) (run : ZeroRun) : Prop :=
  ∀ i, run.start ≤ i → i < run.start + run.length → groups[i]? = some 0

theorem longest_zeros (groups rest : List UInt16) (start : Nat) (current longest : ZeroRun)
    (suffix : groups.drop start = rest) (here : Zeros groups current)
    (meets : current.length = 0 ∨ current.start + current.length = start) (best : Zeros groups longest) :
    Zeros groups (longestZeros rest start current longest) := by
  induction rest generalizing start current longest with
  | nil => exact best
  | cons group rest ih =>
      have next : groups[start]? = some group := by
        have first := congrArg (·[0]?) suffix
        simpa using first
      have behind : groups.drop (start + 1) = rest := by
        rw [← List.tail_drop, suffix]
        rfl
      by_cases zero : group = 0
      · -- The stretch that ends before this group, with this group.
        obtain ⟨grown, same, zeros, reaches⟩ : ∃ grown : ZeroRun,
            (if current.length = 0 then ⟨start, 1⟩ else ⟨current.start, current.length + 1⟩) = grown ∧
              Zeros groups grown ∧ grown.start + grown.length = start + 1 := by
          by_cases empty : current.length = 0
          · refine ⟨⟨start, 1⟩, if_pos empty, fun i low high => ?_, rfl⟩
            obtain rfl : i = start := Nat.le_antisymm (Nat.le_of_lt_succ high) low
            rw [next, zero]
          · have meets := meets.resolve_left empty
            refine ⟨⟨current.start, current.length + 1⟩, if_neg empty, fun i low high => ?_, by dsimp only; omega⟩
            by_cases last : i = start
            · rw [last, next, zero]
            · dsimp only at low high
              exact here i low (by omega)
        simp only [longestZeros, if_pos zero, same]
        apply ih (start + 1) grown _ behind zeros (.inr reaches)
        split
        · exact zeros
        · exact best
      · rw [longestZeros, if_neg zero]
        exact ih (start + 1) ⟨0, 0⟩ longest behind (fun i _ high => absurd high (by simp)) (.inl rfl) best

theorem zeros_split (groups : List UInt16) (run : ZeroRun) (zeros : Zeros groups run) :
    groups.take run.start ++ List.replicate run.length 0 ++ groups.drop (run.start + run.length) = groups := by
  have stretch : (groups.drop run.start).take run.length = List.replicate run.length 0 := by
    apply List.ext_getElem?
    intro i
    rw [List.getElem?_take, List.getElem?_replicate, List.getElem?_drop]
    split
    · exact zeros _ (by omega) (by omega)
    · rfl
  rw [← stretch, List.append_assoc, ← List.drop_drop, List.take_append_drop, List.take_append_drop]

theorem ipv6_groups (ip : Ipv6) : ipv6? ip.groups = some ip := by
  rw [ipv6?, dif_pos ip.eight]

theorem mapped_groups (ip : Ipv6) (v4 : Ipv4) (mapped : ip.mapped? = some v4) :
    ip.groups = [0, 0, 0, 0, 0, 65535] ++ v4.groups := by
  have halves (group : UInt16) :
      UInt16.ofNat ((UInt8.ofNat (group.toNat / 256)).toNat * 256 + (UInt8.ofNat (group.toNat % 256)).toNat) =
        group := by
    have small : group.toNat < 65536 := group.toNat_lt
    apply UInt16.toNat_inj.mp
    simp only [UInt16.toNat_ofNat', UInt8.toNat_ofNat']
    omega
  rw [Ipv6.mapped?] at mapped
  split at mapped
  · next high low groups =>
    cases mapped
    simp only [Ipv4.groups, halves, groups]
    rfl
  · cases mapped

theorem read_ipv6_mapped (ip : Ipv6) (v4 : Ipv4) (rest : List Char) (mapped : ip.mapped? = some v4)
    (stops : Stops 10 rest) : readIpv6 ("::ffff:".toList ++ (v4.chars ++ rest)) = some (ip, rest) := by
  have groups := mapped_groups ip v4 mapped
  have whole := ipv6_groups ip
  rw [groups] at whole
  have text : "::ffff:".toList ++ (v4.chars ++ rest) =
      ':' :: ':' :: (groupChars 65535 ++ ':' :: (v4.chars ++ rest)) := by
    rw [show groupChars 65535 = "ffff".toList by decide]
    rfl
  have head := read_groups_halt 8 false _ (halts_gap (groupChars 65535 ++ ':' :: (v4.chars ++ rest)))
  have tail := read_groups_cons 6 false 65535 (':' :: (v4.chars ++ rest)) (stops_cons 16 ':' _ (by decide)) (by simp)
  rw [read_groups_dotted 5 v4 rest (by decide) stops] at tail
  simp only [separator, Bool.false_eq_true, if_false, List.nil_append] at tail
  rw [text]
  simp only [readIpv6, head, read_char_same, List.length_nil, Nat.sub_zero, tail, Option.bind_some]
  simpa [Ipv4.groups] using whole

theorem read_ipv6_gap (ip : Ipv6) (run : ZeroRun) (rest : List Char) (zeros : Zeros ip.groups run)
    (some : 0 < run.length) (halts : Halts rest) :
    readIpv6 (colonSeparated (ip.groups.take run.start) ++
      ':' :: ':' :: (colonSeparated (ip.groups.drop (run.start + run.length)) ++ rest)) = .some (ip, rest) := by
  have whole := zeros_split ip.groups run zeros
  have read := ipv6_groups ip
  have eight := ip.eight
  generalize ip.groups.take run.start = before at whole
  generalize ip.groups.drop (run.start + run.length) = after at whole
  rw [← whole] at read eight
  simp only [List.length_append, List.length_replicate] at eight
  have head := read_groups_printed before 8 _ (by omega) (halts_gap (colonSeparated after ++ rest))
  have tail := read_groups_printed after (7 - before.length) rest (by omega) halts
  have gap : 8 - before.length - after.length = run.length := by omega
  simp only [readIpv6, head, read_char_same, tail, Option.bind_some, gap, read]
  rw [if_neg (by omega)]
  rfl

theorem read_ipv6_printed (ip : Ipv6) (rest : List Char) (halts : Halts rest) :
    readIpv6 (ip.chars ++ rest) = some (ip, rest) := by
  rw [Ipv6.chars]
  cases mapped : ip.mapped? with
  | some v4 =>
      rw [List.append_assoc]
      exact read_ipv6_mapped ip v4 rest mapped (stops_decimal rest halts.stops)
  | none =>
      have zeros := longest_zeros ip.groups ip.groups 0 ⟨0, 0⟩ ⟨0, 0⟩ rfl (fun i _ high => absurd high (by simp))
        (.inl rfl) fun i _ high => absurd high (by simp)
      dsimp only
      split
      · have read := read_ipv6_gap ip _ rest zeros (by omega) halts
        simpa using read
      · have groups := read_groups_printed ip.groups 8 rest (Nat.le_of_eq ip.eight) halts
        simp [readIpv6, groups, ip.eight, ipv6_groups ip]

/-! ### Socket addresses -/

theorem read_port_printed (port : UInt16) : readPort (':' :: Nat.toDigits 10 port.toNat) = some (port, []) := by
  have read := read_decimal_printed 65536 port.toNat [] port.toNat_lt (by simp [Stops])
  rw [List.append_nil] at read
  simp [readPort, read_char_same, read]

theorem read_scope_printed (scope : UInt32) (rest : List Char) :
    readScope (scopeChars scope ++ ']' :: rest) = (scope, ']' :: rest) := by
  rw [scopeChars]
  split
  · next none => simp [readScope, readChar, none]
  · have read := read_decimal_printed 4294967296 scope.toNat (']' :: rest) scope.toNat_lt
      (stops_cons 10 ']' rest (by decide))
    simp [readScope, read_char_same, read]

theorem scope_chars_halt (scope : UInt32) (rest : List Char) : Halts (scopeChars scope ++ ']' :: rest) := by
  rw [scopeChars]
  split
  · exact halts_cons ']' rest (by decide) (by decide) (by decide)
  · exact halts_cons '%' _ (by decide) (by decide) (by decide)

theorem parse_printed (address : SocketAddress) : SocketAddress.parse? address.chars = some address := by
  cases address with
  | v4 ip port =>
      have read := read_ipv4_printed ip (':' :: Nat.toDigits 10 port.toNat) (stops_cons 10 ':' _ (by decide))
      simp [SocketAddress.parse?, SocketAddress.chars, readSocketV4, read, read_port_printed]
  | v6 ip scope port =>
      have read := read_ipv6_printed ip _ (scope_chars_halt scope (':' :: Nat.toDigits 10 port.toNat))
      have bracket : readIpv4 ('[' :: (ip.chars ++ (scopeChars scope ++ ']' :: ':' :: Nat.toDigits 10 port.toNat))) =
          none := read_ipv4_stopped _ (stops_cons 16 '[' _ (by decide))
      simp [SocketAddress.parse?, SocketAddress.chars, readSocketV4, bracket, readSocketV6, read_char_same, read,
        read_scope_printed, read_port_printed]

end CameraServer.Net
