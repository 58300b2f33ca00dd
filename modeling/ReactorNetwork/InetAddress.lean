import ReactorNetwork.ByteOrder
import ReactorNetwork.TcpServer

/-!
# Addresses, their texts and the names made of them

A `sockaddr_in` keeps the port and the four octets of the address in network order;
the host is little-endian. `toHostPort` writes the octets as decimal numbers with dots
between them and the port behind a colon, into a buffer of a given size. `fromHostPort`
reads the octets back. A text is a list of characters.

`inet_ntop`, `inet_pton` and `snprintf` belong to the C library. `inet_pton` takes four
decimal numbers of up to three digits without leading zeros, each at most 255, with dots
between them, and leaves the address alone if the text is anything else; that is reported
in the log only.

A server's connections are named by its listening address and a number, in a string. A
client's are named by the peer's address and a number in an array of 32 characters, which
cuts long names off.
-/

namespace ReactorNetwork

open ByteOrder

/-- The address family of IPv4. -/
def AF_INET : Nat := 2

/-- `port` and `address` hold the numbers a little-endian host reads from the memory. -/
structure SockAddrIn where
  family : Nat
  port : BitVec 16
  address : BitVec 32
deriving DecidableEq, Repr

namespace SocketsOps

/-- `host_to_network16`. -/
def hostToNetwork16 (host : BitVec 16) : BitVec 16 := .ofNat 16 (reverseBytes 2 host.toNat)

/-- `host_to_network32`. -/
def hostToNetwork32 (host : BitVec 32) : BitVec 32 := .ofNat 32 (reverseBytes 4 host.toNat)

/-- `network_to_host16`. -/
def networkToHost16 (net : BitVec 16) : BitVec 16 := .ofNat 16 (reverseBytes 2 net.toNat)

/-- The byte of the address at an offset in memory. -/
def octet (address : BitVec 32) (offset : Nat) : Nat := address.toNat / 256 ^ offset % 256

/-- The address with the given bytes in memory. -/
def ofOctets (first second third fourth : Nat) : BitVec 32 :=
  .ofNat 32 (first + 256 * (second + 256 * (third + 256 * fourth)))

/-- `inet_ntop` for an IPv4 address: four decimal octets with dots between. -/
def inetNtop (address : BitVec 32) : List Char :=
  Nat.toDigits 10 (octet address 0) ++ '.' :: (Nat.toDigits 10 (octet address 1) ++ '.' ::
    (Nat.toDigits 10 (octet address 2) ++ '.' :: Nat.toDigits 10 (octet address 3)))

/-- A zero in front of further digits. -/
def leadingZero (text : List Char) : Bool := text.head? == some '0' && decide (1 < text.length)

/-- A decimal number of up to three digits, without leading zeros and at most 255. -/
def readOctet (text : List Char) : Option Nat :=
  if text ≠ [] ∧ text.length ≤ 3 ∧ text.all Char.isDigit = true ∧ leadingZero text = false ∧
      Nat.ofDigitChars 10 text 0 ≤ 255 then
    some (Nat.ofDigitChars 10 text 0)
  else none

/-- The text in front of the first separator, and what is behind it. -/
def cut (separator : Char) : List Char → List Char × Option (List Char)
  | [] => ([], none)
  | char :: rest =>
      if char = separator then ([], some rest)
      else (char :: (cut separator rest).1, (cut separator rest).2)

/-- `inet_pton` for an IPv4 address. Nothing is returned for a text that is not one. -/
def inetPton (text : List Char) : Option (BitVec 32) := do
  let behind ← (cut '.' text).2
  let further ← (cut '.' behind).2
  let last ← (cut '.' further).2
  let first ← readOctet (cut '.' text).1
  let second ← readOctet (cut '.' behind).1
  let third ← readOctet (cut '.' further).1
  let fourth ← readOctet last
  pure (ofOctets first second third fourth)

/-- `snprintf` into an array of the given size keeps room for the final zero. -/
def snprintf (size : Nat) (text : List Char) : List Char := text.take (size - 1)

/-- `to_host_port`, which prints into a buffer of the given size. -/
def toHostPort (size : Nat) (addr : SockAddrIn) : List Char :=
  snprintf size (inetNtop addr.address ++ ':' :: Nat.toDigits 10 (networkToHost16 addr.port).toNat)

/-- `from_host_port`, which keeps the old address if the host cannot be read. -/
def fromHostPort (ip : List Char) (port : BitVec 16) (addr : SockAddrIn) : SockAddrIn where
  family := AF_INET
  port := hostToNetwork16 port
  address := (inetPton ip).getD addr.address

/-- The host reads the port it has written. -/
theorem networkToHost16_hostToNetwork16 (port : BitVec 16) :
    networkToHost16 (hostToNetwork16 port) = port := by
  apply BitVec.eq_of_toNat_eq
  have written : reverseBytes 2 port.toNat < 2 ^ 16 := reverseBytes_lt 2 port.toNat
  have read : reverseBytes 2 (reverseBytes 2 port.toNat) < 2 ^ 16 := reverseBytes_lt 2 _
  simp only [networkToHost16, hostToNetwork16, BitVec.toNat_ofNat]
  rw [Nat.mod_eq_of_lt written, Nat.mod_eq_of_lt read]
  exact reverseBytes_twice 2 port.toNat port.isLt

/-- And writes the port it has read. -/
theorem hostToNetwork16_networkToHost16 (port : BitVec 16) :
    hostToNetwork16 (networkToHost16 port) = port := networkToHost16_hostToNetwork16 port

/-- A separator behind a front that does not hold it cuts the text there. -/
theorem cut_append {separator : Char} {front : List Char} (absent : separator ∉ front)
    (rest : List Char) : cut separator (front ++ separator :: rest) = (front, some rest) := by
  induction front with
  | nil => simp [cut]
  | cons char front inductionHypothesis =>
    obtain ⟨different, later⟩ := not_or.mp (mt List.mem_cons.mpr absent)
    rw [List.cons_append, cut, if_neg (Ne.symm different), inductionHypothesis later]

/-- A decimal number holds nothing but digits. -/
theorem not_mem_decimal {separator : Char} (mark : separator.isDigit = false) (number : Nat) :
    separator ∉ Nat.toDigits 10 number := by
  intro present
  have digit := Nat.isDigit_of_mem_toDigits (by decide) (by decide) present
  rw [mark] at digit
  cases digit

/-- No printed octet has a leading zero. -/
theorem leadingZero_decimal {number : Nat} (small : number ≤ 255) :
    leadingZero (Nat.toDigits 10 number) = false := by
  have all : ∀ octet : Fin 256, leadingZero (Nat.toDigits 10 octet) = false := by decide +kernel
  exact all ⟨number, Nat.lt_succ_of_le small⟩

/-- A printed octet is read back. -/
theorem readOctet_decimal {number : Nat} (small : number ≤ 255) :
    readOctet (Nat.toDigits 10 number) = some number := by
  have short : (Nat.toDigits 10 number).length ≤ 3 :=
    (Nat.length_toDigits_le_iff (by decide) (by decide)).mpr (by omega)
  have digits : (Nat.toDigits 10 number).all Char.isDigit = true :=
    List.all_eq_true.mpr fun _ present =>
      Nat.isDigit_of_mem_toDigits (by decide) (by decide) present
  unfold readOctet
  rw [if_pos ⟨Nat.toDigits_ne_nil, short, digits, leadingZero_decimal small, by simpa using small⟩,
    Nat.ofDigitChars_ten_toDigits]

/-- An octet is a byte. -/
theorem octet_le (address : BitVec 32) (offset : Nat) : octet address offset ≤ 255 :=
  Nat.le_of_lt_succ (Nat.mod_lt _ (by decide))

/-- The four octets are the address. -/
theorem ofOctets_octet (address : BitVec 32) :
    ofOctets (octet address 0) (octet address 1) (octet address 2) (octet address 3) = address := by
  apply BitVec.eq_of_toNat_eq
  have bound := address.isLt
  simp only [ofOctets, octet, BitVec.toNat_ofNat]
  omega

/-- What `inet_ntop` writes `inet_pton` reads. -/
theorem inetPton_inetNtop (address : BitVec 32) : inetPton (inetNtop address) = some address := by
  have read : ∀ offset, readOctet (Nat.toDigits 10 (octet address offset)) =
      some (octet address offset) := fun offset => readOctet_decimal (octet_le address offset)
  have dots : ∀ number rest, cut '.' (Nat.toDigits 10 number ++ '.' :: rest) =
      (Nat.toDigits 10 number, some rest) :=
    fun number rest => cut_append (not_mem_decimal (by decide) number) rest
  unfold inetPton inetNtop
  simp only [dots, read, Option.bind_eq_bind,
    Option.bind_some, pure, ofOctets_octet]

/-- A printed address has at most four numbers of three digits and three dots. -/
theorem inetNtop_length (address : BitVec 32) : (inetNtop address).length ≤ 15 := by
  have short : ∀ offset, (Nat.toDigits 10 (octet address offset)).length ≤ 3 := by
    intro offset
    have small := octet_le address offset
    exact (Nat.length_toDigits_le_iff (by decide) (by decide)).mpr (by omega)
  have first := short 0
  have second := short 1
  have third := short 2
  have fourth := short 3
  simp only [inetNtop, List.length_append, List.length_cons]
  omega

/-- A printed address holds neither of the marks that are put behind it. -/
theorem inetNtop_plain (address : BitVec 32) : ':' ∉ inetNtop address ∧ '#' ∉ inetNtop address := by
  have colon : ∀ number, ':' ∉ Nat.toDigits 10 number := not_mem_decimal (by decide)
  have hash : ∀ number, '#' ∉ Nat.toDigits 10 number := not_mem_decimal (by decide)
  constructor <;> simp [inetNtop, colon, hash]

end SocketsOps

namespace InetAddress

open SocketsOps

/-- `bzero`. -/
def zero : SockAddrIn := ⟨0, 0#16, 0#32⟩

/-- `InetAddress(uint16_t port)`: every interface. -/
def any (port : BitVec 16) : SockAddrIn :=
  { zero with
    family := AF_INET
    port := hostToNetwork16 port
    address := hostToNetwork32 0#32 }

/-- `InetAddress(std::string_view ip, uint16_t port)`. -/
def create (ip : List Char) (port : BitVec 16) : SockAddrIn := fromHostPort ip port zero

/-- `to_host_port` of an `InetAddress`, with its buffer of 32 bytes. -/
def toHostPort (addr : SockAddrIn) : List Char := SocketsOps.toHostPort 32 addr

/-- The array is long enough for every address. -/
theorem toHostPort_whole (addr : SockAddrIn) :
    toHostPort addr =
      inetNtop addr.address ++ ':' :: Nat.toDigits 10 (networkToHost16 addr.port).toNat ∧
      (toHostPort addr).length ≤ 21 := by
  have host := inetNtop_length addr.address
  have port : (Nat.toDigits 10 (networkToHost16 addr.port).toNat).length ≤ 5 := by
    have small := (networkToHost16 addr.port).isLt
    exact (Nat.length_toDigits_le_iff (by decide) (by decide)).mpr (by omega)
  have short : (inetNtop addr.address ++
      ':' :: Nat.toDigits 10 (networkToHost16 addr.port).toNat).length ≤ 21 := by
    simp only [List.length_append, List.length_cons]
    omega
  have whole : toHostPort addr =
      inetNtop addr.address ++ ':' :: Nat.toDigits 10 (networkToHost16 addr.port).toNat :=
    List.take_of_length_le (by omega)
  exact ⟨whole, whole ▸ short⟩

/-- Read a text of the form that `toHostPort` writes. -/
def ofHostPort (text : List Char) : SockAddrIn :=
  create (cut ':' text).1 (.ofNat 16 (Nat.ofDigitChars 10 ((cut ':' text).2.getD []) 0))

/-- An address is read back from its text. -/
theorem ofHostPort_toHostPort (addr : SockAddrIn) (inet : addr.family = AF_INET) :
    ofHostPort (toHostPort addr) = addr := by
  have split : cut ':' (toHostPort addr) = (inetNtop addr.address,
      some (Nat.toDigits 10 (networkToHost16 addr.port).toNat)) := by
    rw [(toHostPort_whole addr).1]
    exact cut_append (inetNtop_plain addr.address).1 _
  unfold ofHostPort
  rw [split]
  simp only [Option.getD_some, Nat.ofDigitChars_ten_toDigits, BitVec.ofNat_toNat,
    BitVec.setWidth_eq, create, fromHostPort, hostToNetwork16_networkToHost16, inetPton_inetNtop]
  rw [← inet]

/-- The text of every address, of any octets and any port, is written whole and determines
the address; and an address made from a printed host and a port is printed as just these. -/
theorem host_port_round_trip (addr : SockAddrIn) (inet : addr.family = AF_INET) :
    ofHostPort (toHostPort addr) = addr ∧
      ∀ port, toHostPort (create (inetNtop addr.address) port) =
        inetNtop addr.address ++ ':' :: Nat.toDigits 10 port.toNat := by
  refine ⟨ofHostPort_toHostPort addr inet, ?_⟩
  intro port
  rw [(toHostPort_whole _).1]
  simp only [create, fromHostPort, inetPton_inetNtop, Option.getD_some,
    networkToHost16_hostToNetwork16]

/-- The longest address is read back whole. -/
theorem host_port_round_trip_longest :
    ofHostPort (toHostPort (create "255.254.253.252".toList 65535#16)) =
      create "255.254.253.252".toList 65535#16 :=
  (host_port_round_trip (create "255.254.253.252".toList 65535#16) rfl).1

example : toHostPort (create "127.0.0.1".toList 9981#16) = "127.0.0.1:9981".toList := by decide

/-- The text of an address holds no number sign. -/
theorem toHostPort_plain (addr : SockAddrIn) : '#' ∉ toHostPort addr := by
  rw [(toHostPort_whole addr).1]
  have port : '#' ∉ Nat.toDigits 10 (networkToHost16 addr.port).toNat :=
    not_mem_decimal (by decide) _
  simp [inetNtop_plain, port]

/-- Connections of servers have the same name only if both their listening addresses and
their numbers are the same: a name determines the server it belongs to.

Proof: the address holds no number sign, so the name splits behind the address, whose text
determines it. -/
theorem server_names_identify (left right : SockAddrIn) (leftInet : left.family = AF_INET)
    (rightInet : right.family = AF_INET) (first second : Nat) :
    TcpServer.connName (toHostPort left) first = TcpServer.connName (toHostPort right) second ↔
      left = right ∧ first = second := by
  constructor
  · intro same
    have fronts := congrArg (cut '#') same
    simp only [TcpServer.connName, cut_append (toHostPort_plain left),
      cut_append (toHostPort_plain right), Prod.mk.injEq] at fronts
    have address : left = right := by
      rw [← ofHostPort_toHostPort left leftInet, ← ofHostPort_toHostPort right rightInet, fronts.1]
    subst address
    exact ⟨rfl, TcpServer.connName_injective _ same⟩
  · rintro ⟨rfl, rfl⟩
    rfl

/-- Servers on ports 80 and 8 give their first connections different names. -/
theorem server_names_differ :
    TcpServer.connName (toHostPort (any 80#16)) 1 ≠ TcpServer.connName (toHostPort (any 8#16)) 1 := by
  intro same
  exact absurd ((server_names_identify (any 80#16) (any 8#16) rfl rfl 1 1).mp same).1 (by decide)

end InetAddress

namespace TcpClient

open SocketsOps InetAddress

/-- The name `new_connection` prints into an array of 32 characters. -/
def connName (peer : SockAddrIn) (id : Nat) : List Char :=
  snprintf 32 (':' :: (toHostPort peer ++ '#' :: Nat.toDigits 10 id))

/-- The characters of the array that are left for the number. -/
def digitsKept (peer : SockAddrIn) : Nat := 29 - (toHostPort peer).length

/-- At least eight digits of the number are kept. -/
theorem digitsKept_pos (peer : SockAddrIn) : 8 ≤ digitsKept peer := by
  have short := (toHostPort_whole peer).2
  unfold digitsKept
  omega

/-- A name is the whole address and what is kept of the number. -/
theorem connName_cut (peer : SockAddrIn) (id : Nat) :
    connName peer id =
      ':' :: (toHostPort peer ++ '#' :: (Nat.toDigits 10 id).take (digitsKept peer)) := by
  have short := (toHostPort_whole peer).2
  have kept : 32 - 1 = (':' :: (toHostPort peer ++ ['#'])).length + digitsKept peer := by
    simp only [digitsKept, List.length_cons, List.length_append, List.length_nil]
    omega
  have split : ':' :: (toHostPort peer ++ '#' :: Nat.toDigits 10 id) =
      (':' :: (toHostPort peer ++ ['#'])) ++ Nat.toDigits 10 id := by simp
  rw [connName, snprintf, split, kept, List.take_length_add_append]
  simp

/-- Two names to one peer are the same where what is kept of the numbers is. -/
theorem connName_same_iff (peer : SockAddrIn) (first second : Nat) :
    connName peer first = connName peer second ↔
      (Nat.toDigits 10 first).take (digitsKept peer) =
        (Nat.toDigits 10 second).take (digitsKept peer) := by
  rw [connName_cut, connName_cut]
  simp

/-- The number with one digit more than are kept is cut to its tenth. -/
theorem power_cut (count : Nat) :
    (Nat.toDigits 10 (10 ^ (count + 1))).take (count + 1) = Nat.toDigits 10 (10 ^ count) := by
  have positive : 0 < 10 ^ count := Nat.pow_pos (by decide)
  have digits : Nat.toDigits 10 (10 ^ (count + 1)) = Nat.toDigits 10 (10 ^ count) ++ ['0'] := by
    rw [Nat.toDigits_of_base_le (by decide) (by rw [Nat.pow_succ]; omega), Nat.pow_succ,
      Nat.mul_div_cancel _ (by decide), Nat.mul_mod_left]
    rfl
  have width : (Nat.toDigits 10 (10 ^ count)).length = count + 1 := by
    have upper : (Nat.toDigits 10 (10 ^ count)).length ≤ count + 1 :=
      (Nat.length_toDigits_le_iff (by decide) (by omega)).mpr
        (Nat.pow_lt_pow_right (by decide) (by omega))
    have lower : ¬ (Nat.toDigits 10 (10 ^ count)).length ≤ count := by
      cases count with
      | zero => simp
      | succ count =>
        rw [Nat.length_toDigits_le_iff (by decide) (by omega)]
        omega
    omega
  rw [digits, ← width, List.take_left]

/-- The names of a client's connections to one peer stay distinct up to a number exactly
when that number has no more digits than the array keeps, at least eight of them.

Proof: numbers that short are printed whole. The first longer one, a power of ten, is cut
to the power before. -/
theorem client_names_distinct_iff (peer : SockAddrIn) (last : Nat) :
    (∀ first second, 1 ≤ first → first < second → second ≤ last →
      connName peer first ≠ connName peer second) ↔ last < 10 ^ digitsKept peer := by
  obtain ⟨count, kept⟩ : ∃ count, digitsKept peer = count + 1 :=
    ⟨digitsKept peer - 1, by have := digitsKept_pos peer; omega⟩
  simp only [ne_eq, connName_same_iff, kept]
  constructor
  · intro distinct
    by_contra reached
    refine distinct (10 ^ count) (10 ^ (count + 1)) (Nat.pow_pos (by decide))
      (Nat.pow_lt_pow_right (by decide) (by omega)) (Nat.le_of_not_lt reached) ?_
    have short : (Nat.toDigits 10 (10 ^ count)).length ≤ count + 1 :=
      (Nat.length_toDigits_le_iff (by decide) (by omega)).mpr
        (Nat.pow_lt_pow_right (by decide) (by omega))
    rw [List.take_of_length_le short, power_cut]
  · intro few first second _ ordered below same
    have whole : ∀ id, id ≤ last →
        (Nat.toDigits 10 id).take (count + 1) = Nat.toDigits 10 id := by
      intro id inside
      exact List.take_of_length_le
        ((Nat.length_toDigits_le_iff (by decide) (by omega)).mpr (Nat.lt_of_le_of_lt inside few))
    rw [whole first (by omega), whole second below] at same
    have numbers := congrArg (fun chars => Nat.ofDigitChars 10 chars 0) same
    simp only [Nat.ofDigitChars_ten_toDigits] at numbers
    omega

end TcpClient

end ReactorNetwork
